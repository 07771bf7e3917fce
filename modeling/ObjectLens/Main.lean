import ObjectLens.CommandLine.Run

/-! The program: reads the files that its arguments name and prints the outcome. -/

open ObjectLens CommandLine

namespace ObjectLens.Program

/-- What stands at a path. What can be seen but not read as a file counts as a directory. -/
def look (path : String) : IO FileState := do
  try
    return .regular (← IO.FS.readBinFile path)
  catch
    | .noFileOrDirectory .. => return .missing
    | _ => return .directory

def paths (arguments : List String) : List String :=
  match Invocation.parse arguments with
  | .ok invocation => invocation.binary :: invocation.config.toList
  | .error _ => []

end ObjectLens.Program

def main (arguments : List String) : IO UInt32 := do
  let found ← (ObjectLens.Program.paths arguments).mapM fun path => return (path, ← ObjectLens.Program.look path)
  let outcome := CommandLine.run (fun path => (found.lookup path).getD .missing) arguments
  IO.print outcome.output
  IO.eprint outcome.errors
  return UInt32.ofNat outcome.exitCode

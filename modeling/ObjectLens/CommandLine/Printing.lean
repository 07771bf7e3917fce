import ObjectLens.Config.File
import ObjectLens.Opening

/-! What the program does besides answering: it prints, and it may stop. What was printed before it stops stays
printed. -/

namespace ObjectLens.CommandLine

inductive Failure where
  | config (error : ConfigError)
  | load (path : String) (error : LoadError)
  | query (error : QueryError)
  deriving DecidableEq, Repr, Inhabited

namespace Failure

/-- What failed, and the cause below it if that is told apart. -/
def chain : Failure → String × Option String
  | .config error => (error.message, some error.cause)
  | .load path error => ("Failed to open binary " ++ path, some (error.message path))
  | .query error => (error.message, none)

def indented (text : String) : String :=
  "    " ++ String.ofList (text.toList.flatMap fun char => if char = '\n' then '\n' :: "    ".toList else [char])

def message (failure : Failure) : String :=
  match failure.chain with
  | (outer, none) => "Error: " ++ outer
  | (outer, some inner) => "Error: " ++ outer ++ "\n\nCaused by:\n" ++ indented inner

end Failure

/-- Why the program stops before its end. -/
inductive Break where
  | misuse
  | failed (cause : Failure)
  | aborted
  deriving DecidableEq, Repr, Inhabited

/-- A part of the program, which adds to the output and may stop. -/
abbrev Printing := ExceptT Break (StateM String)

def print (text : String) : Printing Unit := modify (· ++ text)

def printLine (line : String) : Printing Unit := print (line ++ "\n")

def printJson (value : Json) : Printing Unit := printLine value.pretty

end ObjectLens.CommandLine

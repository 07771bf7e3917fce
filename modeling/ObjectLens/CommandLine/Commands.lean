import ObjectLens.CommandLine.Printing
import ObjectLens.CommandLine.Report

/-! The six commands. Each opens the binary, finds its answer and then prints it, all of it as JSON or line by line. -/

namespace ObjectLens.CommandLine

open Report

variable (files : String → FileState) (path : String) (config : Config) (json : Bool)

def openBinary : Printing Image :=
  match Image.load none config (files path) with
  | .ok image => return image
  | .error .aborted => throw .aborted
  | .error (.refused cause) => throw (.failed (.load path cause))

def resolved (image : Image) (wanted : String) : Printing Function :=
  match image.resolve wanted with
  | .ok found => return found
  | .error error => throw (.failed (.query error))

def infoCommand : Printing Unit := do
  let image ← openBinary files path config
  if json then
    printJson (Report.ofImage path image).json
  else
    printLine ("Binary: " ++ path)
    printLine ("  Format: " ++ image.format.title)
    printLine ("  Arch: " ++ (image.arch.map Arch.name).getD "unknown")
    printLine ("  Functions: " ++ toString image.symbols.entries.length)
    printLine ("  Stubs: " ++ toString image.stubs.entries.length)
    printLine "  Code regions:"
    if image.regions.isEmpty then printLine "    (none)"
    for region in image.regions do
      printLine ("    " ++ regionLine region)
    printLine ("  SHA-256: " ++ Sha256.hex image.bytes)

def functionCommand (wanted : String) : Printing Unit := do
  let image ← openBinary files path config
  let found ← resolved image wanted
  if json then
    printJson found.toJson
  else
    printLine (functionLine found)
    for instruction in found.instructions do
      printLine ("  " ++ instruction.render)

def nameCommand (address : Nat) : Printing Unit := do
  let image ← openBinary files path config
  let found := image.nameAt? address
  if json then printJson (Report.name address found).json else printLine (lookupLine address found)

/-- Names the stub at an address. -/
def pltCommand (address : Nat) : Printing Unit := do
  let image ← openBinary files path config
  let found := image.stubNameAt? address
  if json then printJson (Report.name address found).json else printLine (lookupLine address found)

def symbolsCommand : Printing Unit := do
  let image ← openBinary files path config
  let entries := image.symbols.entries
  if json then
    printJson (Report.symbols entries).json
  else
    printLine s!"Functions ({entries.length}):"
    if entries.isEmpty then
      printLine "  (none)"
    else
      for entry in entries do
        printLine ("  " ++ symbolLine entry)

def stubsCommand : Printing Unit := do
  let image ← openBinary files path config
  let entries := image.stubs.entries
  if json then
    printJson (Report.stubs entries).json
  else
    printLine s!"Stubs ({entries.length}):"
    if entries.isEmpty then
      printLine "  (none)"
    else
      for entry in entries do
        printLine ("  " ++ stubLine entry)

end ObjectLens.CommandLine

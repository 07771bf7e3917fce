import ObjectLens.Image
import ObjectLens.Json
import ObjectLens.Sha256

/-! Answers to the questions of the command line: their JSON form, and the lines that tell parts of them as text. -/

namespace ObjectLens.CommandLine

inductive Report where
  | info (path : String) (format : Format) (arch : Option Arch) (functionCount stubCount : Nat)
    (regions : List Region) (digest : String)
  | function (found : Function)
  | name (address : Nat) (found : Option String)
  | symbols (entries : List Symbol)
  | stubs (entries : List Stub)
  deriving DecidableEq, Repr, Inhabited

namespace Report

def ofImage (path : String) (image : Image) : Report :=
  .info path image.format image.arch image.symbols.entries.length image.stubs.entries.length image.regions
    (Sha256.hex image.bytes)

def column (number : Nat) : String :=
  let digits := toString number
  String.ofList (List.replicate (8 - digits.length) ' ') ++ digits

def regionLine (region : Region) : String :=
  "- " ++ region.name ++ " " ++ Hex.word region.start ++ ".." ++ Hex.word region.stop

def symbolLine (symbol : Symbol) : String :=
  Hex.padded symbol.address ++ ".." ++ Hex.padded symbol.stop ++ " " ++ column symbol.size ++ " " ++ symbol.name

def stubLine (stub : Stub) : String := Hex.padded stub.address ++ " " ++ stub.name

def functionLine (function : Function) : String :=
  function.name ++ " @ " ++ Hex.word function.address ++
    s!" ({function.size} bytes, {function.instructions.length} instructions)"

def lookupLine (address : Nat) (found : Option String) : String := Hex.word address ++ ": " ++ found.getD "(none)"

def regionJson (region : Region) : Json :=
  .object [("name", .string region.name), ("start", .number region.start), ("end", .number region.stop),
    ("file_offset", .number region.fileOffset)]

def symbolJson (symbol : Symbol) : Json :=
  .object [("name", .string symbol.name), ("address", .number symbol.address), ("size", .number symbol.size)]

def stubJson (stub : Stub) : Json := .object [("address", .number stub.address), ("name", .string stub.name)]

def json : Report → Json
  | .info path format arch functionCount stubCount regions digest =>
    .object [("path", .string path), ("format", .string format.name), ("arch", .ofOption (arch.map Arch.name)),
      ("functions", .number functionCount), ("stubs", .number stubCount),
      ("regions", .array (regions.map regionJson)), ("sha256", .string digest)]
  | .function found => found.toJson
  | .name address found => .object [("address", .number address), ("name", .ofOption found)]
  | .symbols entries => .array (entries.map symbolJson)
  | .stubs entries => .array (entries.map stubJson)

end Report

end ObjectLens.CommandLine

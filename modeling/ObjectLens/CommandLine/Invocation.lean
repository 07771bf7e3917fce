import ObjectLens.Address
import ObjectLens.Config

/-! What a command line asks for. Options that choose how a binary is read may stand before and after the command;
arguments are read from left to right, and the first one that makes no sense, or that asks about the program itself,
settles the matter. -/

namespace ObjectLens.CommandLine

inductive Command where
  | info
  | function (name : String)
  | name (address : Nat)
  | plt (address : Nat)
  | symbols
  | stubs
  deriving DecidableEq, Repr, Inhabited

/-- A question about a binary, how to read that, and how to answer. -/
structure Invocation where
  command : Command
  binary : String
  json : Bool
  config : Option String
  arch : Option Arch
  att : Bool
  deriving DecidableEq, Repr, Inhabited

inductive Stop where
  | misuse
  | help
  | version
  deriving DecidableEq, Repr, Inhabited

inductive Argument where
  /-- A word that is no option. A lone dash is one. -/
  | word (text : String)
  | separator
  /-- Two dashes with a name, and a value after an equals sign. -/
  | long (name : String) (value : Option String)
  | short (letters : List Char)
  deriving DecidableEq, Repr, Inhabited

def Argument.ofString (text : String) : Argument :=
  match text.toList with
  | ['-', '-'] => .separator
  | '-' :: '-' :: rest =>
    let name := rest.takeWhile (· ≠ '=')
    let value := if name.length < rest.length then some (String.ofList (rest.drop (name.length + 1))) else none
    .long (String.ofList name) value
  | '-' :: letter :: letters => .short (letter :: letters)
  | _ => .word text

/-- The arguments of one level: those up to the command, or those after it. -/
structure Level where
  inCommand : Bool
  config : Option String := none
  arch : Option Arch := none
  att : Bool := false
  json : Bool := false
  words : List String := []
  deriving DecidableEq, Repr, Inhabited

namespace Level

/-- Adds an option with a value. No option may be repeated on a level. -/
def addValue (level : Level) (name value : String) : Except Stop Level :=
  if name = "config" then
    if level.config.isSome ∨ value.isEmpty then .error .misuse else .ok { level with config := some value }
  else if name = "arch" then
    match level.arch, Arch.ofName? value with
    | none, some arch => .ok { level with arch := some arch }
    | _, _ => .error .misuse
  else .error .misuse

/-- Adds an option without a value. Only talking more may be asked for repeatedly. -/
def addFlag (level : Level) (name : String) : Except Stop Level :=
  if name = "att" then
    if level.att then .error .misuse else .ok { level with att := true }
  else if name = "json" then
    if level.json ∨ !level.inCommand then .error .misuse else .ok { level with json := true }
  else if name = "verbose" then .ok level
  else if name = "help" then .error .help
  else if name = "version" ∧ !level.inCommand then .error .version
  else .error .misuse

def addLetter (level : Level) (letter : Char) : Except Stop Level :=
  if letter = 'v' then level.addFlag "verbose"
  else if letter = 'h' then level.addFlag "help"
  else if letter = 'V' then level.addFlag "version"
  else .error .misuse

def takesValue (name : String) : Bool := name = "config" || name = "arch"

/-- Reads the arguments of a level. Before the command, the first word ends it and is left with what follows. -/
def read (level : Level) : List String → Except Stop (Level × List String)
  | [] => .ok (level, [])
  | text :: rest =>
    match Argument.ofString text with
    | .word word =>
      if level.inCommand then read { level with words := level.words ++ [word] } rest else .ok (level, text :: rest)
    | .separator =>
      if level.inCommand then .ok ({ level with words := level.words ++ rest }, []) else .error .misuse
    | .short letters => do read (← letters.foldlM addLetter level) rest
    | .long name (some value) => do read (← level.addValue name value) rest
    | .long name none =>
      if takesValue name then
        match rest with
        | value :: rest =>
          match Argument.ofString value with
          | .word value => do read (← level.addValue name value) rest
          | _ => .error .misuse
        | [] => .error .misuse
      else do read (← level.addFlag name) rest

end Level

def commandNames : List String := ["info", "function", "name", "plt", "symbols", "stubs", "help"]

/-- The command with a name, and the path of a binary, among the words after it. -/
def Command.ofWords? (command : String) (words : List String) : Option (Command × String) := do
  let address? (text : String) : Option Nat := (Address.parse text).toOption
  match command, words with
  | "info", [binary] => return (.info, binary)
  | "function", [binary, wanted] => return (.function wanted, binary)
  | "name", [binary, address] => return (.name (← address? address), binary)
  | "plt", [binary, address] => return (.plt (← address? address), binary)
  | "symbols", [binary] => return (.symbols, binary)
  | "stubs", [binary] => return (.stubs, binary)
  | _, _ => none

namespace Invocation

/-- What a command line asks for. An option after the command goes before the same one in front of it. -/
def parse (arguments : List String) : Except Stop Invocation := do
  let (front, rest) ← Level.read { inCommand := false } arguments
  match rest with
  | [] => throw .misuse
  | "help" :: names => throw (if names.length ≤ 1 ∧ names.all commandNames.contains then .help else .misuse)
  | name :: rest =>
    if !commandNames.contains name then throw .misuse
    let (back, _) ← Level.read { inCommand := true } rest
    match Command.ofWords? name back.words with
    | none => throw .misuse
    | some (command, binary) =>
      if binary.isEmpty then throw .misuse
      return { command
               binary
               json := back.json
               config := back.config.or front.config
               arch := back.arch.or front.arch
               att := front.att || back.att }

end Invocation

end ObjectLens.CommandLine

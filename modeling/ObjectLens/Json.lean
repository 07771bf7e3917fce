/-! JSON values as they are written: objects keep the order of their fields. The compact form has no blanks; the
pretty form puts every item on a line of its own, two spaces deeper than its container, and closes an empty
container at once. Text is escaped only where JSON demands it. -/

namespace ObjectLens

/-- A JSON value to be written. All numbers of this library are natural. -/
inductive Json where
  | null
  | bool (value : Bool)
  | number (value : Nat)
  | string (text : String)
  | array (items : List Json)
  | object (fields : List (String × Json))

namespace Json

def ofOption (text : Option String) : Json := text.elim .null .string

/-- A character inside of a string. Quotes, backslashes and control characters are escaped, the common ones among
the latter by a letter. -/
def escape (char : Char) : List Char :=
  if char = '"' then ['\\', '"']
  else if char = '\\' then ['\\', '\\']
  else if char = '\n' then ['\\', 'n']
  else if char = '\r' then ['\\', 'r']
  else if char = '\t' then ['\\', 't']
  else if char.toNat = 8 then ['\\', 'b']
  else if char.toNat = 12 then ['\\', 'f']
  else if char.toNat < 32 then
    ['\\', 'u', '0', '0', Nat.digitChar (char.toNat / 16), Nat.digitChar (char.toNat % 16)]
  else [char]

def quote (text : String) : String := "\"" ++ String.ofList (text.toList.flatMap escape) ++ "\""

structure Layout where
  lineBreak : Nat → String
  afterName : String

namespace Layout

def compact : Layout := ⟨fun _ => "", ":"⟩

def pretty : Layout := ⟨fun depth => "\n" ++ String.ofList (List.replicate (2 * depth) ' '), ": "⟩

end Layout

mutual

def write (layout : Layout) (depth : Nat) : Json → String
  | .null => "null"
  | .bool true => "true"
  | .bool false => "false"
  | .number value => toString value
  | .string text => quote text
  | .array [] => "[]"
  | .array (item :: items) =>
    "[" ++ layout.lineBreak (depth + 1) ++ write layout (depth + 1) item ++
      writeItems layout (depth + 1) items ++ layout.lineBreak depth ++ "]"
  | .object [] => "\x7b\x7d"
  | .object (field :: fields) =>
    "\x7b" ++ layout.lineBreak (depth + 1) ++ writeField layout (depth + 1) field ++
      writeFields layout (depth + 1) fields ++ layout.lineBreak depth ++ "\x7d"

def writeItems (layout : Layout) (depth : Nat) : List Json → String
  | [] => ""
  | item :: items => "," ++ layout.lineBreak depth ++ write layout depth item ++ writeItems layout depth items

def writeField (layout : Layout) (depth : Nat) : String × Json → String
  | (name, value) => quote name ++ layout.afterName ++ write layout depth value

/-- The fields after the first one, each with its comma. -/
def writeFields (layout : Layout) (depth : Nat) : List (String × Json) → String
  | [] => ""
  | field :: fields =>
    "," ++ layout.lineBreak depth ++ writeField layout depth field ++ writeFields layout depth fields

end

def compact (value : Json) : String := write .compact 0 value

def pretty (value : Json) : String := write .pretty 0 value

end Json

end ObjectLens

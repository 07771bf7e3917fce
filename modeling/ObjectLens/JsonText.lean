import ObjectLens.Hex

/-! JSON as it is read, by the letter of its grammar: no comments, no trailing commas, nothing after the value. A
string may hold halves of a character that do not fit together; it is a string all the same, but no text. -/

namespace ObjectLens

/-- A JSON value that was read. Numbers are all alike, and objects keep every field, in order. -/
inductive JsonText where
  | null
  | bool (value : Bool)
  | number
  | string (text : Option String)
  | array (items : List JsonText)
  | object (fields : List (Option String × JsonText))
  deriving Inhabited

namespace JsonText

/-- A character that may stand between the parts of a value. -/
def isBlank (char : Char) : Bool := char = ' ' || char = '\t' || char = '\n' || char = '\r'

def skipBlanks (chars : List Char) : List Char := chars.dropWhile isBlank

def readUnit? : List Char → Option (Nat × List Char)
  | a :: b :: c :: d :: rest => do
    let unit ← [a, b, c, d].foldlM (fun front char => (Hex.digit? char).map (16 * front + ·)) 0
    return (unit, rest)
  | _ => none

def isFirstHalf (unit : Nat) : Bool := 0xd800 ≤ unit && unit < 0xdc00

def isSecondHalf (unit : Nat) : Bool := 0xdc00 ≤ unit && unit < 0xe000

/-- Reads an escaped character from after its letter, with its second half if it has one. There is no character if the
halves do not fit. -/
def readCharacter? (chars : List Char) : Option (Option Char × List Char) := do
  let (unit, rest) ← readUnit? chars
  if isSecondHalf unit then return (none, rest)
  if !isFirstHalf unit then return (some (Char.ofNat unit), rest)
  match rest with
  | '\\' :: 'u' :: more =>
    let (second, more) ← readUnit? more
    if isSecondHalf second then
      return (some (Char.ofNat (0x10000 + 0x400 * (unit - 0xd800) + (second - 0xdc00))), more)
    else return (none, rest)
  | _ => return (none, rest)

/-- The character that a letter stands for after a backslash. -/
def escaped? : Char → Option Char
  | '"' => some '"'
  | '\\' => some '\\'
  | '/' => some '/'
  | 'b' => some '\x08'
  | 'f' => some '\x0c'
  | 'n' => some '\n'
  | 'r' => some '\r'
  | 't' => some '\t'
  | _ => none

/-- Reads the rest of a string, given its front as long as that is text. -/
def readStringFrom? : Nat → Option (List Char) → List Char → Option (Option String × List Char)
  | 0, _, _ => none
  | left + 1, front, chars =>
    match chars with
    | [] => none
    | '"' :: rest => some (front.map String.ofList, rest)
    | '\\' :: 'u' :: rest => do
      let (char, rest) ← readCharacter? rest
      let text := do return (← front) ++ [← char]
      readStringFrom? left text rest
    | '\\' :: letter :: rest => do
      let char ← escaped? letter
      readStringFrom? left (front.map (· ++ [char])) rest
    | char :: rest =>
      if char.toNat < 0x20 ∨ char = '\\' then none else readStringFrom? left (front.map (· ++ [char])) rest

def readString? (chars : List Char) : Option (Option String × List Char) :=
  readStringFrom? (chars.length + 1) (some []) chars

def skipDigits? (chars : List Char) : Option (List Char) :=
  if chars.head?.any Char.isDigit then some (chars.dropWhile Char.isDigit) else none

/-- The text after the fraction of a number, if there is one. -/
def skipFraction? : List Char → Option (List Char)
  | '.' :: rest => skipDigits? rest
  | rest => some rest

/-- The text after the exponent of a number, if there is one. -/
def skipExponent? : List Char → Option (List Char)
  | 'e' :: '+' :: rest | 'e' :: '-' :: rest | 'E' :: '+' :: rest | 'E' :: '-' :: rest => skipDigits? rest
  | 'e' :: rest | 'E' :: rest => skipDigits? rest
  | rest => some rest

/-- The text after a number without a sign. A zero in front of other digits is not allowed. -/
def skipNumber? (chars : List Char) : Option (List Char) := do
  let rest ← match chars with
    | '0' :: rest => some rest
    | _ => skipDigits? chars
  skipExponent? (← skipFraction? rest)

mutual

/-- Reads a value after blanks. `left` bounds the number of steps here and below. -/
def readValue? : Nat → List Char → Option (JsonText × List Char)
  | 0, _ => none
  | left + 1, chars =>
    match skipBlanks chars with
    | 'n' :: 'u' :: 'l' :: 'l' :: rest => some (.null, rest)
    | 't' :: 'r' :: 'u' :: 'e' :: rest => some (.bool true, rest)
    | 'f' :: 'a' :: 'l' :: 's' :: 'e' :: rest => some (.bool false, rest)
    | '"' :: rest => (readString? rest).map fun found => (.string found.1, found.2)
    | '[' :: rest =>
      match skipBlanks rest with
      | ']' :: rest => some (.array [], rest)
      | rest => (readItems? left rest).map fun found => (.array found.1, found.2)
    | '\x7b' :: rest =>
      match skipBlanks rest with
      | '\x7d' :: rest => some (.object [], rest)
      | rest => (readFields? left rest).map fun found => (.object found.1, found.2)
    | '-' :: rest => (skipNumber? rest).map (.number, ·)
    | rest => (skipNumber? rest).map (.number, ·)

def readItems? : Nat → List Char → Option (List JsonText × List Char)
  | 0, _ => none
  | left + 1, chars => do
    let (item, rest) ← readValue? left chars
    match skipBlanks rest with
    | ']' :: rest => return ([item], rest)
    | ',' :: rest =>
      let (items, rest) ← readItems? left rest
      return (item :: items, rest)
    | _ => none

def readFields? : Nat → List Char → Option (List (Option String × JsonText) × List Char)
  | 0, _ => none
  | left + 1, chars => do
    let '"' :: rest := skipBlanks chars | none
    let (name, rest) ← readString? rest
    let ':' :: rest := skipBlanks rest | none
    let (value, rest) ← readValue? left rest
    match skipBlanks rest with
    | '\x7d' :: rest => return ([(name, value)], rest)
    | ',' :: rest =>
      let (fields, rest) ← readFields? left rest
      return ((name, value) :: fields, rest)
    | _ => none

end

def parse? (text : String) : Option JsonText := do
  let chars := text.toList
  let (value, rest) ← readValue? (2 * chars.length + 2) chars
  if (skipBlanks rest).isEmpty then return value else none

end JsonText

end ObjectLens

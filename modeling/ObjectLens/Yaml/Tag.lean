import ObjectLens.Hex
import ObjectLens.Yaml.Cursor

/-! Tags of YAML nodes as they are written: in full, or as a handle and what follows it. A handle stands for the front
of a tag, which the document may choose. -/

namespace ObjectLens.Yaml

/-- The name of a tag. Escapes may put any byte into it. -/
abbrev Tag := List UInt8

namespace Tag

def ofString (name : String) : Tag := name.toUTF8.toList

/-- The tag with a name in the namespace of the types that all documents share. -/
def shared (name : String) : Tag := ofString ("tag:yaml.org,2002:" ++ name)

/-- A character that may stand in a tag. Some have a meaning in flow collections; those may stand only where the end
of the tag is marked. -/
def isPart (anywhere : Bool) (char : Char) : Bool :=
  isNameChar char || [';', '/', '?', ':', '@', '&', '=', '+', '$', '.', '!', '~', '*', '\'', '(', ')'].contains char ||
    (anywhere && [',', '[', ']'].contains char)

def readByte? (cursor : Cursor) : Option (UInt8 × Cursor) := do
  if !cursor.sees '%' then none
  let high ← Hex.digit? (← cursor.peek? 1)
  let low ← Hex.digit? (← cursor.peek? 2)
  return (UInt8.ofNat (16 * high + low), cursor.advance 3)

/-- How many bytes follow the first byte of a character. -/
def followers? (first : UInt8) : Option Nat :=
  if first < 0x80 then some 0
  else if 0xc0 ≤ first ∧ first < 0xe0 then some 1
  else if 0xe0 ≤ first ∧ first < 0xf0 then some 2
  else if 0xf0 ≤ first ∧ first < 0xf8 then some 3
  else none

/-- Reads the bytes that follow the first one of a character. -/
def readFollowers? : Nat → Tag → Cursor → Option (Tag × Cursor)
  | 0, tag, cursor => some (tag, cursor)
  | left + 1, tag, cursor => do
    let (byte, next) ← readByte? cursor
    if byte < 0x80 ∨ 0xc0 ≤ byte then none
    readFollowers? left (tag ++ [byte]) next

/-- Reads the part of a tag at the position on from what is read of it. -/
def readPartFrom? (anywhere : Bool) : Nat → Tag → Cursor → Option (Tag × Cursor)
  | 0, tag, cursor => some (tag, cursor)
  | left + 1, tag, cursor =>
    match cursor.head? with
    | none => some (tag, cursor)
    | some char =>
      if char = '%' then do
        let (first, next) ← readByte? cursor
        let (tag, next) ← readFollowers? (← followers? first) (tag ++ [first]) next
        readPartFrom? anywhere left tag next
      else if isPart anywhere char then
        readPartFrom? anywhere left (tag ++ [UInt8.ofNat char.toNat]) cursor.advance
      else some (tag, cursor)

/-- Reads the part of a tag at the position, which may be empty. -/
def readPart? (anywhere : Bool) (cursor : Cursor) : Option (Tag × Cursor) :=
  readPartFrom? anywhere cursor.rest.length [] cursor

def untilZero (tag : Tag) : Tag := tag.takeWhile (· ≠ 0)

/-- Reads the part of a tag at the position, which may not be empty. -/
def readSomePart? (anywhere : Bool) (cursor : Cursor) : Option (Tag × Cursor) := do
  let (tag, next) ← readPart? anywhere cursor
  if tag.isEmpty then none
  return (untilZero tag, next)

/-- Reads an exclamation mark and the name after it, which is a handle only if another one closes it. -/
def readHandle (cursor : Cursor) : String × Bool × Cursor :=
  let (name, next) := cursor.advance.takeWhile isNameChar
  if next.sees '!' then (String.ofList ('!' :: name ++ ['!']), true, next.advance)
  else (String.ofList ('!' :: name), false, next)

/-- Reads a tag as its handle and what follows that. There is no handle in front of a tag that is written in full, and
of one that is a lone exclamation mark. -/
def readParts? (cursor : Cursor) : Option (String × Tag × Cursor) := do
  if cursor.sees '<' 1 then
    let (tag, next) ← readSomePart? true (cursor.advance 2)
    if !next.sees '>' then none
    return ("", tag, next.advance)
  let (handle, closed, next) := readHandle cursor
  if closed then
    let (tag, next) ← readSomePart? false next
    return (handle, tag, next)
  let (tag, next) ← readPart? false next
  let tag := untilZero (ofString (handle.drop 1).toString ++ tag)
  return if tag.isEmpty then ("", ofString "!", next) else ("!", tag, next)

/-- Reads a tag, after which a word has to end. In a flow collection a comma may follow. -/
def read? (inFlow : Bool) (cursor : Cursor) : Option (String × Tag × Cursor) := do
  let (handle, tag, next) ← readParts? cursor
  if next.endsWord ∨ (inFlow ∧ next.sees ',') then return (handle, tag, next) else none

end Tag

end ObjectLens.Yaml

import ObjectLens.Yaml.Scalar
import ObjectLens.Yaml.Tag

/-! The tokens of YAML text. Indentation is part of them: a block collection has a token at its start and one at its
end, wherever the text only goes in and out. -/

namespace ObjectLens.Yaml

inductive Token where
  | version (major minor : Nat)
  /-- A handle and the front of the tags that it stands for. -/
  | handle (name : String) (front : Tag)
  | documentStart
  | documentEnd
  | blockSequence
  | blockMapping
  | blockEnd
  | flowSequence
  | flowSequenceEnd
  | flowMapping
  | flowMappingEnd
  | flowEntry
  | blockEntry
  | key
  | value
  | reference (name : String)
  | anchor (name : String)
  | tag (handle : String) (rest : Tag)
  | scalar (text : String) (style : Style)
  deriving DecidableEq, Repr, Inhabited

namespace Token

/-- Reads a number of a version, which has at most nine digits. -/
def readNumber? (cursor : Cursor) : Option (Nat × Cursor) :=
  let (digits, next) := cursor.takeWhile Char.isDigit
  if digits.isEmpty ∨ 9 < digits.length then none
  else some (digits.foldl (fun front digit => 10 * front + (digit.toNat - '0'.toNat)) 0, next)

def readVersion? (cursor : Cursor) : Option (Token × Cursor) := do
  let (major, next) ← readNumber? cursor
  if !next.sees '.' then none
  let (minor, next) ← readNumber? next.advance
  return (.version major minor, next)

/-- Reads the handle of a directive and what it stands for. -/
def readHandle? (cursor : Cursor) : Option (Token × Cursor) := do
  if !cursor.sees '!' then none
  let (name, closed, next) := Tag.readHandle cursor
  if !closed ∧ name ≠ "!" then none
  if !next.meets isBlank then none
  let (front, next) ← Tag.readSomePart? true next.skipBlanks
  if !next.endsWord then none
  return (.handle name front, next)

/-- Reads a directive. Nothing but a comment may follow it on its line. -/
def readDirective? (cursor : Cursor) : Option (Token × Cursor) := do
  let (name, next) := cursor.advance.takeWhile isNameChar
  if !next.endsWord then none
  let (token, next) ←
    if name = ['Y', 'A', 'M', 'L'] then readVersion? next.skipBlanks
    else if name = ['T', 'A', 'G'] then readHandle? next.skipBlanks
    else none
  let next := next.skipBlanks.skipComment
  if next.endsLine then return (token, next.skipBreak) else none

/-- Reads the name of a node. A word or one of a few indicators ends it. -/
def readName? (cursor : Cursor) : Option (String × Cursor) :=
  let (name, next) := cursor.advance.takeWhile isNameChar
  let ended := next.endsWord || next.meets ['?', ':', ',', ']', '\x7d', '%', '@', '\x60'].contains
  if name.isEmpty ∨ !ended then none else some (String.ofList name, next)

/-- A character that starts no plain scalar, whatever follows it. -/
def isIndicator (char : Char) : Bool :=
  [',', '[', ']', '\x7b', '\x7d', '#', '&', '*', '!', '|', '>', '\'', '"', '%', '@', '\x60'].contains char

end Token

end ObjectLens.Yaml

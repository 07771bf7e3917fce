/-! Positions in YAML text, and the classes of characters that matter to its reader. -/

namespace ObjectLens.Yaml

/-- A character that may stand in a YAML text at all: printable ones, and three that move the position. -/
def isAllowed (char : Char) : Bool :=
  let code := char.toNat
  code = 0x9 || code = 0xa || code = 0xd || (0x20 ≤ code && code ≤ 0x7e) || code = 0x85 ||
    (0xa0 ≤ code && code ≤ 0xd7ff) || (0xe000 ≤ code && code ≤ 0xfffd) || 0x10000 ≤ code

def isBreak (char : Char) : Bool :=
  let code := char.toNat
  code = 0xa || code = 0xd || code = 0x85 || code = 0x2028 || code = 0x2029

def isBlank (char : Char) : Bool := char = ' ' || char = '\t'

/-- A character of names: of anchors, tag handles and directives. -/
def isNameChar (char : Char) : Bool := char.isAlphanum || char = '_' || char = '-'

def byteOrderMark : Char := Char.ofNat 0xfeff

/-- A position: what is left of the text, and where that starts. -/
structure Cursor where
  rest : List Char
  index : Nat := 0
  line : Nat := 0
  column : Nat := 0

namespace Cursor

def head? (cursor : Cursor) : Option Char := cursor.rest.head?

def peek? (cursor : Cursor) (distance : Nat) : Option Char := cursor.rest[distance]?

def sees (cursor : Cursor) (char : Char) (distance : Nat := 0) : Bool := cursor.peek? distance = some char

def meets (cursor : Cursor) (test : Char → Bool) (distance : Nat := 0) : Bool := (cursor.peek? distance).any test

/-- A blank, a line break or the end of the text stands so many places on. -/
def endsWord (cursor : Cursor) (distance : Nat := 0) : Bool :=
  (cursor.peek? distance).all fun char => isBlank char || isBreak char

/-- A line break or the end of the text stands at the position. -/
def endsLine (cursor : Cursor) : Bool := cursor.head?.all isBreak

/-- The position so many characters on, on the same line. -/
def advance (cursor : Cursor) (count : Nat := 1) : Cursor :=
  { cursor with
    rest := cursor.rest.drop count
    index := cursor.index + count
    column := cursor.column + count }

/-- The longest run of characters of the line that satisfy a test, and the position after it. -/
def takeWhile (cursor : Cursor) (test : Char → Bool) : List Char × Cursor :=
  let taken := cursor.rest.takeWhile fun char => test char && !isBreak char
  (taken, cursor.advance taken.length)

/-- The position after a run of characters of the line that satisfy a test. -/
def dropWhile (cursor : Cursor) (test : Char → Bool) : Cursor := (cursor.takeWhile test).2

def skipBlanks (cursor : Cursor) : Cursor := cursor.dropWhile isBlank

/-- The position at the end of the line, if a comment starts here. -/
def skipComment (cursor : Cursor) : Cursor := if cursor.sees '#' then cursor.dropWhile fun _ => true else cursor

/-- The line break at the position, as it counts in a text, and the start of the next line. Of the breaks only the two
separators of Unicode are kept apart. -/
def takeBreak? (cursor : Cursor) : Option (Char × Cursor) :=
  let after (count : Nat) : Cursor := ⟨cursor.rest.drop count, cursor.index + count, cursor.line + 1, 0⟩
  match cursor.rest with
  | '\r' :: '\n' :: _ => some ('\n', after 2)
  | char :: _ =>
    if !isBreak char then none
    else if char.toNat = 0x2028 ∨ char.toNat = 0x2029 then some (char, after 1)
    else some ('\n', after 1)
  | [] => none

/-- The start of the next line, if a line break stands at the position. -/
def skipBreak (cursor : Cursor) : Cursor := (cursor.takeBreak?.map (·.2)).getD cursor

/-- One of the two marks between documents stands at the position: three dashes or dots at the start of a line. -/
def atDocumentMark (cursor : Cursor) : Bool :=
  let repeated (char : Char) := cursor.sees char 0 && cursor.sees char 1 && cursor.sees char 2
  cursor.column = 0 && (repeated '-' || repeated '.') && cursor.endsWord 3

end Cursor

end ObjectLens.Yaml

import ObjectLens.Hex
import ObjectLens.Yaml.Cursor

/-! Scalars of YAML: plain and quoted ones, whose lines are folded into one, and block scalars, whose lines may be
kept. Every reader starts at the first character of the scalar and ends after its last one; no answer means that the
text is no YAML. -/

namespace ObjectLens.Yaml

inductive Style where
  | plain
  | singleQuoted
  | doubleQuoted
  | literal
  | folded
  deriving DecidableEq, Repr, Inhabited

/-- Blanks and line breaks between two words of a scalar. -/
structure Gap where
  blanks : List Char := []
  broken : Bool := false
  /-- The first line break. One that is escaped leaves nothing. -/
  first : List Char := []
  others : List Char := []

namespace Gap

/-- What a gap leaves in a scalar whose lines are folded: blanks stay, one line break becomes a space, and of several
ones the first is dropped. -/
def fold (gap : Gap) : List Char :=
  if !gap.broken then gap.blanks
  else if gap.first = ['\n'] then (if gap.others.isEmpty then [' '] else gap.others)
  else gap.first ++ gap.others

/-- Reads a gap on from what is read of it. Once a line ended, a tab may not stand left of the `margin`. `left` bounds
the number of characters. -/
def read? (margin : Nat) : Nat → Gap → Cursor → Option (Gap × Cursor)
  | 0, gap, cursor => some (gap, cursor)
  | left + 1, gap, cursor =>
    match cursor.head? with
    | none => some (gap, cursor)
    | some char =>
      if isBlank char then
        if gap.broken ∧ cursor.column < margin ∧ char = '\t' then none
        else
          let gap := if gap.broken then gap else { gap with blanks := gap.blanks ++ [char] }
          read? margin left gap cursor.advance
      else
        match cursor.takeBreak? with
        | none => some (gap, cursor)
        | some (lineBreak, next) =>
          let gap := if gap.broken then { gap with others := gap.others ++ [lineBreak] }
            else { gap with blanks := [], broken := true, first := [lineBreak] }
          read? margin left gap next

end Gap

namespace Scalar

/-- The character that a letter stands for after a backslash. -/
def escaped? : Char → Option Nat
  | '0' => some 0x0
  | 'a' => some 0x7
  | 'b' => some 0x8
  | 't' | '\t' => some 0x9
  | 'n' => some 0xa
  | 'v' => some 0xb
  | 'f' => some 0xc
  | 'r' => some 0xd
  | 'e' => some 0x1b
  | ' ' => some 0x20
  | '"' => some 0x22
  | '/' => some 0x2f
  | '\\' => some 0x5c
  | 'N' => some 0x85
  | '_' => some 0xa0
  | 'L' => some 0x2028
  | 'P' => some 0x2029
  | _ => none

/-- How many hexadecimal digits follow a letter after a backslash. -/
def digitCount? : Char → Option Nat
  | 'x' => some 2
  | 'u' => some 4
  | 'U' => some 8
  | _ => none

def readEscape? (cursor : Cursor) : Option (Char × Cursor) := do
  let letter ← cursor.head?
  match escaped? letter with
  | some code => return (Char.ofNat code, cursor.advance)
  | none =>
    let count ← digitCount? letter
    let digits := (cursor.rest.drop 1).take count
    if digits.length < count then none
    let code ← digits.foldlM (fun front char => (Hex.digit? char).map (16 * front + ·)) 0
    if code.isValidChar then return (Char.ofNat code, cursor.advance (1 + count)) else none

/-- Reads the word of a quoted scalar that starts at the position: up to a blank, a line break, or the closing quote.
After an escaped line break the gap that follows has begun already. -/
def readQuotedWord? (single : Bool) : Nat → List Char → Cursor → Option (List Char × Gap × Cursor)
  | 0, _, _ => none
  | left + 1, word, cursor =>
    let quote := if single then '\'' else '"'
    match cursor.head? with
    | none => some (word, {}, cursor)
    | some char =>
      if isBlank char ∨ isBreak char then some (word, {}, cursor)
      else if single ∧ char = '\'' ∧ cursor.sees '\'' 1 then
        readQuotedWord? single left (word ++ ['\'']) (cursor.advance 2)
      else if char = quote then some (word, {}, cursor)
      else if !single ∧ char = '\\' then
        if cursor.meets isBreak 1 then some (word, { broken := true }, cursor.advance.skipBreak)
        else do
          let (char, next) ← readEscape? cursor.advance
          readQuotedWord? single left (word ++ [char]) next
      else readQuotedWord? single left (word ++ [char]) cursor.advance

/-- Reads a quoted scalar on from the text before the position. A mark between documents may not stand in it. -/
def readQuotedFrom? (single : Bool) : Nat → List Char → Cursor → Option (List Char × Cursor)
  | 0, _, _ => none
  | left + 1, text, cursor => do
    if cursor.atDocumentMark then none
    let (text, gap, cursor) ← readQuotedWord? single (cursor.rest.length + 1) text cursor
    let quote := if single then '\'' else '"'
    if !gap.broken ∧ cursor.sees quote then return (text, cursor.advance)
    let (gap, cursor) ← Gap.read? 0 cursor.rest.length gap cursor
    if cursor.rest.isEmpty then none
    readQuotedFrom? single left (text ++ gap.fold) cursor

def readQuoted? (single : Bool) (cursor : Cursor) : Option (List Char × Cursor) :=
  readQuotedFrom? single (cursor.rest.length + 1) [] cursor.advance

/-- A character that separates the items of a flow collection. -/
def isFlowIndicator (char : Char) : Bool := [',', '[', ']', '\x7b', '\x7d'].contains char

/-- Reads the word of a plain scalar: up to a blank, a line break, or an indicator that ends the scalar. A colon that
touches an indicator inside of a flow collection is an error. -/
def readPlainWord? (inFlow : Bool) : Nat → List Char → Cursor → Option (List Char × Cursor)
  | 0, _, _ => none
  | left + 1, word, cursor =>
    match cursor.head? with
    | none => some (word, cursor)
    | some char =>
      if isBlank char ∨ isBreak char then some (word, cursor)
      else if inFlow ∧ char = ':' ∧ cursor.meets (fun next => next = '?' || isFlowIndicator next) 1 then none
      else if (char = ':' ∧ cursor.endsWord 1) ∨ (inFlow ∧ isFlowIndicator char) then some (word, cursor)
      else readPlainWord? inFlow left (word ++ [char]) cursor.advance

/-- A plain scalar that was read: its text, whether it ended with its line, and the position after the blanks and line
breaks that follow it. -/
structure Plain where
  text : List Char
  endedLine : Bool
  next : Cursor

/-- Reads a plain scalar on from the text and the gap before the position. It ends before a comment, before a mark
between documents, and where a line is not indented to the `margin`. -/
def readPlainFrom? (inFlow : Bool) (margin : Nat) : Nat → List Char → Gap → Cursor → Option Plain
  | 0, _, _, _ => none
  | left + 1, text, gap, cursor =>
    if cursor.atDocumentMark ∨ cursor.sees '#' then some ⟨text, gap.broken, cursor⟩
    else do
      let (word, cursor) ← readPlainWord? inFlow (cursor.rest.length + 1) [] cursor
      let (text, gap) := if word.isEmpty then (text, gap) else (text ++ gap.fold ++ word, {})
      if !cursor.meets fun char => isBlank char || isBreak char then return ⟨text, gap.broken, cursor⟩
      let (gap, cursor) ← Gap.read? margin cursor.rest.length gap cursor
      if !inFlow ∧ cursor.column < margin then return ⟨text, gap.broken, cursor⟩
      readPlainFrom? inFlow margin left text gap cursor

def readPlain? (inFlow : Bool) (margin : Nat) (cursor : Cursor) : Option Plain :=
  readPlainFrom? inFlow margin (cursor.rest.length + 1) [] {} cursor

/-- What becomes of the line breaks at the end of a block scalar. -/
inductive Chomping where
  | strip
  | clip
  | keep
  deriving DecidableEq, Repr, Inhabited

def chomping? (cursor : Cursor) : Option Chomping :=
  if cursor.sees '+' then some .keep else if cursor.sees '-' then some .strip else none

/-- The indentation that a digit asks for. The outer answer is absent if it is zero. -/
def increment? (cursor : Cursor) : Option (Option Nat) :=
  match cursor.head? with
  | none => some none
  | some char =>
    if !char.isDigit then some none else if char = '0' then none else some (some (char.toNat - '0'.toNat))

/-- Reads the signs after the indicator of a block scalar, in either order. -/
def readBlockHeader? (cursor : Cursor) : Option (Chomping × Option Nat × Cursor) := do
  match chomping? cursor with
  | some chomping =>
    let cursor := cursor.advance
    match ← increment? cursor with
    | some increment => return (chomping, some increment, cursor.advance)
    | none => return (chomping, none, cursor)
  | none =>
    match ← increment? cursor with
    | none => return (.clip, none, cursor)
    | some increment =>
      let cursor := cursor.advance
      match chomping? cursor with
      | some chomping => return (chomping, some increment, cursor.advance)
      | none => return (.clip, some increment, cursor)

/-- Reads the empty lines before a line of a block scalar and the indentation of that line. As long as the indentation
of the scalar is not known, all spaces belong to it; no tab may stand where it is to be. The answer holds the line
breaks and the greatest column that was met. -/
def readIndentation? (indent : Option Nat) :
    Nat → List Char → Nat → Cursor → Option (List Char × Nat × Cursor)
  | 0, _, _, _ => none
  | left + 1, breaks, widest, cursor =>
    let room := (indent.map (· - cursor.column)).getD cursor.rest.length
    let spaces := (cursor.rest.take room).takeWhile (· = ' ')
    let cursor := cursor.advance spaces.length
    let widest := max widest cursor.column
    let unindented := indent.all (cursor.column < ·)
    if unindented ∧ cursor.sees '\t' then none
    else
      match cursor.takeBreak? with
      | none => some (breaks, widest, cursor)
      | some (lineBreak, next) => readIndentation? indent left (breaks ++ [lineBreak]) widest next

/-- A block scalar that is partly read: its text, the break after its last line, the breaks after that, and whether
that line started with a blank. -/
structure Block where
  text : List Char := []
  lastBreak : List Char := []
  breaks : List Char := []
  startedBlank : Bool := false

/-- Adds a line to a block scalar. In a folded one, a break between two lines that start with no blank becomes a space
or is dropped before empty lines. -/
def Block.addLine (block : Block) (isLiteral : Bool) (line : List Char) (lastBreak : List Char) : Block :=
  let startsBlank := line.head?.any isBlank
  let folded := !isLiteral && block.lastBreak = ['\n'] && !block.startedBlank && !startsBlank
  let joint := if folded then (if block.breaks.isEmpty then [' '] else []) else block.lastBreak
  { text := block.text ++ joint ++ block.breaks ++ line
    lastBreak
    breaks := []
    startedBlank := startsBlank }

/-- Reads the lines of a block scalar that stand at its indentation. -/
def readBlockLines? (isLiteral : Bool) (indent : Nat) : Nat → Block → Cursor → Option (Block × Cursor)
  | 0, _, _ => none
  | left + 1, block, cursor =>
    if cursor.column ≠ indent ∨ cursor.rest.isEmpty then some (block, cursor)
    else do
      let (line, cursor) := cursor.takeWhile fun _ => true
      let (lastBreak, cursor) := match cursor.takeBreak? with
        | none => ([], cursor)
        | some (lineBreak, next) => ([lineBreak], next)
      let block := block.addLine isLiteral line lastBreak
      let (breaks, _, cursor) ← readIndentation? (some indent) (cursor.rest.length + 1) [] 0 cursor
      readBlockLines? isLiteral indent left { block with breaks } cursor

/-- Reads a block scalar inside of a collection that is indented so far. -/
def readBlock? (isLiteral : Bool) (parent : Int) (cursor : Cursor) : Option (List Char × Cursor) := do
  let (chomping, increment, cursor) ← readBlockHeader? cursor.advance
  let cursor := cursor.skipBlanks.skipComment
  if !cursor.endsLine then none
  let cursor := cursor.skipBreak
  let stated := increment.map fun count => (max parent 0).toNat + count
  let (breaks, widest, cursor) ← readIndentation? stated (cursor.rest.length + 1) [] 0 cursor
  let indent := stated.getD (max (max widest (parent + 1).toNat) 1)
  let (block, cursor) ← readBlockLines? isLiteral indent (cursor.rest.length + 1) { breaks } cursor
  let tail := match chomping with
    | .strip => []
    | .clip => block.lastBreak
    | .keep => block.lastBreak ++ block.breaks
  return (block.text ++ tail, cursor)

end Scalar

end ObjectLens.Yaml

import ObjectLens.Yaml.Outline

/-! From YAML text to its tokens. No answer means that the text is no YAML, whichever way. -/

namespace ObjectLens.Yaml

namespace Outline

/-- The position of the next token, after blanks, comments and line breaks. A new line may start with a key. Where a
key may stand there is no room for tabs, and a byte order mark may start a line. `left` bounds the number of lines. -/
def skipToToken : Nat → Outline → Cursor → Outline × Cursor
  | 0, outline, cursor => (outline, cursor)
  | left + 1, outline, cursor =>
    let cursor := if cursor.column = 0 ∧ cursor.sees byteOrderMark then cursor.advance else cursor
    let tabs := !outline.inBlock || !outline.keyAllowed
    let cursor := (cursor.dropWhile fun char => char = ' ' || (tabs && char = '\t')).skipComment
    match cursor.takeBreak? with
    | none => (outline, cursor)
    | some (_, next) =>
      skipToToken left { outline with keyAllowed := outline.keyAllowed || outline.inBlock } next

/-- Reads a plain scalar. A key may stand after it if it ended its line. -/
def readPlain? (outline : Outline) (cursor : Cursor) : Option (Outline × Cursor) := do
  let margin := outline.columns.head?.elim 0 (· + 1)
  let plain ← Scalar.readPlain? (!outline.inBlock) margin cursor
  let token : Token := .scalar (String.ofList plain.text) .plain
  return ((← outline.noteKey? cursor).pushBefore token plain.endedLine, plain.next)

def readQuoted? (outline : Outline) (single : Bool) (cursor : Cursor) : Option (Outline × Cursor) := do
  let (text, next) ← Scalar.readQuoted? single cursor
  let token : Token := .scalar (String.ofList text) (if single then .singleQuoted else .doubleQuoted)
  return (← outline.pushNode? token cursor, next)

/-- Reads a block scalar. A key may stand after it. -/
def readBlock? (outline : Outline) (isLiteral : Bool) (cursor : Cursor) : Option (Outline × Cursor) := do
  let parent := outline.columns.head?.elim (-1) Int.ofNat
  let (text, next) ← Scalar.readBlock? isLiteral parent cursor
  let token : Token := .scalar (String.ofList text) (if isLiteral then .literal else .folded)
  return ((← outline.dropKey?).pushBefore token true, next)

/-- Reads the token at the position, which starts with a character. -/
def readToken? (outline : Outline) (cursor : Cursor) : Char → Option (Outline × Cursor)
  | '[' => do return (← outline.openFlow? .flowSequence cursor, cursor.advance)
  | '\x7b' => do return (← outline.openFlow? .flowMapping cursor, cursor.advance)
  | ']' => do return (← outline.closeFlow? .flowSequenceEnd, cursor.advance)
  | '\x7d' => do return (← outline.closeFlow? .flowMappingEnd, cursor.advance)
  | ',' => do return ((← outline.dropKey?).pushBefore .flowEntry true, cursor.advance)
  | '*' => do
    let (name, next) ← Token.readName? cursor
    return (← outline.pushNode? (.reference name) cursor, next)
  | '&' => do
    let (name, next) ← Token.readName? cursor
    return (← outline.pushNode? (.anchor name) cursor, next)
  | '!' => do
    let (handle, tag, next) ← Tag.read? (!outline.inBlock) cursor
    return (← outline.pushNode? (.tag handle tag) cursor, next)
  | '\'' => outline.readQuoted? true cursor
  | '"' => outline.readQuoted? false cursor
  | char =>
    let inFlow := !outline.inBlock
    let alone := cursor.endsWord 1
    if char = '-' ∧ alone then do return (← outline.pushEntry? cursor, cursor.advance)
    else if char = '?' ∧ (inFlow ∨ alone) then do return (← outline.pushKey? cursor, cursor.advance)
    else if char = ':' ∧ (inFlow ∨ alone) then do return (← outline.pushValue? cursor, cursor.advance)
    else if !inFlow ∧ (char = '|' ∨ char = '>') then outline.readBlock? (char = '|') cursor
    else if Token.isIndicator char ∨ isBlank char then none
    else outline.readPlain? cursor

/-- Reads the token or the directive at the position, which starts with a character. -/
def readNext? (outline : Outline) (cursor : Cursor) (first : Char) : Option (Outline × Cursor) :=
  if cursor.column = 0 ∧ first = '%' then do
    let (token, next) ← Token.readDirective? cursor
    return (← outline.pushMark? token, next)
  else if cursor.atDocumentMark then do
    return (← outline.pushMark? (if first = '-' then .documentStart else .documentEnd), cursor.advance 3)
  else outline.readToken? cursor first

/-- Reads tokens up to the end of the text. Every one takes up some of it. -/
def readAll? : Nat → Outline → Cursor → Option (List Token)
  | 0, _, _ => none
  | left + 1, outline, cursor => do
    let (outline, cursor) := skipToToken (cursor.rest.length + 1) outline cursor
    let outline := (← outline.dropOldKeys? cursor).closeBlocks cursor.column
    match cursor.head? with
    | none => return (← outline.closeAllBlocks.dropKey?).tokens.toList
    | some first =>
      let (outline, cursor) ← outline.readNext? cursor first
      readAll? left outline cursor

end Outline

/-- The tokens of a text. All its characters have to be allowed. -/
def tokens? (text : String) : Option (List Token) :=
  let chars := text.toList
  if chars.all isAllowed then Outline.readAll? (chars.length + 1) {} ⟨chars, 0, 0, 0⟩ else none

end ObjectLens.Yaml

import ObjectLens.Yaml.Token

/-! What is known of the shape of a YAML text while its tokens are read: which collections are open, and whether what
was read last may turn out to be a key. A key shows only by the colon after it; then its tokens are put in front of it
after the fact. -/

namespace ObjectLens.Yaml

structure PossibleKey where
  required : Bool
  place : Nat
  index : Nat
  line : Nat
  column : Nat
  deriving DecidableEq, Repr, Inhabited

/-- The shape of a text up to a position, and the tokens so far. -/
structure Outline where
  tokens : Array Token := #[]
  /-- The columns of the block collections that are open, the innermost one first. -/
  columns : List Nat := []
  keyAllowed : Bool := true
  possibleKey : Option PossibleKey := none
  /-- The possible keys around each flow collection that is open, the innermost one first. -/
  outerKeys : List (Option PossibleKey) := []

namespace Outline

def inBlock (outline : Outline) : Bool := outline.outerKeys.isEmpty

def push (outline : Outline) (token : Token) : Outline := { outline with tokens := outline.tokens.push token }

def insert (outline : Outline) (place : Nat) (token : Token) : Outline :=
  let tokens := outline.tokens
  { outline with tokens := tokens.extract 0 place ++ #[token] ++ tokens.extract place tokens.size }

/-- Opens a block collection at a column unless the innermost one is there already. -/
def openBlock (outline : Outline) (place column : Nat) (token : Token) : Outline :=
  if outline.inBlock ∧ outline.columns.head?.all (· < column) then
    { outline.insert place token with columns := column :: outline.columns }
  else outline

/-- Closes the block collections that are further in than a column. -/
def closeBlocks (outline : Outline) (column : Nat) : Outline :=
  if !outline.inBlock then outline
  else
    let closed := outline.columns.takeWhile (column < ·)
    { outline with
      columns := outline.columns.drop closed.length
      tokens := outline.tokens ++ (closed.map fun _ => Token.blockEnd).toArray }

def closeAllBlocks (outline : Outline) : Outline :=
  if !outline.inBlock then outline
  else
    { outline with
      columns := []
      tokens := outline.tokens ++ (outline.columns.map fun _ => Token.blockEnd).toArray }

/-- Gives up a possible key, unless there has to be one. -/
def dropKey? (outline : Outline) : Option Outline :=
  if outline.possibleKey.any (·.required) then none else some { outline with possibleKey := none }

/-- Notes that a node which may be a key starts at the position, if one may stand there. -/
def noteKey? (outline : Outline) (cursor : Cursor) : Option Outline := do
  if !outline.keyAllowed then return outline
  let required := outline.inBlock && outline.columns.head? = some cursor.column
  let outline ← outline.dropKey?
  return { outline with
    possibleKey := some ⟨required, outline.tokens.size, cursor.index, cursor.line, cursor.column⟩ }

/-- A possible key that is left at the position: a key ends on its line, and soon. -/
def leftKey? (cursor : Cursor) : Option PossibleKey → Option (Option PossibleKey)
  | none => some none
  | some key =>
    if cursor.line ≤ key.line ∧ cursor.index ≤ key.index + 1024 then some (some key)
    else if key.required then none
    else some none

/-- Gives up the possible keys that are too far behind the position. -/
def dropOldKeys? (outline : Outline) (cursor : Cursor) : Option Outline := do
  return { outline with
    possibleKey := ← leftKey? cursor outline.possibleKey
    outerKeys := ← outline.outerKeys.mapM (leftKey? cursor) }

/-- Adds a token after which a key may or may not stand. -/
def pushBefore (outline : Outline) (token : Token) (keyAllowed : Bool) : Outline :=
  { outline.push token with keyAllowed }

/-- Adds the mark between two documents, or a directive. -/
def pushMark? (outline : Outline) (token : Token) : Option Outline := do
  return (← outline.closeAllBlocks.dropKey?).pushBefore token false

def openFlow? (outline : Outline) (token : Token) (cursor : Cursor) : Option Outline := do
  let outline ← outline.noteKey? cursor
  return { outline.pushBefore token true with
    possibleKey := none
    outerKeys := outline.possibleKey :: outline.outerKeys }

/-- Closes the innermost flow collection, if one is open. -/
def closeFlow? (outline : Outline) (token : Token) : Option Outline := do
  let outline := (← outline.dropKey?).pushBefore token false
  match outline.outerKeys with
  | [] => return outline
  | key :: outer => return { outline with possibleKey := key, outerKeys := outer }

/-- Adds an indicator at the position that opens a block collection if it is the first one there. -/
def pushIndicator? (outline : Outline) (collection token : Token) (cursor : Cursor) : Option Outline :=
  if !outline.inBlock then some (outline.push token)
  else if !outline.keyAllowed then none
  else some ((outline.openBlock outline.tokens.size cursor.column collection).push token)

def pushEntry? (outline : Outline) (cursor : Cursor) : Option Outline := do
  let outline ← (← outline.dropKey?).pushIndicator? .blockSequence .blockEntry cursor
  return { outline with keyAllowed := true }

def pushKey? (outline : Outline) (cursor : Cursor) : Option Outline := do
  let outline ← (← outline.dropKey?).pushIndicator? .blockMapping .key cursor
  return { outline with keyAllowed := outline.inBlock }

/-- Adds the colon of a value at the position. The possible key before it is one. -/
def pushValue? (outline : Outline) (cursor : Cursor) : Option Outline :=
  match outline.possibleKey with
  | some key =>
    let opened := (outline.insert key.place .key).openBlock key.place key.column .blockMapping
    some { opened.pushBefore .value false with possibleKey := none }
  | none => do
    let outline ← outline.pushIndicator? .blockMapping .value cursor
    return { outline with keyAllowed := outline.inBlock }

/-- Adds what starts a node at the position and may be a key. -/
def pushNode? (outline : Outline) (token : Token) (cursor : Cursor) : Option Outline := do
  return (← outline.noteKey? cursor).pushBefore token false

end Outline

end ObjectLens.Yaml

import ObjectLens.Yaml.Token

/-! From the tokens of a YAML text to the tree of its nodes. Nodes that are left out are empty plain scalars. No answer
means that the tokens make no document. -/

namespace ObjectLens.Yaml

structure Scalar where
  text : String
  style : Style
  tag : Option Tag
  deriving DecidableEq, Repr, Inhabited

def Scalar.blank : Scalar := ⟨"", .plain, none⟩

/-- A node. Those that stand for a named node hold a number that leads to it. -/
inductive Node where
  | scalar (scalar : Scalar)
  | sequence (items : List Node)
  | mapping (pairs : List (Node × Node))
  | reference (number : Nat)
  deriving Inhabited

def Node.blank : Node := .scalar .blank

structure Names where
  /-- Every name with the number of the last node that it was given to. -/
  numbers : List (String × Nat) := []
  /-- Every number with its node, or without one where that is no scalar. Of two nodes with a number the first one in
  the list counts. -/
  nodes : List (Nat × Option Scalar) := []

namespace Names

/-- Gives a name, if there is one, to a node. Its number is how many other names there are, or how many there are in
all if the name is not new. -/
def add (names : Names) (name : Option String) (node : Option Scalar) : Names :=
  match name with
  | none => names
  | some name =>
    let number := names.numbers.length
    { numbers := (name, number) :: names.numbers.filter (·.1 ≠ name)
      nodes := (number, node) :: names.nodes }

/-- The number of the last node that a name was given to. -/
def number? (names : Names) (name : String) : Option Nat := names.numbers.lookup name

def scalar? (names : Names) (number : Nat) : Option Scalar := (names.nodes.lookup number).join

end Names

/-- What stands in front of a node: its name and its tag, in either order. -/
structure Properties where
  name : Option String := none
  tag : Option (String × Tag) := none

namespace Properties

def take : List Token → Properties × List Token
  | .anchor name :: .tag handle tag :: rest => (⟨some name, some (handle, tag)⟩, rest)
  | .tag handle tag :: .anchor name :: rest => (⟨some name, some (handle, tag)⟩, rest)
  | .anchor name :: rest => (⟨some name, none⟩, rest)
  | .tag handle tag :: rest => (⟨none, some (handle, tag)⟩, rest)
  | rest => ({}, rest)

def isEmpty (properties : Properties) : Bool := properties.name.isNone && properties.tag.isNone

/-- The tag in full. Its handle has to be known. -/
def fullTag? (properties : Properties) (handles : List (String × Tag)) : Option (Option Tag) :=
  match properties.tag with
  | none => some none
  | some ("", tag) => some (some tag)
  | some (handle, tag) => (handles.lookup handle).map fun front => some (front ++ tag)

end Properties

/-- The tokens that are left, and the names that were given before them. -/
structure Remainder where
  tokens : List Token
  names : Names := {}

namespace Remainder

def startsWith (remainder : Remainder) (tokens : List Token) : Bool := remainder.tokens.head?.any tokens.contains

def drop (remainder : Remainder) : Remainder := { remainder with tokens := remainder.tokens.drop 1 }

end Remainder

namespace Node

mutual

/-- Reads a node. In a block there may be block collections; as a value of a mapping, the items of a sequence may stand
at its own column. `left` bounds the number of steps here and below. -/
def read? (handles : List (String × Tag)) (inBlock atColumn : Bool) : Nat → Remainder → Option (Node × Remainder)
  | 0, _ => none
  | left + 1, remainder =>
    match remainder.tokens with
    | .reference name :: _ => do return (.reference (← remainder.names.number? name), remainder.drop)
    | _ => do
      let (properties, tokens) := Properties.take remainder.tokens
      let tag ← properties.fullTag? handles
      let named (node : Option Scalar) (tokens : List Token) : Remainder :=
        ⟨tokens, remainder.names.add properties.name node⟩
      let sequence := fun (found : List Node × Remainder) => (Node.sequence found.1, found.2)
      let mapping := fun (found : List (Node × Node) × Remainder) => (Node.mapping found.1, found.2)
      match tokens with
      | .scalar text style :: rest =>
        let scalar : Scalar := ⟨text, style, if tag = some (Tag.ofString "!") then none else tag⟩
        return (.scalar scalar, named (some scalar) rest)
      | .flowSequence :: rest => (flowItems? handles true left (named none rest)).map sequence
      | .flowMapping :: rest => (flowPairs? handles true left (named none rest)).map mapping
      | first :: rest =>
        if first = .blockEntry ∧ atColumn then (columnItems? handles left (named none tokens)).map sequence
        else if first = .blockSequence ∧ inBlock then (blockItems? handles left (named none rest)).map sequence
        else if first = .blockMapping ∧ inBlock then (blockPairs? handles left (named none rest)).map mapping
        else if properties.isEmpty then none
        else return (.scalar ⟨"", .plain, tag⟩, named (some ⟨"", .plain, tag⟩) tokens)
      | [] =>
        if properties.isEmpty then none
        else return (.scalar ⟨"", .plain, tag⟩, named (some ⟨"", .plain, tag⟩) [])

/-- Reads a node that is left out if one of some tokens stands there. -/
def readUnless? (handles : List (String × Tag)) (inBlock atColumn : Bool) (ends : List Token) :
    Nat → Remainder → Option (Node × Remainder)
  | 0, _ => none
  | left + 1, remainder =>
    if remainder.startsWith ends then some (.blank, remainder)
    else read? handles inBlock atColumn left remainder

/-- Reads the value of a pair, which is left out without its colon. -/
def readValue? (handles : List (String × Tag)) (inBlock : Bool) (ends : List Token) :
    Nat → Remainder → Option (Node × Remainder)
  | 0, _ => none
  | left + 1, remainder =>
    if remainder.startsWith [.value] then readUnless? handles inBlock inBlock ends left remainder.drop
    else some (.blank, remainder)

def blockItems? (handles : List (String × Tag)) : Nat → Remainder → Option (List Node × Remainder)
  | 0, _ => none
  | left + 1, remainder =>
    if remainder.startsWith [.blockEnd] then some ([], remainder.drop)
    else if !remainder.startsWith [.blockEntry] then none
    else do
      let (item, remainder) ← readUnless? handles true false [.blockEntry, .blockEnd] left remainder.drop
      let (items, remainder) ← blockItems? handles left remainder
      return (item :: items, remainder)

/-- Reads the items of a sequence at the column of the mapping around it. -/
def columnItems? (handles : List (String × Tag)) : Nat → Remainder → Option (List Node × Remainder)
  | 0, _ => none
  | left + 1, remainder =>
    if !remainder.startsWith [.blockEntry] then some ([], remainder)
    else do
      let ends := [.blockEntry, .key, .value, .blockEnd]
      let (item, remainder) ← readUnless? handles true false ends left remainder.drop
      let (items, remainder) ← columnItems? handles left remainder
      return (item :: items, remainder)

def blockPairs? (handles : List (String × Tag)) : Nat → Remainder → Option (List (Node × Node) × Remainder)
  | 0, _ => none
  | left + 1, remainder =>
    if remainder.startsWith [.blockEnd] then some ([], remainder.drop)
    else if !remainder.startsWith [.key] then none
    else do
      let ends := [.key, .value, .blockEnd]
      let (key, remainder) ← readUnless? handles true true ends left remainder.drop
      let (value, remainder) ← readValue? handles true ends left remainder
      let (pairs, remainder) ← blockPairs? handles left remainder
      return ((key, value) :: pairs, remainder)

/-- Reads the items of a flow sequence up to its end. A comma stands before each one but the first. -/
def flowItems? (handles : List (String × Tag)) (first : Bool) : Nat → Remainder → Option (List Node × Remainder)
  | 0, _ => none
  | left + 1, remainder =>
    if remainder.startsWith [.flowSequenceEnd] then some ([], remainder.drop)
    else if !first ∧ !remainder.startsWith [.flowEntry] then none
    else
      let remainder := if first then remainder else remainder.drop
      if remainder.startsWith [.flowSequenceEnd] then some ([], remainder.drop)
      else do
        let (item, remainder) ←
          if remainder.startsWith [.key] then flowPair? handles left remainder.drop
          else read? handles false false left remainder
        let (items, remainder) ← flowItems? handles false left remainder
        return (item :: items, remainder)

/-- Reads a pair that is an item of a flow sequence, from after the mark of its key. A key that is left out takes the
token in its place with it. -/
def flowPair? (handles : List (String × Tag)) : Nat → Remainder → Option (Node × Remainder)
  | 0, _ => none
  | left + 1, remainder => do
    let (key, remainder) ←
      if remainder.startsWith [.value, .flowEntry, .flowSequenceEnd] then some (blank, remainder.drop)
      else read? handles false false left remainder
    let (value, remainder) ← readValue? handles false [.flowEntry, .flowSequenceEnd] left remainder
    return (.mapping [(key, value)], remainder)

/-- Reads the pairs of a flow mapping up to its end. A comma stands before each one but the first. -/
def flowPairs? (handles : List (String × Tag)) (first : Bool) :
    Nat → Remainder → Option (List (Node × Node) × Remainder)
  | 0, _ => none
  | left + 1, remainder =>
    if remainder.startsWith [.flowMappingEnd] then some ([], remainder.drop)
    else if !first ∧ !remainder.startsWith [.flowEntry] then none
    else
      let remainder := if first then remainder else remainder.drop
      if remainder.startsWith [.flowMappingEnd] then some ([], remainder.drop)
      else do
        let ((key, value), remainder) ←
          if remainder.startsWith [.key] then do
            let (key, remainder) ←
              readUnless? handles false false [.value, .flowEntry, .flowMappingEnd] left remainder.drop
            let (value, remainder) ← readValue? handles false [.flowEntry, .flowMappingEnd] left remainder
            pure ((key, value), remainder)
          else do
            let (key, remainder) ← read? handles false false left remainder
            pure ((key, blank), remainder)
        let (pairs, remainder) ← flowPairs? handles false left remainder
        return ((key, value) :: pairs, remainder)

end

end Node

structure Document where
  root : Node
  names : Names

namespace Document

def commonHandles : List (String × Tag) := [("!", Tag.ofString "!"), ("!!", Tag.shared "")]

/-- Takes the directives off the tokens of a document. At most one of them names the version, which has to be a known
one, and each handle has one meaning. -/
def takeDirectives? (versioned : Bool) (handles : List (String × Tag)) :
    List Token → Option (List (String × Tag) × List Token)
  | .version major minor :: rest =>
    if versioned ∨ major ≠ 1 ∨ (minor ≠ 1 ∧ minor ≠ 2) then none else takeDirectives? true handles rest
  | .handle handle front :: rest =>
    if (handles.lookup handle).isSome then none else takeDirectives? versioned ((handle, front) :: handles) rest
  | rest => some (handles, rest)

/-- Reads the root of a document. Without the mark at its start a document has no directives and is not empty. -/
def readRoot? (tokens : List Token) : Option (Node × Remainder) := do
  let (handles, rest) ← takeDirectives? false [] tokens
  let known := handles ++ commonHandles
  let steps := 4 * tokens.length + 4
  match rest with
  | .documentStart :: rest =>
    match rest with
    | [] | .documentEnd :: _ | .documentStart :: _ | .version _ _ :: _ | .handle _ _ :: _ =>
      return (.blank, ⟨rest, {}⟩)
    | _ => Node.read? known true false steps ⟨rest, {}⟩
  | _ => if rest.length < tokens.length then none else Node.read? known true false steps ⟨rest, {}⟩

/-- The document that some tokens make, if there is any token. There may be only one document. -/
def ofTokens? (tokens : List Token) : Option (Option Document) := do
  if tokens.isEmpty then return none
  let (root, remainder) ← readRoot? tokens
  if remainder.tokens.all (· = .documentEnd) then return some ⟨root, remainder.names⟩ else none

def scalar? (document : Document) : Node → Option Scalar
  | .scalar scalar => some scalar
  | .reference number => document.names.scalar? number
  | _ => none

end Document

end ObjectLens.Yaml

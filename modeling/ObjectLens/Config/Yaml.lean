import ObjectLens.Config.Entries
import ObjectLens.Yaml.Node
import ObjectLens.Yaml.Tokens

/-! Options written as YAML: a mapping, or nothing. -/

namespace ObjectLens.Config

open Yaml

def isNullWord (text : String) : Bool := ["null", "Null", "NULL", "~"].contains text

def isNothing (text : String) : Bool := text.isEmpty || isNullWord text

def choiceOfTag? : Option Tag → Option String
  | some [mark] => if mark = 0x21 then some "!" else none
  | some (mark :: name) => if mark = 0x21 then String.fromUTF8? ⟨name.toArray⟩ else none
  | _ => none

/-- The name of a choice: the tag, if that names one and no value follows, else the text. -/
def yamlChoice? (scalar : Scalar) : Option String :=
  match choiceOfTag? scalar.tag with
  | some name => if scalar.style = .plain ∧ isNothing scalar.text then some name else none
  | none => some scalar.text

/-- A scalar stands for a value that is there. A tag may say so; one that says otherwise needs a word for no value. -/
def isPresent? (scalar : Scalar) : Option Bool :=
  if scalar.style ≠ .plain then some true
  else
    match scalar.tag with
    | none => some !isNothing scalar.text
    | some tag => if tag ≠ Tag.shared "null" then some true else if isNullWord scalar.text then some false else none

def truth? : String → Option Bool
  | "true" | "True" | "TRUE" => some true
  | "false" | "False" | "FALSE" => some false
  | _ => none

def yamlReader : Reader Scalar where
  arch? scalar := do
    if ← isPresent? scalar then return some (← Arch.ofExactName? (← yamlChoice? scalar)) else return none
  dialect? scalar := do Dialect.ofName? (← yamlChoice? scalar)
  flag? scalar :=
    if scalar.style = .plain ∨ (scalar.style = .literal ∧ scalar.tag = some (Tag.shared "bool")) then
      truth? scalar.text
    else none

/-- How nodes of a document are read: as the scalars that they are or stand for. -/
def nodeReader (document : Document) : Reader Node where
  arch? node := document.scalar? node >>= yamlReader.arch?
  dialect? node := document.scalar? node >>= yamlReader.dialect?
  flag? node := document.scalar? node >>= yamlReader.flag?

/-- The options of a document. An empty scalar is as good as no options; the keys of a mapping have to be scalars. -/
def ofDocument? (document : Document) : Option Config :=
  match document.root with
  | .mapping pairs => do
    let entries ← pairs.mapM fun (key, value) => (document.scalar? key).map (·.text, value)
    ofEntries? (nodeReader document) entries
  | .scalar scalar => if scalar.text.isEmpty then some {} else none
  | _ => none

def ofYaml? (text : String) : Option Config := do
  match ← Document.ofTokens? (← tokens? text) with
  | none => return {}
  | some document => ofDocument? document

end ObjectLens.Config

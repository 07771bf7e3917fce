import ObjectLens.FunctionSize
import ObjectLens.Image
import ObjectLens.MachO.Binding
import ObjectLens.MachO.Section
import ObjectLens.MachO.SymbolEntry

/-! What a Mach-O file holds for its users: its functions, the slots bound to imported symbols, and its code. -/

namespace ObjectLens.MachO

inductive ContentsError where
  | badSections
  | badSymbols
  /-- The bindings refer to something that is not there, and reading them breaks off. -/
  | danglingBinding
  deriving DecidableEq, Repr, Inhabited

/-- The name of a symbol for the user: without the underscore that stands in front of names from C, unless the user
wants to keep it. -/
def displayName (config : Config) (name : String) : String :=
  if config.keepUnderscore then name
  else
    match name.toList with
    | '_' :: rest => String.ofList rest
    | _ => name

namespace File

/-- The functions among the symbols: those that are defined in a section of code and have a name. -/
def functions (config : Config) (codeOrdinals : List Nat) (entries : List SymbolEntry) : List Symbol :=
  (entries.filter fun entry =>
    !entry.isDebugging && entry.isDefined && codeOrdinals.contains entry.sectionOrdinal && entry.name ≠ "").map
    fun entry => ⟨displayName config entry.name, entry.value, 0⟩

/-- The slots bound to imported symbols. Bindings that cannot be read cost the stubs and nothing else. -/
def stubs? (file : File) (bytes : Bytes) (config : Config) : Except ContentsError (List Stub) :=
  match Binding.ofFile file bytes with
  | .bound bindings =>
    .ok (bindings.map fun binding => ⟨binding.address file, displayName config binding.name⟩)
  | .unreadable => .ok []
  | .dangling => .error .danglingBinding

/-- The contents of a Mach-O file. The sections are read before the symbols, and those before the bindings. -/
def contents? (file : File) (bytes : Bytes) (config : Config) : Except ContentsError Contents := do
  let some sections := file.sections? bytes | throw .badSections
  let some entries := file.symbolEntries? bytes | throw .badSymbols
  let code := (sections.zipIdx 1).filter fun (found, _) => found.isCode bytes.size
  let regions := code.map fun (found, _) => found.region
  let symbols := functions config (code.map (·.2)) entries
  let stubs ← file.stubs? bytes config
  return { format := .machO
           arch := file.arch?
           symbols := FunctionSize.infer symbols regions
           stubs
           regions }

end File

end ObjectLens.MachO

import ObjectLens.MachO.File

/-! The symbol table of Mach-O files. -/

namespace ObjectLens.MachO

structure SymbolEntry where
  name : String
  type : Nat
  sectionOrdinal : Nat
  value : Nat
  deriving DecidableEq, Repr, Inhabited

namespace SymbolEntry

def recordSize (encoding : Encoding) : Nat := if encoding.wide then 16 else 12

def ofRecord? (encoding : Encoding) (bytes : Bytes) (strings : Nat) (record : Bytes) : Option SymbolEntry := do
  let name ← bytes.cString? (strings + record.number encoding.order 0 4)
  return { name
           type := record.number encoding.order 4 1
           sectionOrdinal := record.number encoding.order 5 1
           value := record.number encoding.order 8 encoding.wordSize }

def isDebugging (entry : SymbolEntry) : Bool := 32 ≤ entry.type

def isDefined (entry : SymbolEntry) : Bool := entry.type / 2 % 8 = 7

end SymbolEntry

namespace File

/-- The entries of the symbol table. One that cannot be read spoils all. -/
def symbolEntries? (file : File) (bytes : Bytes) : Option (List SymbolEntry) :=
  match file.symbols with
  | none => some []
  | some location => do
    let records ← bytes.recordsOneByOne? location.entries (SymbolEntry.recordSize file.encoding) location.count
    records.mapM (SymbolEntry.ofRecord? file.encoding bytes location.strings)

end File

end ObjectLens.MachO

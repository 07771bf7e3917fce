import ObjectLens.Pe.Mapping

/-! The imports of an image: for each library a table of the routines that are taken from it, by name or by
ordinal. -/

namespace ObjectLens.Pe

/-- A routine taken from a library. One that is taken by name has the address of that name. -/
structure Import where
  name : String
  address : Nat
  deriving DecidableEq, Repr, Inhabited

namespace Import

/-- The entries of a table up to the zero that ends it, read from a position on. A table that runs out of the file is
unreadable. `left` bounds the number of entries. -/
def lookups? (bytes : Bytes) (width : Nat) : Nat → Nat → Option (List Nat)
  | 0, _ => none
  | left + 1, position => do
    let entry ← bytes.number? .little position width
    if entry = 0 then return []
    return entry :: (← lookups? bytes width left (position + width))

/-- The import that an entry of a lookup table stands for: by ordinal if its top bit is set, or by the name at an
address. The inner answer is absent if the address is not mapped. -/
def ofLookup? (mapping : Mapping) (bytes : Bytes) (width entry : Nat) : Option (Option Import) :=
  if entry.testBit (8 * width - 1) then
    some (some ⟨s!"ORDINAL {entry % 0x10000}", 0⟩)
  else
    let address := entry % 0x80000000
    match mapping.offset? address with
    | none => some none
    | some offset => do
      let _ ← bytes.part? offset 2
      let name ← bytes.cString? (offset + 2)
      return some ⟨name, address⟩

/-- The imports from the library that a descriptor tells of. Its lookup table may be absent; the table of addresses
stands in for it, and has to be readable in any case. -/
def ofDescriptor? (mapping : Mapping) (bytes : Bytes) (width : Nat) (descriptor : Bytes) : Option (List Import) := do
  let _ ← mapping.string? bytes (descriptor.number .little 12 4)
  let addressTable := descriptor.number .little 16 4
  let table ← (mapping.offset? (descriptor.number .little 0 4)).or (mapping.offset? addressTable)
  let lookups ← lookups? bytes width (bytes.size + 1) table
  let imports ← lookups.mapM (ofLookup? mapping bytes width)
  let addresses ← mapping.offset? addressTable
  let _ ← lookups? bytes width (bytes.size + 1) addresses
  return imports.filterMap id

/-- The descriptors from a position on, up to the one that is all zero. `left` bounds their number. -/
def descriptors? (bytes : Bytes) : Nat → Nat → Option (List Bytes)
  | 0, _ => none
  | left + 1, position => do
    let record ← bytes.part? position 20
    if record.view.all (· = 0) then return []
    return record :: (← descriptors? bytes left (position + 20))

def ofDirectory? (mapping : Mapping) (bytes : Bytes) (wide : Bool) (directory : Directory) :
    Option (List Import) := do
  let start ← mapping.offset? directory.address
  let descriptors ← descriptors? bytes (bytes.size + 1) start
  let imports ← descriptors.mapM (ofDescriptor? mapping bytes (if wide then 8 else 4))
  return imports.flatten

end Import

end ObjectLens.Pe

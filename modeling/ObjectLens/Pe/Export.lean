import ObjectLens.Pe.Mapping

/-! The exports of an image: names, each of which leads by an ordinal to an address. An address inside of the export
directory itself is the text of a forwarder to another image. -/

namespace ObjectLens.Pe

structure Export where
  name : Option String
  address : Nat
  forwarded : Bool
  deriving DecidableEq, Repr, Inhabited

namespace Export

/-- The exports by their place in the table of names. One without an ordinal or an address is left out. -/
private def ofTables (names : List (Option String)) (ordinals addresses : List Nat) (directory : Directory) :
    List Export :=
  names.zipIdx.filterMap fun (name, index) => do
    let ordinal ← ordinals[index]?
    let address ← addresses[ordinal]?
    return ⟨name, address, directory.address ≤ address && address < directory.address + directory.size⟩

/-- The exports that a directory leads to. A directory that makes no sense leads to none. -/
def ofDirectory (mapping : Mapping) (bytes : Bytes) (directory : Directory) : List Export :=
  let record? := do bytes.part? (← mapping.offset? directory.address) 40
  match record? with
  | none => []
  | some record =>
    let field (offset : Nat) := record.number .little offset 4
    let addressCount := field 20
    let nameCount := field 24
    if nameCount > bytes.size ∨ addressCount > bytes.size then []
    else
      let pointers := mapping.table bytes (field 32) 4 nameCount
      let ordinals := mapping.table bytes (field 36) 2 nameCount
      let addresses := mapping.table bytes (field 28) 4 addressCount
      ofTables (pointers.map (mapping.string? bytes)) ordinals addresses directory

end Export

end ObjectLens.Pe

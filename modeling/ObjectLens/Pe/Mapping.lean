import ObjectLens.Pe.Header
import ObjectLens.Word

/-! The mapping of an image. Its tables refer to each other by addresses relative to the base of the image; the
sections tell which byte of the file an address means. -/

namespace ObjectLens.Pe

/-- The sections of an image and the unit in which they are stored. -/
structure Mapping where
  sections : List Section
  fileAlignment : Nat
  deriving DecidableEq, Repr, Inhabited

namespace Mapping

/-- The position in the file of the byte at an address, by the first section that is loaded there. Nothing is mapped
where the unit of storage is no power of two. -/
def offset? (mapping : Mapping) (address : Nat) : Option Nat :=
  if Word.count mapping.fileAlignment.log2 ≠ mapping.fileAlignment then none
  else
    (mapping.sections.find? fun found =>
      found.virtualAddress ≤ address &&
        address < found.virtualAddress + found.loadedSize mapping.fileAlignment).map
      fun found => address - found.virtualAddress + found.sectorOffset

def string? (mapping : Mapping) (bytes : Bytes) (address : Nat) : Option String := do
  bytes.cString? (← mapping.offset? address)

/-- The numbers of a table at an address, cut short where the file ends. A table that is not mapped is empty. -/
def table (mapping : Mapping) (bytes : Bytes) (address width count : Nat) : List Nat :=
  match mapping.offset? address with
  | none => []
  | some start =>
    let present := min count ((bytes.size - start) / width)
    (List.range present).map fun index => bytes.number .little (start + width * index) width

end Mapping

end ObjectLens.Pe

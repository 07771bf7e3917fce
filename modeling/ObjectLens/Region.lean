/-! Code regions: the address ranges that hold instructions, and where their bytes are in the file. -/

namespace ObjectLens

/-- A range of addresses, from `start` up to but not including `stop`, whose bytes stand in the file from
`fileOffset` on. -/
structure Region where
  name : String
  start : Nat
  stop : Nat
  fileOffset : Nat
  deriving DecidableEq, Repr, Inhabited

namespace Region

/-- The range from `first` up to `last` is not empty and lies inside of the region. -/
def Encloses (region : Region) (first last : Nat) : Prop :=
  region.start ≤ first ∧ last ≤ region.stop ∧ first < last

instance (region : Region) (first last : Nat) : Decidable (region.Encloses first last) :=
  inferInstanceAs (Decidable (_ ∧ _ ∧ _))

def Contains (region : Region) (address : Nat) : Prop := region.start ≤ address ∧ address < region.stop

instance (region : Region) (address : Nat) : Decidable (region.Contains address) :=
  inferInstanceAs (Decidable (_ ∧ _))

/-- The position in the file of the byte at an address of the region. -/
def offsetOf (region : Region) (address : Nat) : Nat := region.fileOffset + (address - region.start)

end Region

end ObjectLens

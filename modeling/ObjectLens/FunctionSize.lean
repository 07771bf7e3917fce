import ObjectLens.Region
import ObjectLens.Symbol

/-! Sizes of functions in formats that record none: a function reaches up to the next start of a function in the
same region, or else up to the end of the region. -/

namespace ObjectLens.FunctionSize

/-- The starts of functions in ascending order, each of them once. -/
def ascending (starts : List Nat) : List Nat := starts.mergeSort.eraseReps

/-- The first of some ascending starts that is higher than an address. -/
def firstAbove? (starts : List Nat) (address : Nat) : Option Nat := starts[starts.findIdx (address < ·)]?

/-- Where a function ends that starts in a region, if the next function of all starts at `next?`. -/
def stopBefore (next? : Option Nat) (region : Region) : Nat :=
  match next? with
  | none => region.stop
  | some next => if next < region.stop then next else region.stop

/-- The size of a function that starts at an address, which is zero outside of all regions. Of several regions that
contain the address the first one counts. -/
def sizeBefore (next? : Option Nat) (regions : List Region) (address : Nat) : Nat :=
  match regions.find? fun region => region.Contains address with
  | none => 0
  | some region => stopBefore next? region - address

def infer (symbols : List Symbol) (regions : List Region) : List Symbol :=
  let starts := ascending (symbols.map (·.address))
  symbols.map fun symbol =>
    { symbol with size := sizeBefore (firstAbove? starts symbol.address) regions symbol.address }

end ObjectLens.FunctionSize

/-! Addresses and sizes are 64-bit words, kept here as natural numbers below `limit`. A sum that leaves this
range is refused, capped or reduced; which of the three holds is part of each rule that adds two words, so each has
an operation of its own. -/

namespace ObjectLens.Word

def count (bits : Nat) : Nat := Nat.pow 2 bits

def limit : Nat := 0x10000000000000000

theorem count_sixtyFour : count 64 = limit := rfl

def last : Nat := limit - 1

/-- The sum of two words, unless it is no word any more. -/
def add? (left right : Nat) : Option Nat :=
  if left + right < limit then some (left + right) else none

/-- The sum of two words, or the greatest word if the sum is greater. -/
def addCapped (left right : Nat) : Nat := min (left + right) last

def addWrapped (left right : Nat) : Nat := (left + right) % limit

/-- A word moved by a signed distance, unless it leaves the range of words. -/
def move? (word : Nat) (distance : Int) : Option Nat :=
  let moved := (word : Int) + distance
  if 0 ≤ moved ∧ moved < limit then some moved.toNat else none

/-- The signed reading of the low `bits` bits of a number. -/
def signed (bits number : Nat) : Int :=
  let low := number % count bits
  if 2 * low < count bits then low else (low : Int) - count bits

/-- A word moved by a signed distance and reduced to `bits` bits. -/
def moveWrapped (bits word : Nat) (distance : Int) : Nat :=
  (((word : Int) + distance) % count bits).toNat

theorem add?_eq_some_iff {left right sum : Nat} :
    add? left right = some sum ↔ left + right < limit ∧ sum = left + right := by
  unfold add?
  split
  · next fits => simp [fits, eq_comm]
  · next large => simp [large]

theorem move?_eq_some_iff {word target : Nat} {distance : Int} :
    move? word distance = some target ↔ (target : Int) = word + distance ∧ target < limit := by
  simp only [move?, Option.ite_none_right_eq_some, Option.some.injEq]
  omega

theorem addCapped_of_lt {left right : Nat} (word : left + right < limit) : addCapped left right = left + right :=
  Nat.min_eq_left (Nat.le_pred_of_lt word)

/-- Behind a capped sum there are words only if the sum is a word itself. -/
theorem addCapped_add_lt_iff {left right more : Nat} (some : 0 < more) :
    addCapped left right + more < limit ↔ left + right + more < limit := by
  simp only [addCapped, last, limit]
  omega

end ObjectLens.Word

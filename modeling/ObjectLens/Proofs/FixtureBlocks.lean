import Mathlib.Data.List.Chain
import ObjectLens.Fixture.Block
import ObjectLens.Proofs.StoredBytes

/-! Blocks that lie apart from each other do not disturb each other: each of them stands in the file that all of them
make. Blocks in ascending order lie apart. -/

namespace ObjectLens.Fixture

theorem le_alignedToEight (position : Nat) : position ≤ alignedToEight position := by
  simp only [alignedToEight]
  omega

namespace Block

variable {block : Block} {blocks : List Block}

/-- One of two blocks ends before the other one starts. -/
def Apart (first second : Block) : Prop := first.stop ≤ second.offset ∨ second.stop ≤ first.offset

theorem Apart.symm {first second : Block} (apart : first.Apart second) : second.Apart first := Or.symm apart

theorem standsAt_putInto (file : List UInt8) (block : Block) :
    StandsAt (putInto file block) block.offset block.content := by
  refine ⟨_, _, ?_, rfl⟩
  simp only [List.length_take, List.length_append, List.length_replicate, stop]
  omega

/-- Outside of a block that is put into a file, there is what the file had, and zeros where it had to grow. -/
theorem getElem?_putInto {file : List UInt8} {position : Nat}
    (outside : position < block.offset ∨ block.stop ≤ position) :
    (putInto file block)[position]? = (file ++ List.replicate (block.stop - file.length) 0)[position]? := by
  have place : block.offset ≤ block.stop := Nat.le_add_right _ _
  have grown : block.offset ≤ (file ++ List.replicate (block.stop - file.length) 0).length := by
    simp only [List.length_append, List.length_replicate]
    omega
  have taken : ((file ++ List.replicate (block.stop - file.length) 0).take block.offset).length = block.offset :=
    List.length_take_of_le grown
  simp only [putInto, List.append_assoc]
  rcases outside with before | after
  · rw [List.getElem?_append_left (by omega), List.getElem?_take_of_lt before]
  · have behind : block.offset + block.content.length ≤ position := after
    rw [List.getElem?_append_right (by omega), List.getElem?_append_right (by omega), List.getElem?_drop, taken]
    congr 1
    simp only [stop]
    omega

/-- Outside of a block that is put into a file, what the file has stays as it is. -/
theorem getElem?_putInto_of_outside {file : List UInt8} {position : Nat} (inside : position < file.length)
    (outside : position < block.offset ∨ block.stop ≤ position) :
    (putInto file block)[position]? = file[position]? :=
  (getElem?_putInto outside).trans (List.getElem?_append_left inside)

/-- A block stays where it stands if the next one lies apart from it. -/
theorem standsAt_putInto_of_apart {file : List UInt8} {next : Block} (apart : block.Apart next)
    (stands : StandsAt file block.offset block.content) : StandsAt (putInto file next) block.offset block.content := by
  obtain ⟨inside, same⟩ := StandsAt.iff_getElem?.mp stands
  refine StandsAt.iff_getElem?.mpr ⟨?_, fun index short => ?_⟩
  · rw [length_putInto]
    omega
  · rw [← same index short]
    apply getElem?_putInto_of_outside (by omega)
    simp only [Apart, stop] at apart ⊢
    omega

private theorem standsAt_foldl {file : List UInt8} (apart : ∀ next ∈ blocks, block.Apart next)
    (stands : StandsAt file block.offset block.content) :
    StandsAt (blocks.foldl putInto file) block.offset block.content := by
  induction blocks generalizing file with
  | nil => exact stands
  | cons next others ih =>
    have kept := standsAt_putInto_of_apart (apart next (by simp)) stands
    exact ih (fun other member => apart other (List.mem_cons_of_mem _ member)) kept

private theorem standsAt_foldl_of_mem {file : List UInt8} (apart : blocks.Pairwise Apart) (listed : block ∈ blocks) :
    StandsAt (blocks.foldl putInto file) block.offset block.content := by
  induction blocks generalizing file with
  | nil => cases listed
  | cons next others ih =>
    obtain ⟨first, later⟩ := List.pairwise_cons.mp apart
    rw [List.foldl_cons]
    rcases List.mem_cons.mp listed with rfl | listed
    · exact standsAt_foldl first (standsAt_putInto file block)
    · exact ih later listed

/-- Every one of some blocks that lie apart from each other stands in the file that they make. -/
theorem standsAt_assemble (apart : blocks.Pairwise Apart) (listed : block ∈ blocks) :
    StandsAt (assemble blocks) block.offset block.content :=
  standsAt_foldl_of_mem apart listed

private theorem length_foldl (blocks : List Block) (file : List UInt8) :
    (blocks.foldl putInto file).length = (blocks.map stop).foldl max file.length := by
  induction blocks generalizing file with
  | nil => rfl
  | cons next others ih => rw [List.foldl_cons, ih, length_putInto, List.map_cons, List.foldl_cons]

theorem length_assemble (blocks : List Block) : (assemble blocks).length = extent blocks := length_foldl blocks []

private theorem getD_foldl {file : List UInt8} {position : Nat}
    (outside : ∀ block ∈ blocks, position < block.offset ∨ block.stop ≤ position) :
    (blocks.foldl putInto file)[position]?.getD 0 = file[position]?.getD 0 := by
  induction blocks generalizing file with
  | nil => rfl
  | cons next others ih =>
    rw [List.foldl_cons, ih fun other member => outside other (List.mem_cons_of_mem _ member),
      getElem?_putInto (outside next List.mem_cons_self)]
    by_cases inside : position < file.length
    · rw [List.getElem?_append_left inside]
    · rw [List.getElem?_append_right (Nat.not_lt.mp inside), List.getElem?_eq_none (Nat.not_lt.mp inside),
        List.getElem?_replicate]
      split <;> rfl

/-- What no block covers is zero. -/
theorem getElem?_assemble_of_outside {position : Nat} (inside : position < extent blocks)
    (outside : ∀ block ∈ blocks, position < block.offset ∨ block.stop ≤ position) :
    (assemble blocks)[position]? = some 0 := by
  have zero : (assemble blocks)[position]?.getD 0 = 0 := getD_foldl outside
  rw [← length_assemble] at inside
  rw [List.getElem?_eq_getElem inside, Option.getD_some] at zero
  rw [List.getElem?_eq_getElem inside, zero]

theorem le_foldl_max (sizes : List Nat) (first : Nat) :
    first ≤ sizes.foldl max first ∧ ∀ size ∈ sizes, size ≤ sizes.foldl max first := by
  induction sizes generalizing first with
  | nil => simp
  | cons size others ih =>
    obtain ⟨start, rest⟩ := ih (max first size)
    refine ⟨Nat.le_trans (Nat.le_max_left _ _) start, fun other member => ?_⟩
    rcases List.mem_cons.mp member with rfl | member
    · exact Nat.le_trans (Nat.le_max_right _ _) start
    · exact rest other member

theorem foldl_max_le {sizes : List Nat} {first bound : Nat} (start : first ≤ bound)
    (below : ∀ size ∈ sizes, size ≤ bound) : sizes.foldl max first ≤ bound := by
  induction sizes generalizing first with
  | nil => exact start
  | cons size others ih =>
    exact ih (Nat.max_le.mpr ⟨start, below size (by simp)⟩) fun other member => below other (by simp [member])

theorem stop_le_extent (listed : block ∈ blocks) : block.stop ≤ extent blocks :=
  (le_foldl_max _ 0).2 _ (List.mem_map_of_mem listed)

def Before (first second : Block) : Prop := first.stop ≤ second.offset

instance : Trans Before Before Before where
  trans {first second third} front back := by
    have place : second.offset ≤ second.stop := Nat.le_add_right _ _
    exact Nat.le_trans front (Nat.le_trans place back)

/-- Blocks that ascend end where the last one of them does. -/
theorem extent_of_ascending {last : Block} (ascending : (blocks ++ [last]).IsChain Before) :
    extent (blocks ++ [last]) = last.stop := by
  apply Nat.le_antisymm
  · apply foldl_max_le (Nat.zero_le _)
    intro size listed
    obtain ⟨block, present, rfl⟩ := List.mem_map.mp listed
    rcases List.mem_append.mp present with front | back
    · have before : block.stop ≤ last.offset :=
        (List.pairwise_append.mp ascending.pairwise).2.2 block front last (List.mem_singleton.mpr rfl)
      exact Nat.le_trans before (Nat.le_add_right _ _)
    · rw [List.mem_singleton.mp back]
  · exact stop_le_extent (List.mem_append_right _ (List.mem_singleton.mpr rfl))

theorem apart_of_ascending (ascending : blocks.IsChain Before) : blocks.Pairwise Apart :=
  ascending.pairwise.imp .inl

end Block

end ObjectLens.Fixture

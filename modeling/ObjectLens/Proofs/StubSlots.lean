import Mathlib.Data.List.Basic
import ObjectLens.Elf.Stubs
import ObjectLens.Proofs.StoredBytes

/-! Stubs that are told by the numbers of their slots. A run of relocations, one for each slot, makes a stub for every
slot whose relocation has a name, and nothing else. -/

namespace ObjectLens.Elf

variable {count : Nat} {address : Nat → Nat} {name? : Nat → Option String}

/-- The stubs at the first slots of a table, as far as these have names. -/
def stubsAt (count : Nat) (address : Nat → Nat) (name? : Nat → Option String) : List Stub :=
  (List.range count).filterMap fun index => (name? index).map fun name => ⟨address index, name⟩

def slotRelocations (count : Nat) (offset : Nat → Nat) (name? : Nat → Option String) : List NamedRelocation :=
  (List.range count).map fun index => ⟨offset index, name? index⟩

theorem mem_stubsAt {stub : Stub} : stub ∈ stubsAt count address name? ↔
    ∃ index < count, name? index = some stub.name ∧ address index = stub.address := by
  simp only [stubsAt, List.mem_filterMap, List.mem_range, Option.map_eq_some_iff]
  constructor
  · rintro ⟨index, inside, name, named, rfl⟩
    exact ⟨index, inside, named, rfl⟩
  · rintro ⟨index, inside, named, here⟩
    exact ⟨index, inside, stub.name, named, by rw [here]⟩

theorem stubsAt_congr {other? : Nat → Option String} (same : ∀ index < count, name? index = other? index) :
    stubsAt count address name? = stubsAt count address other? := by
  refine List.filterMap_congr fun index inside => ?_
  rw [same index (List.mem_range.mp inside)]

/-- Where the slots have different addresses, the stubs tell all of the names. -/
theorem stubsAt_eq_iff {other? : Nat → Option String} (distinct : ∀ first second, address first = address second →
    first = second) : stubsAt count address name? = stubsAt count address other? ↔
      ∀ index < count, name? index = other? index := by
  constructor
  · intro same index inside
    apply Option.ext
    intro name
    have told {some? : Nat → Option String} :
        (⟨address index, name⟩ : Stub) ∈ stubsAt count address some? ↔ some? index = some name := by
      rw [mem_stubsAt]
      constructor
      · rintro ⟨slot, _, named, here⟩
        rw [← distinct slot index here]
        exact named
      · intro named
        exact ⟨index, inside, named, rfl⟩
    rw [← told, same, told]
  · exact stubsAt_congr

/-- The addresses only depend on which slots have names. -/
theorem map_address_stubsAt {other? : Nat → Option String}
    (same : ∀ index < count, (name? index).isSome = (other? index).isSome) :
    (stubsAt count address name?).map (·.address) = (stubsAt count address other?).map (·.address) := by
  rw [stubsAt, stubsAt, List.map_filterMap, List.map_filterMap]
  refine List.filterMap_congr fun index member => ?_
  have alike := same index (List.mem_range.mp member)
  cases first : name? index <;> cases second : other? index <;> simp [first, second] at alike ⊢

theorem pairwise_stubsAt (ascending : ∀ first second, first < second → address first < address second) :
    (stubsAt count address name?).Pairwise fun first second => first.address < second.address := by
  refine List.Pairwise.filterMap _ ?_ List.pairwise_lt_range
  intro first second before stub here other there
  obtain ⟨_, _, rfl⟩ := Option.map_eq_some_iff.mp here
  obtain ⟨_, _, rfl⟩ := Option.map_eq_some_iff.mp there
  exact ascending first second before

namespace SlotLayout

section

variable {layout : SlotLayout} {index earlier address : Nat}

/-- Where a slot starts, whether or not the table has room for it. -/
def slot (layout : SlotLayout) (index : Nat) : Nat := layout.base + layout.header + index * layout.entry

theorem slot_succ (layout : SlotLayout) (index : Nat) : layout.slot (index + 1) = layout.slot index + layout.entry := by
  rw [slot, slot, Nat.succ_mul, ← Nat.add_assoc]

theorem slot_mono (layout : SlotLayout) (before : earlier ≤ index) : layout.slot earlier ≤ layout.slot index :=
  Nat.add_le_add_left (Nat.mul_le_mul_right layout.entry before) _

/-- A slot has its address if it ends inside of the table and of the address space. -/
theorem address?_eq_some_iff : layout.address? index = some address ↔
    layout.slot (index + 1) ≤ layout.stop ∧ layout.slot (index + 1) < Word.limit ∧ address = layout.slot index := by
  have next := layout.slot_succ index
  have place : layout.slot index = layout.base + (layout.entry * index + layout.header) := by
    rw [slot, Nat.mul_comm]
    omega
  simp only [address?, Option.bind_eq_bind, Option.bind_eq_some_iff, Word.add?_eq_some_iff,
    Option.ite_none_right_eq_some, Option.pure_def, Option.some.injEq]
  constructor
  · rintro ⟨offset, ⟨_, rfl⟩, found, ⟨_, rfl⟩, stop, ⟨short, rfl⟩, room, rfl⟩
    exact ⟨by omega, by omega, by omega⟩
  · rintro ⟨room, short, rfl⟩
    exact ⟨_, ⟨by omega, rfl⟩, _, ⟨by omega, rfl⟩, _, ⟨by omega, rfl⟩, by omega, by omega⟩

/-- Where there is room for a slot, there is room for those in front of it. -/
theorem address?_of_later (before : earlier ≤ index) (later : layout.address? index = some address) :
    layout.address? earlier = some (layout.slot earlier) := by
  obtain ⟨room, short, _⟩ := address?_eq_some_iff.mp later
  have less := layout.slot_mono (Nat.add_le_add_right before 1)
  exact address?_eq_some_iff.mpr ⟨by omega, by omega, rfl⟩

end

/-- A table has an address for each of the slots that it has room for. -/
theorem address?_of_room {base header entry size index : Nat} (word : base + size < Word.limit)
    (room : header + entry * count ≤ size) (inside : index < count) :
    (SlotLayout.mk base header entry (Word.addCapped base size)).address? index =
      some (base + (entry * index + header)) := by
  have whole : (index + 1) * entry ≤ entry * count := by
    rw [Nat.mul_comm]
    exact Nat.mul_le_mul_left entry inside
  have stop : Word.addCapped base size = base + size := Word.addCapped_of_lt word
  refine address?_eq_some_iff.mpr ⟨?_, ?_, ?_⟩
  · simp only [slot, stop]
    omega
  · simp only [slot]
    omega
  · simp only [slot, Nat.mul_comm index entry]
    omega

end SlotLayout

private theorem stubs_range' (layout : SlotLayout) (offset : Nat → Nat) (start : Nat)
    (room : ∀ index, start ≤ index → index < start + count → layout.address? index = some (address index)) :
    layout.stubs start ((List.range' start count).map fun index => ⟨offset index, name? index⟩) =
      (List.range' start count).filterMap fun index => (name? index).map fun name => ⟨address index, name⟩ := by
  -- The slot that comes next is the start of the rest, so the induction is over all starts.
  induction count generalizing start with
  | zero => rfl
  | succ count ih =>
    have here := room start (Nat.le_refl _) (by omega)
    have later := ih (start + 1) fun index after before => room index (by omega) (by omega)
    rw [List.range'_succ, List.map_cons, List.filterMap_cons, SlotLayout.stubs]
    simp only [here]
    cases name? start with
    | none => simpa using later
    | some name => simpa using later

/-- A table with room for all of its slots has the stubs that the relocations name. -/
theorem SlotLayout.stubs_slotRelocations {layout : SlotLayout} {offset : Nat → Nat}
    (room : ∀ index < count, layout.address? index = some (address index)) :
    layout.stubs 0 (slotRelocations count offset name?) = stubsAt count address name? := by
  rw [slotRelocations, stubsAt, List.range_eq_range']
  exact stubs_range' layout offset 0 fun index _ before => room index (by omega)

theorem wholeEntries_flatMap {α : Type} {store : α → List UInt8} {width left : Nat} {items : List α}
    (uniform : ∀ item ∈ items, (store item).length = width) (enough : items.length ≤ left) (some : 0 < width) :
    wholeEntries width left (items.flatMap store) = items.map store := by
  induction items generalizing left with
  | nil =>
    cases left with
    | zero => rfl
    | succ left => simp [wholeEntries, some]
  | cons item others ih =>
    cases left with
    | zero => cases enough
    | succ left =>
      have first := uniform item (by simp)
      have rest := ih (fun other member => uniform other (by simp [member])) (Nat.le_of_succ_le_succ enough)
      rw [List.flatMap_cons, wholeEntries, if_neg (by rw [List.length_append]; omega), ← first, List.take_left,
        List.drop_left, first, rest, List.map_cons]

namespace File

variable {offset : Nat → Nat} {slot : Nat}

/-- A slot that the first relocations do not name may be named by the others. -/
theorem slotName?_append (relocations others : List NamedRelocation) (slot : Nat) :
    slotName? (relocations ++ others) slot = (slotName? relocations slot).or (slotName? others slot) := by
  simp only [slotName?, List.find?_append]
  cases first : relocations.find? fun relocation => relocation.offset = slot ∧ relocation.name.isSome with
  | none => rfl
  | some relocation =>
    have named := List.find?_some first
    simp only [decide_eq_true_eq] at named
    obtain ⟨name, here⟩ := Option.isSome_iff_exists.mp named.2
    simp [here]

theorem slotName?_of_absent (absent : ∀ index < count, offset index ≠ slot) :
    slotName? (slotRelocations count offset name?) slot = none := by
  have none : (slotRelocations count offset name?).find?
      (fun relocation => relocation.offset = slot ∧ relocation.name.isSome) = none := by
    refine List.find?_eq_none.mpr fun relocation member => ?_
    obtain ⟨index, inside, rfl⟩ := List.mem_map.mp member
    simp [absent index (List.mem_range.mp inside)]
  rw [slotName?, none]
  rfl

theorem slotName?_slotRelocations {index : Nat} (inside : index < count)
    (distinct : ∀ first second, offset first = offset second → first = second) :
    slotName? (slotRelocations count offset name?) (offset index) = name? index := by
  have sole (relocation : NamedRelocation) (member : relocation ∈ slotRelocations count offset name?)
      (here : relocation.offset = offset index) : relocation.name = name? index := by
    obtain ⟨other, _, rfl⟩ := List.mem_map.mp member
    rw [distinct other index here]
  rw [slotName?]
  cases first : (slotRelocations count offset name?).find?
      (fun relocation => relocation.offset = offset index ∧ relocation.name.isSome) with
  | none =>
    have absent := List.find?_eq_none.mp first ⟨offset index, name? index⟩
      (List.mem_map.mpr ⟨index, List.mem_range.mpr inside, rfl⟩)
    cases named : name? index with
    | none => rfl
    | some name => exact absurd (by simp [named]) absent
  | some relocation =>
    have found := List.find?_some first
    simp only [decide_eq_true_eq] at found
    exact sole relocation (List.mem_of_find?_eq_some first) found.1

end File

end ObjectLens.Elf

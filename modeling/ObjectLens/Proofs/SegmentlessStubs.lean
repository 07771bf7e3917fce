import ObjectLens.Proofs.StubRoundTrip

/-! Fixtures with and without a dynamic segment. The stubs have the same addresses either way. On 64-bit x86 they may
have other names: where two imports share a slot of the global offset table, the section headers tell the import of the
procedure linkage table first, and the dynamic segment tells it last. -/

namespace ObjectLens.Fixture

open Elf

variable {fixture : Fixture} {bytes other : Bytes}

private theorem or_swap_iff {α : Type} {first second : Option α} :
    first.or second = second.or first ↔ ∀ one two, first = some one → second = some two → one = two := by
  cases first <;> cases second <;> simp

def withoutSegment (fixture : Fixture) : Fixture := { fixture with dynamicSegment := false }

/-- Imports of either kind that share a slot have one name, as far as both have a name. -/
def SharedNamesAgree (fixture : Fixture) : Prop :=
  ∀ index called jumped, readName? fixture.imports index = some called →
    readName? fixture.gotImports (35 + index) = some jumped → called = jumped

/-! ### Building -/

private theorem buildable_withoutSegment (buildable : fixture.Buildable) : fixture.withoutSegment.Buildable :=
  ⟨buildable.dynamic, buildable.plt, buildable.pltSec, buildable.pltGot⟩

/-- The file does not grow: only the program headers change, and they stand in front of all the rest. -/
private theorem extent_withoutSegment_le (fixture : Fixture) :
    Block.extent fixture.withoutSegment.blocks ≤ Block.extent fixture.blocks := by
  refine Block.foldl_max_le (Nat.zero_le _) fun stop listed => ?_
  obtain ⟨block, present, rfl⟩ := List.mem_map.mp listed
  rcases List.mem_append.mp present with body | front
  · have same : fixture.withoutSegment.bodyBlocks = fixture.bodyBlocks := rfl
    exact Block.stop_le_extent (List.mem_append_left _ (same ▸ body))
  · have symbols : fixture.dynamicSymbolBlock.stop ≤ Block.extent fixture.blocks :=
      Block.stop_le_extent (by simp [blocks, bodyBlocks])
    have before : block.stop ≤ fixture.dynamicSymbolBlock.offset := by
      simp only [List.mem_cons, List.not_mem_nil, or_false] at front
      rcases front with rfl | rfl
      · simp [Block.stop, headerBlock, Header.length_store, dynamicSymbolBlock]
      · exact fixture.withoutSegment.stop_segmentBlock_le
    exact Nat.le_trans before (Nat.le_trans (Nat.le_add_right _ _) symbols)

private theorem built_withoutSegment (made : fixture.Built bytes) :
    fixture.withoutSegment.Built (.ofList (Block.assemble fixture.withoutSegment.blocks)) := by
  refine built_of_extent made.textFits (buildable_withoutSegment made.buildable) ?_
  obtain ⟨_, rfl⟩ := build_eq_ok_iff.mp made.built
  have fits := made.fits
  rw [Bytes.FitsMemory, Bytes.size_ofList, Block.length_assemble] at fits
  exact Nat.lt_of_le_of_lt fixture.extent_withoutSegment_le fits

/-! ### Stubs -/

private theorem sectionNamed?_withoutSegment (fixture : Fixture) (name : String) :
    fixture.withoutSegment.file.sectionNamed? name = fixture.file.sectionNamed? name := by
  have sections : fixture.withoutSegment.file.sections = fixture.file.sections := rfl
  have names : fixture.withoutSegment.file.sectionName = fixture.file.sectionName := rfl
  rw [File.sectionNamed?, File.sectionNamed?, sections, names]

private theorem pltStubs_withoutSegment (made : fixture.Built bytes) (again : fixture.withoutSegment.Built other) :
    fixture.withoutSegment.file.pltStubs other = fixture.file.pltStubs bytes := by
  have arch : fixture.withoutSegment.file.arch? = fixture.file.arch? := rfl
  have bindings : fixture.withoutSegment.pltBindings = fixture.pltBindings := rfl
  simp only [File.pltStubs, SlotLayout.ofFile?, sectionNamed?_withoutSegment, arch, pltRelocations_file made,
    pltRelocations_file again, bindings]

/-- The order of the two names of a slot only matters if both are there and differ. -/
private theorem boundName?_withoutSegment_iff (fixture : Fixture) :
    (∀ index < fixture.gotImports.length, fixture.boundName? index = fixture.withoutSegment.boundName? index) ↔
      fixture.dynamicSegment = false ∨ fixture.SharedNamesAgree := by
  have without (index : Nat) : fixture.withoutSegment.boundName? index =
      (fixture.sharedName? index).or (readName? fixture.gotImports index) := rfl
  cases kept : fixture.dynamicSegment with
  | false =>
    have last (index : Nat) : fixture.boundName? index =
        (fixture.sharedName? index).or (readName? fixture.gotImports index) := if_neg (by simp [kept])
    simp [without, last]
  | true =>
    have first (index : Nat) : fixture.boundName? index =
        (readName? fixture.gotImports index).or (fixture.sharedName? index) := if_pos kept
    simp only [without, first, or_swap_iff, Bool.true_eq_false, false_or]
    constructor
    · intro same index called jumped here there
      have inside : 35 + index < fixture.gotImports.length := by
        by_contra outside
        rw [readName?_of_le (Nat.le_of_not_lt outside)] at there
        cases there
      have shared : fixture.sharedName? (35 + index) = some called := by
        rw [sharedName?, if_pos (Nat.le_add_right _ _), Nat.add_sub_cancel_left, here]
      exact (same _ inside jumped called there shared).symm
    · intro agree index _ jumped called there shared
      rw [sharedName?] at shared
      split at shared
      next late =>
        obtain ⟨first, rfl⟩ := Nat.exists_eq_add_of_le late
        rw [Nat.add_sub_cancel_left] at shared
        exact (agree first called jumped shared there).symm
      next => cases shared

private theorem isSome_boundName?_withoutSegment (fixture : Fixture) (index : Nat) :
    (fixture.withoutSegment.boundName? index).isSome = (fixture.boundName? index).isSome := by
  rw [show fixture.withoutSegment.boundName? index =
    (fixture.sharedName? index).or (readName? fixture.gotImports index) from rfl, boundName?]
  split
  · rw [Option.isSome_or, Option.isSome_or, Bool.or_comm]
  · rfl

theorem stubs_withoutSegment_of_machine_ne (made : fixture.Built bytes) (again : fixture.withoutSegment.Built other)
    (machine : fixture.machine ≠ 62) : fixture.withoutSegment.file.stubs other = fixture.file.stubs bytes := by
  rw [File.stubs, File.stubs, pltStubs_withoutSegment made again, gotStubs_of_machine_ne made machine,
    gotStubs_of_machine_ne again machine]

private theorem stubs_withoutSegment (made : fixture.Built bytes) (again : fixture.withoutSegment.Built other)
    (machine : fixture.machine = 62) : fixture.withoutSegment.file.stubs other = fixture.file.stubs bytes ↔
      fixture.dynamicSegment = false ∨ fixture.SharedNamesAgree := by
  have front : stubsAt fixture.withoutSegment.imports.length fixture.withoutSegment.importSlot
      (readName? fixture.withoutSegment.imports) =
      stubsAt fixture.imports.length fixture.importSlot (readName? fixture.imports) := rfl
  rw [stubs_file made machine, stubs_file again machine, ← boundName?_withoutSegment_iff, eq_comm, front,
    List.append_cancel_left_eq]
  exact stubsAt_eq_iff fun _ _ => pltGotSlot_inj

theorem stubTable_withoutSegment_iff (made : fixture.Built bytes) (again : fixture.withoutSegment.Built other) :
    StubTable.ofList (fixture.withoutSegment.file.stubs other) = StubTable.ofList (fixture.file.stubs bytes) ↔
      fixture.machine ≠ 62 ∨ fixture.dynamicSegment = false ∨ fixture.SharedNamesAgree := by
  by_cases machine : fixture.machine = 62
  · rw [← stubs_withoutSegment made again machine]
    constructor
    · intro same
      have entries := congrArg StubTable.entries same
      rw [entries_stubs_file made machine, entries_stubs_file again machine] at entries
      exact .inr entries
    · rintro (other | same)
      · exact absurd machine other
      · rw [same]
  · rw [stubs_withoutSegment_of_machine_ne made again machine]
    exact iff_of_true rfl (.inl machine)

private theorem addresses_withoutSegment (made : fixture.Built bytes) (again : fixture.withoutSegment.Built other) :
    (StubTable.ofList (fixture.withoutSegment.file.stubs other)).entries.map (·.address) =
      (StubTable.ofList (fixture.file.stubs bytes)).entries.map (·.address) := by
  by_cases machine : fixture.machine = 62
  · rw [entries_stubs_file made machine, entries_stubs_file again machine, stubs_file made machine,
      stubs_file again machine, List.map_append, List.map_append]
    congr 1
    exact map_address_stubsAt fun index _ => fixture.isSome_boundName?_withoutSegment index
  · rw [stubs_withoutSegment_of_machine_ne made again machine]

private theorem apply_withoutSegment {steps : List Step} (described : applyAll {} steps = .ok fixture) :
    applyAll {} (steps ++ [.withoutDynamicSegment]) = .ok fixture.withoutSegment := by
  rw [applyAll] at described
  rw [applyAll, List.foldlM_append, described]
  rfl

/-- A fixture whose last import shares its slot with an import of another name. -/
def clashingSlot : Fixture := { imports := ["a"], gotImports := List.replicate 36 "b" }

private theorem built_clashingSlot : clashingSlot.Built (.ofList (Block.assemble clashingSlot.blocks)) :=
  built_of_lengths (by decide) (by decide) (by decide) (by decide)

/-- A fixture that is described step by step can be built without its dynamic segment, too. Both files are opened, and
their stubs have the same addresses. They are the same stubs unless the fixture is for 64-bit x86 and two imports of
different names share a slot. -/
theorem stubs_withoutSegment_iff {steps : List Step} (described : applyAll {} steps = .ok fixture)
    (numbers : ∀ step ∈ steps, step.Fits) (built : fixture.build = .ok bytes) (fits : bytes.FitsMemory)
    {format : Option Format} (config : Config) (known : format = none ∨ format = some .elf) :
    applyAll {} (steps ++ [.withoutDynamicSegment]) = .ok fixture.withoutSegment ∧
    ∃ other image otherImage, fixture.withoutSegment.build = .ok other ∧
      Image.load format config (.regular bytes) = .ok image ∧
      Image.load format config (.regular other) = .ok otherImage ∧
      otherImage.stubs.entries.map (·.address) = image.stubs.entries.map (·.address) ∧
      (otherImage.stubs = image.stubs ↔
        fixture.machine ≠ 62 ∨ fixture.dynamicSegment = false ∨ fixture.SharedNamesAgree) := by
  have made := built_of_steps described built fits
  have machine := (numbersFit_of_applyAll numbers described).machine
  have again := built_withoutSegment made
  exact ⟨apply_withoutSegment described, _, _, _, again.built, load_of_build made machine config known,
    load_of_build again machine config known, addresses_withoutSegment made again,
    stubTable_withoutSegment_iff made again⟩

/-- Two imports that share no slot have the same stubs either way. -/
theorem stubs_withoutSegment_of_twoImports : applyAll {} [.importFunction "a", .importThroughGot "b"] = .ok twoImports ∧
    (∀ step ∈ [Step.importFunction "a", .importThroughGot "b"], step.Fits) ∧
    ∃ bytes other image otherImage, twoImports.build = .ok bytes ∧ bytes.FitsMemory ∧
      twoImports.withoutSegment.build = .ok other ∧ Image.load none {} (.regular bytes) = .ok image ∧
      Image.load none {} (.regular other) = .ok otherImage ∧ otherImage.stubs = image.stubs := by
  have described : applyAll {} [.importFunction "a", .importThroughGot "b"] = .ok twoImports := rfl
  have numbers : ∀ step ∈ [Step.importFunction "a", .importThroughGot "b"], step.Fits := by decide
  obtain ⟨_, other, image, otherImage, built, opened, otherOpened, _, same⟩ :=
    stubs_withoutSegment_iff described numbers built_twoImports.built built_twoImports.fits {} (.inl rfl)
  have agree : twoImports.SharedNamesAgree := by
    intro index called jumped _ there
    have outside : twoImports.gotImports.length ≤ 35 + index := Nat.le_add_right_of_le (by decide)
    rw [readName?_of_le outside] at there
    cases there
  exact ⟨described, numbers, _, other, image, otherImage, built_twoImports.built, built_twoImports.fits, built, opened,
    otherOpened, same.mpr (.inr (.inr agree))⟩

/-- Where two imports of different names share a slot, the dynamic segment leads to the name that the stub was made
for, and the section headers lead to the other one. -/
theorem stubs_withoutSegment_of_clashingSlot :
    applyAll {} (.importFunction "a" :: List.replicate 36 (.importThroughGot "b")) = .ok clashingSlot ∧
    ∃ bytes other image otherImage, clashingSlot.build = .ok bytes ∧ bytes.FitsMemory ∧
      clashingSlot.withoutSegment.build = .ok other ∧ other.FitsMemory ∧
      Image.load none {} (.regular bytes) = .ok image ∧ Image.load none {} (.regular other) = .ok otherImage ∧
      ⟨0x2918, "b"⟩ ∈ image.stubs.entries ∧ ⟨0x2918, "a"⟩ ∈ otherImage.stubs.entries ∧
      otherImage.stubs ≠ image.stubs := by
  have again := built_withoutSegment built_clashingSlot
  have differ : ¬ clashingSlot.SharedNamesAgree := by
    intro agree
    exact absurd (agree 0 "a" "b" (by decide) (by decide)) (by decide)
  refine ⟨rfl, _, _, _, _, built_clashingSlot.built, built_clashingSlot.fits, again.built, again.fits,
    load_of_build built_clashingSlot (by decide) {} (.inl rfl), load_of_build again (by decide) {} (.inl rfl), ?_, ?_,
    fun same => ?_⟩
  · show _ ∈ (StubTable.ofList (clashingSlot.file.stubs _)).entries
    rw [entries_stubs_file built_clashingSlot rfl, stubs_file built_clashingSlot rfl]
    decide
  · show _ ∈ (StubTable.ofList (clashingSlot.withoutSegment.file.stubs _)).entries
    rw [entries_stubs_file again rfl, stubs_file again rfl]
    decide
  · rcases (stubTable_withoutSegment_iff built_clashingSlot again).mp same with other | segment | agree
    · exact other rfl
    · cases segment
    · exact differ agree

end ObjectLens.Fixture

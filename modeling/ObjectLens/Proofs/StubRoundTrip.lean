import ObjectLens.Proofs.FixtureGotStubs
import ObjectLens.Proofs.FixtureRoom

/-! Opening the file of a fixture gives back its imports. Each stub is at the slot that was laid out for it and has the
name it was made for, unless an import without a name shares its slot of the global offset table with another one. -/

namespace ObjectLens.Fixture

open Elf

variable {fixture : Fixture} {bytes : Bytes}

/-- No import of `.plt.got` that has no name shares its slot with a named import of the other kind. -/
def SlotsApart (fixture : Fixture) : Prop :=
  ∀ index, fixture.gotImports[35 + index]? = some "" → fixture.importName? index = none

private theorem gotImportName?_eq_none_iff {index : Nat} (inside : index < fixture.gotImports.length) :
    fixture.gotImportName? index = none ↔ fixture.gotImports[index]? = some "" := by
  rw [gotImportName?, List.getElem?_eq_getElem inside]
  simp

/-- Every slot of `.plt.got` has the name of its own import exactly if no other import has its slot. -/
theorem slotName?_eq_iff_slotsApart (fixture : Fixture) :
    (∀ index < fixture.gotImports.length, fixture.slotName? index = fixture.gotImportName? index) ↔
      fixture.SlotsApart := by
  constructor
  · intro own index unnamed
    have inside : 35 + index < fixture.gotImports.length := (List.getElem?_eq_some_iff.mp unnamed).1
    have same := own _ inside
    rw [slotName?, (gotImportName?_eq_none_iff inside).mpr unnamed, if_pos (Nat.le_add_right _ _),
      Nat.add_sub_cancel_left] at same
    exact same
  · intro apart index inside
    rw [slotName?]
    cases own : fixture.gotImportName? index with
    | some name => rfl
    | none =>
      -- Only an import without a name leaves its slot to another one.
      split
      next shared =>
        obtain ⟨other, rfl⟩ := Nat.exists_eq_add_of_le shared
        rw [Nat.add_sub_cancel_left, apart other ((gotImportName?_eq_none_iff inside).mp own)]
        rfl
      next => rfl

private theorem importSlot_lt {first second : Nat} (before : first < second) :
    fixture.importSlot first < fixture.importSlot second := by
  simp only [importSlot, pltSecSlot, pltSlot, pltSlotSize]
  split <;> omega

private theorem pltGotSlot_lt {landingPads : Bool} {first second : Nat} (before : first < second) :
    pltGotSlot first landingPads < pltGotSlot second landingPads := by
  simp only [pltGotSlot, pltGotEntrySize]
  split <;> omega

theorem pltGotSlot_inj {landingPads : Bool} {first second : Nat}
    (same : pltGotSlot first landingPads = pltGotSlot second landingPads) : first = second := by
  simp only [pltGotSlot, pltGotEntrySize] at same
  split at same <;> omega

private theorem importSlot_lt_pltGotAddress {index : Nat} (buildable : fixture.Buildable)
    (inside : index < fixture.imports.length) : fixture.importSlot index < pltGotAddress := by
  have few := length_imports_le buildable
  simp only [importSlot, pltSecSlot, pltSlot, pltSlotSize, pltSecAddress, pltAddress, pltGotAddress]
  split <;> omega

/-- No two stubs have one address, whatever the names are. -/
theorem nodup_stubs (buildable : fixture.Buildable) {name? gotName? : Nat → Option String} :
    ((stubsAt fixture.imports.length fixture.importSlot name? ++
      stubsAt fixture.gotImports.length (pltGotSlot · fixture.landingPads) gotName?).map (·.address)).Nodup := by
  refine List.Pairwise.imp Nat.ne_of_lt (List.pairwise_map.mpr (List.pairwise_append.mpr ⟨?_, ?_, ?_⟩))
  · exact pairwise_stubsAt fun _ _ => importSlot_lt
  · exact pairwise_stubsAt fun _ _ => pltGotSlot_lt
  · intro first front second back
    obtain ⟨index, inside, _, here⟩ := mem_stubsAt.mp front
    obtain ⟨other, _, _, there⟩ := mem_stubsAt.mp back
    rw [← here, ← there]
    exact Nat.lt_of_lt_of_le (importSlot_lt_pltGotAddress buildable inside) (Nat.le_add_right _ _)

/-- The stubs of a file, whatever the names are and whichever way leads to the relocations. -/
theorem stubs_file (made : fixture.Built bytes) (machine : fixture.machine = 62) : fixture.file.stubs bytes =
    stubsAt fixture.imports.length fixture.importSlot (readName? fixture.imports) ++
      stubsAt fixture.gotImports.length (pltGotSlot · fixture.landingPads) fixture.boundName? := by
  rw [File.stubs, pltStubs_file made machine, gotStubs_file made machine]

/-- No two stubs have one address, so none is left out of the table. -/
theorem entries_stubs_file (made : fixture.Built bytes) (machine : fixture.machine = 62) :
    (StubTable.ofList (fixture.file.stubs bytes)).entries = fixture.file.stubs bytes := by
  rw [stubs_file made machine]
  exact StubTable.entries_of_nodup (nodup_stubs made.buildable)

private theorem load_stubs_of_build (made : fixture.Built bytes) (machine : fixture.machine = 62)
    (kept : fixture.dynamicSegment = true) (free : ∀ name ∈ fixture.imports ++ fixture.gotImports, ZeroFree name)
    {format : Option Format} (config : Config) (known : format = none ∨ format = some .elf) :
    ∃ image, Image.load format config (.regular bytes) = .ok image ∧ image.stubs.entries = fixture.importStubs ++
      stubsAt fixture.gotImports.length (pltGotSlot · fixture.landingPads) fixture.slotName? := by
  -- Names without zero bytes are read as they are.
  have called : readName? fixture.imports = fixture.importName? :=
    funext (readName?_of_zeroFree fun name member => free name (List.mem_append_left _ member))
  have jumped : readName? fixture.gotImports = fixture.gotImportName? :=
    funext (readName?_of_zeroFree fun name member => free name (List.mem_append_right _ member))
  have bound : fixture.boundName? = fixture.slotName? := by
    funext index
    rw [boundName?, if_pos kept, sharedName?, called, jumped, slotName?]
  refine ⟨_, load_of_build made (by rw [machine]; decide) config known, ?_⟩
  show (StubTable.ofList (fixture.file.stubs bytes)).entries = _
  rw [entries_stubs_file made machine, stubs_file made machine, called, bound, importStubs]

def twoImports : Fixture := { imports := ["a"], gotImports := ["b"] }

theorem built_twoImports : twoImports.Built (.ofList (Block.assemble twoImports.blocks)) :=
  built_of_lengths (by decide) (by decide) (by decide) (by decide)

/-- A fixture whose last import has no name. The slot of that import is the first one of the procedure linkage table,
too. -/
def sharedSlot : Fixture := { imports := ["a"], gotImports := List.replicate 35 "b" ++ [""] }

private theorem built_sharedSlot : sharedSlot.Built (.ofList (Block.assemble sharedSlot.blocks)) :=
  built_of_lengths (by decide) (by decide) (by decide) (by decide)

/-- A fixture that is described step by step, for 64-bit x86 and with its dynamic segment, is opened again with a stub
for each of its imports that has a name. Those of `.plt.got` have the names of their slots of the global offset table,
and these are the names that were described exactly if the slots are apart. -/
theorem stubs_of_steps {steps : List Step} (described : applyAll {} steps = .ok fixture)
    (machine : fixture.machine = 62) (kept : fixture.dynamicSegment = true)
    (free : ∀ name ∈ fixture.imports ++ fixture.gotImports, ZeroFree name) (built : fixture.build = .ok bytes)
    (fits : bytes.FitsMemory) {format : Option Format} (config : Config)
    (known : format = none ∨ format = some .elf) :
    ∃ image, Image.load format config (.regular bytes) = .ok image ∧
      image.stubs.entries = fixture.importStubs ++
        stubsAt fixture.gotImports.length (pltGotSlot · fixture.landingPads) fixture.slotName? ∧
      (image.stubs.entries = fixture.importStubs ++ fixture.gotImportStubs ↔ fixture.SlotsApart) := by
  have empty : TextFits {} := Nat.zero_le _
  have made : fixture.Built bytes := ⟨textFits_of_applyAll empty described, built, fits⟩
  obtain ⟨image, opened, entries⟩ := load_stubs_of_build made machine kept free config known
  refine ⟨image, opened, entries, ?_⟩
  rw [entries, List.append_cancel_left_eq, gotImportStubs, ← slotName?_eq_iff_slotsApart]
  exact stubsAt_eq_iff fun _ _ => pltGotSlot_inj

/-- The file of a fixture with one import of either kind is opened with both stubs. -/
theorem stubs_of_twoImports : applyAll {} [.importFunction "a", .importThroughGot "b"] = .ok twoImports ∧
    ∃ bytes image, twoImports.build = .ok bytes ∧ Image.load none {} (.regular bytes) = .ok image ∧
      image.stubs.entries = [⟨0x2000, "a"⟩, ⟨0x2800, "b"⟩] := by
  have described : applyAll {} [.importFunction "a", .importThroughGot "b"] = .ok twoImports := rfl
  obtain ⟨image, opened, entries, _⟩ :=
    stubs_of_steps described rfl rfl (by decide) built_twoImports.built built_twoImports.fits {} (.inl rfl)
  refine ⟨described, _, image, built_twoImports.built, opened, ?_⟩
  rw [entries]
  decide

/-- Where a slot is shared, an import without a name has a stub with the name of the other import. -/
theorem stubs_of_sharedSlot :
    applyAll {} (.importFunction "a" :: (List.replicate 35 "b" ++ [""]).map .importThroughGot) = .ok sharedSlot ∧
    ∃ bytes image, sharedSlot.build = .ok bytes ∧ bytes.FitsMemory ∧
      Image.load none {} (.regular bytes) = .ok image ∧
      image.stubs.entries = sharedSlot.importStubs ++ sharedSlot.gotImportStubs ++ [⟨0x2918, "a"⟩] ∧
      image.stubs.entries ≠ sharedSlot.importStubs ++ sharedSlot.gotImportStubs := by
  obtain ⟨image, opened, entries⟩ := load_stubs_of_build built_sharedSlot rfl rfl (by decide) {} (.inl rfl)
  refine ⟨rfl, _, image, built_sharedSlot.built, built_sharedSlot.fits, opened, ?_⟩
  rw [entries]
  constructor <;> decide

end ObjectLens.Fixture

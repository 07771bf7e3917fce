import ObjectLens.Proofs.FixtureRelocations
import ObjectLens.Proofs.TableLookup

/-! The stubs of a fixture. Calls through the procedure linkage table and through `.plt.got` are named by the imports
they were made for, except where slots of the two tables overlap. -/

namespace ObjectLens.Fixture

open Elf
open Bytes (ofList)

variable {fixture : Fixture} {bytes : Bytes}

/-- Where the stub of an import is that is called. -/
def importSlot (fixture : Fixture) (index : Nat) : Nat :=
  if fixture.landingPads then pltSecSlot index else pltSlot index

/-- The name of an import that is called through the procedure linkage table, unless it is empty. -/
def importName? (fixture : Fixture) (index : Nat) : Option String := fixture.imports[index]?.filter (· ≠ "")

def gotImportName? (fixture : Fixture) (index : Nat) : Option String := fixture.gotImports[index]?.filter (· ≠ "")

/-- The stubs that the imports of the procedure linkage table should have. -/
def importStubs (fixture : Fixture) : List Stub :=
  stubsAt fixture.imports.length fixture.importSlot fixture.importName?

def gotImportStubs (fixture : Fixture) : List Stub :=
  stubsAt fixture.gotImports.length (pltGotSlot · fixture.landingPads) fixture.gotImportName?

/-- The name that a slot of `.plt.got` has. From the thirty-fifth one on the slots overlap those of the procedure
linkage table, so an import without a name leaves its slot to an import of the other kind. -/
def slotName? (fixture : Fixture) (index : Nat) : Option String :=
  (fixture.gotImportName? index).or (if 35 ≤ index then fixture.importName? (index - 35) else none)

/-! ### Lengths -/

private theorem length_paddedJump (address slot : Nat) : (paddedJump address slot).length = 16 := by
  simp [paddedJump, displacement]

private theorem length_pltEntry (landingPads : Bool) (index : Nat) : (pltEntry landingPads index).length = 16 := by
  cases landingPads <;> simp [pltEntry, displacement]

theorem length_pltGotEntry (landingPads : Bool) (index : Nat) :
    (pltGotEntry landingPads index).length = pltGotEntrySize landingPads := by
  cases landingPads
  · simp [pltGotEntry, pltGotEntrySize, displacement]
  · simp [pltGotEntry, pltGotEntrySize, length_paddedJump]

theorem length_pltBlock (fixture : Fixture) : fixture.pltBlock.content.length = 16 + 16 * fixture.imports.length := by
  have header : (pltHeader fixture.landingPads).length = 16 := by
    cases fixture.landingPads <;> rfl
  simp only [pltBlock, List.length_append, header]
  rw [length_flatMap_of_uniform fun index _ => length_pltEntry fixture.landingPads index, List.length_range]

theorem length_pltSecBlock (pads : fixture.landingPads = true) :
    fixture.pltSecBlock.content.length = 16 * fixture.imports.length := by
  simp only [pltSecBlock, pads, ite_true]
  rw [length_flatMap_of_uniform fun index _ => length_paddedJump (pltSecSlot index) (gotSlot index), List.length_range]

theorem length_pltGotBlock (fixture : Fixture) :
    fixture.pltGotBlock.content.length = pltGotEntrySize fixture.landingPads * fixture.gotImports.length := by
  simp only [pltGotBlock]
  rw [length_flatMap_of_uniform fun index _ => length_pltGotEntry fixture.landingPads index, List.length_range]

theorem stop_pltBlock_le_iff : fixture.pltBlock.stop ≤ pltSecAddress ↔ fixture.imports.length ≤ 64 := by
  have size := fixture.length_pltBlock
  have place : fixture.pltBlock.offset = 0x1ff0 := rfl
  simp only [Block.stop, pltSecAddress]
  omega

theorem length_imports_le (buildable : fixture.Buildable) : fixture.imports.length ≤ 64 :=
  stop_pltBlock_le_iff.mp buildable.plt

theorem length_gotImports_le (buildable : fixture.Buildable) :
    pltGotEntrySize fixture.landingPads * fixture.gotImports.length ≤ 0x700 := by
  cases none : fixture.gotImports with
  | nil => simp
  | cons first others =>
    have room := buildable.pltGot (by simp [none])
    simp only [Block.stop, length_pltGotBlock, dataGotAddress] at room
    simp only [pltGotBlock, pltGotAddress, none] at room
    omega

/-! ### Slots of the procedure linkage table -/

private theorem ofFile?_pltSec (made : fixture.Built bytes)
    (separate : (fixture.landingPads && !fixture.imports.isEmpty) = true) :
    ∃ layout, SlotLayout.ofFile? fixture.file = some layout ∧
      ∀ index < fixture.imports.length, layout.address? index = some (pltSecSlot index) := by
  have pads := (Bool.and_eq_true_iff.mp separate).1
  have member : (".plt.sec", mappedSection fixture.pltSecBlock Section.programBits 6 0 0 16 16) ∈
      fixture.listedSections := by
    simp [listedSections, namedSections, stubSections, separate]
  have room : 0 + 16 * fixture.imports.length ≤ fixture.pltSecBlock.content.length := by
    rw [length_pltSecBlock pads, Nat.zero_add]
  have word : pltSecAddress + fixture.pltSecBlock.content.length < Word.limit :=
    made.stop_lt_limit (show fixture.pltSecBlock ∈ _ by simp [blocks, bodyBlocks, stubBlocks, pads])
  obtain ⟨position, _, found⟩ : ∃ index, _ ∧ fixture.file.sectionNamed? ".plt.sec" = _ :=
    sectionNamed?_of_mem rfl rfl member
  refine ⟨⟨pltSecAddress, 0, 16, Word.addCapped pltSecAddress fixture.pltSecBlock.content.length⟩, ?_, ?_⟩
  · rw [SlotLayout.ofFile?, found]
    rfl
  · intro index inside
    exact SlotLayout.address?_of_room word room inside

private theorem ofFile?_plt (made : fixture.Built bytes) (machine : fixture.machine = 62)
    (separate : ¬ (fixture.landingPads && !fixture.imports.isEmpty) = true) :
    ∃ layout, SlotLayout.ofFile? fixture.file = some layout ∧
      ∀ index < fixture.imports.length, layout.address? index = some (pltSlot index) := by
  have absent : ".plt.sec" ∉ fixture.sectionNames := by
    rw [sectionNames_eq, if_neg separate]
    cases fixture.gotImports.isEmpty <;> cases fixture.stripped <;> decide
  have missing : fixture.file.sectionNamed? ".plt.sec" = none :=
    sectionNamed?_of_not_mem rfl rfl absent (by decide)
  have member : (".plt", mappedSection fixture.pltBlock Section.programBits 6 0 0 16 16) ∈ fixture.listedSections := by
    simp [listedSections, namedSections, fixedSections]
  have room : 16 + 16 * fixture.imports.length ≤ fixture.pltBlock.content.length :=
    Nat.le_of_eq (length_pltBlock fixture).symm
  have word : pltAddress + fixture.pltBlock.content.length < Word.limit :=
    made.stop_lt_limit (show fixture.pltBlock ∈ _ by simp [blocks, bodyBlocks, stubBlocks])
  have wide : fixture.file.arch? = some .x86_64 := by
    simp [File.arch?, file, machine]
  obtain ⟨position, _, found⟩ : ∃ index, _ ∧ fixture.file.sectionNamed? ".plt" = _ :=
    sectionNamed?_of_mem rfl rfl member
  refine ⟨⟨pltAddress, 16, 16, Word.addCapped pltAddress fixture.pltBlock.content.length⟩, ?_, ?_⟩
  · rw [SlotLayout.ofFile?, missing]
    simp only [found, wide, Option.bind_eq_bind, Option.bind_some]
    rfl
  · intro index inside
    rw [SlotLayout.address?_of_room word room inside]
    simp only [pltSlot, pltSlotSize]
    refine congrArg some ?_
    omega

/-- The table that is called has room for the slot of every import, where the import's stub should be. -/
theorem ofFile?_file (made : fixture.Built bytes) (machine : fixture.machine = 62) :
    ∃ layout, SlotLayout.ofFile? fixture.file = some layout ∧
      ∀ index < fixture.imports.length, layout.address? index = some (fixture.importSlot index) := by
  -- Landing pads alone do not move the stubs: without imports there is no `.plt.sec`, and no slot either.
  by_cases separate : fixture.landingPads && !fixture.imports.isEmpty
  · obtain ⟨layout, found, room⟩ := ofFile?_pltSec made separate
    have pads := (Bool.and_eq_true_iff.mp separate).1
    refine ⟨layout, found, fun index inside => ?_⟩
    rw [room index inside, importSlot, if_pos pads]
  · obtain ⟨layout, found, room⟩ := ofFile?_plt made machine separate
    refine ⟨layout, found, fun index inside => ?_⟩
    have some : fixture.imports ≠ [] := List.length_pos_iff.mp (Nat.zero_lt_of_lt inside)
    have lazy : ¬ fixture.landingPads = true := by simpa [some] using separate
    rw [room index inside, importSlot, if_neg lazy]

theorem pltStubs_file (made : fixture.Built bytes) (machine : fixture.machine = 62) :
    fixture.file.pltStubs bytes =
      stubsAt fixture.imports.length fixture.importSlot (readName? fixture.imports) := by
  obtain ⟨layout, found, room⟩ := ofFile?_file made machine
  rw [File.pltStubs, found, pltRelocations_file made]
  exact SlotLayout.stubs_slotRelocations room

end ObjectLens.Fixture

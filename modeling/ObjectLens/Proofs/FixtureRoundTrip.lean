import ObjectLens.Proofs.CutNames
import ObjectLens.Proofs.FixtureCode
import ObjectLens.Proofs.StubRoundTrip

/-! Opening the file of a fixture gives back its functions and its code. With a symbol table all functions with names
are given back; without one the exported ones are, but only where there are imports. -/

namespace ObjectLens.Fixture

open Elf
open Bytes (ofList)

variable {fixture : Fixture} {bytes : Bytes} {steps : List Step} {format : Option Format}

theorem entries_opened (words : fixture.NumbersFit) (kept : fixture.stripped = false)
    (free : ∀ found ∈ fixture.symbols, ZeroFree found.name) (reach : fixture.NamesReachable) (config : Config) :
    (fixture.opened config bytes).symbols.entries = fixture.functions := functions_file words kept free reach

def sampleSteps : List Step :=
  .text sample.text :: (sample.symbols.map .symbol ++ sample.imports.map .importFunction)

private theorem built_sample : sample.Built (.ofList (Block.assemble sample.blocks)) :=
  built_of_lengths (by decide) (by decide) (by decide) (by decide)

/-- A fixture that is described step by step and keeps its symbol table is opened with the functions with names in their
order, with its code and the tables of stubs that it has, and with the bytes of its code. Only where the names take
more than four gigabytes the functions may have other names. -/
theorem functions_and_code_of_steps (described : applyAll {} steps = .ok fixture) (numbers : ∀ step ∈ steps, step.Fits)
    (kept : fixture.stripped = false) (free : ∀ found ∈ fixture.symbols, ZeroFree found.name)
    (built : fixture.build = .ok bytes) (fits : bytes.FitsMemory) (config : Config)
    (known : format = none ∨ format = some .elf) :
    ∃ image, Image.load format config (.regular bytes) = .ok image ∧ image.format = .elf ∧
      (fixture.NamesReachable → image.symbols.entries = fixture.functions) ∧ image.regions = fixture.codeRegions ∧
      (fixture.machine ≠ 40 → config.arch ≠ some .arm → ∀ address size, 0 < size → 0x1000 ≤ address →
        address + size ≤ 0x1040 →
        image.codeBytes address size = .ok (ofList ((fixture.paddedText.drop (address - 0x1000)).take size))) := by
  have made := built_of_steps described built fits
  have words := numbersFit_of_applyAll numbers described
  refine ⟨_, load_of_build made words.machine config known, rfl, ?_, regions_file made, ?_⟩
  · intro reach
    exact functions_file words kept free reach
  · intro machine override address size some front back
    exact codeBytes_text made machine override some front back

/-- The file of the sample is opened with all of its functions, whether they have a body, are code, or share an
address, and not with its object. -/
theorem functions_and_code_of_sample : applyAll {} sampleSteps = .ok sample ∧ (∀ step ∈ sampleSteps, step.Fits) ∧
    (∀ found ∈ sample.symbols, ZeroFree found.name) ∧ sample.NamesReachable ∧
    ∃ bytes image, sample.build = .ok bytes ∧ bytes.FitsMemory ∧
    Image.load none {} (.regular bytes) = .ok image ∧
    image.symbols.entries = [⟨"main", 0x1000, 32⟩, ⟨"main_alias", 0x1000, 32⟩, ⟨"helper", 0x1020, 16⟩,
      ⟨"empty_fn", 0x1030, 0⟩, ⟨"bogus_fn", 0x1800, 8⟩] ∧
    image.regions = [⟨".text", 0x1000, 0x1040, 0x1000⟩, ⟨".plt", 0x1ff0, 0x2020, 0x1ff0⟩] ∧
    image.codeBytes 0x102f 2 = .ok (ofList [0xc3, 0xcc]) := by
  have described : applyAll {} sampleSteps = .ok sample := rfl
  have numbers : ∀ step ∈ sampleSteps, step.Fits := by decide
  have free : ∀ found ∈ sample.symbols, ZeroFree found.name := by decide
  obtain ⟨image, opened, _, functions, regions, code⟩ :=
    functions_and_code_of_steps described numbers rfl free built_sample.built built_sample.fits {} (.inl rfl)
  have reach : sample.NamesReachable := namesReachable_of_length (by decide)
  refine ⟨described, numbers, free, reach, _, image, built_sample.built, built_sample.fits, opened, ?_, ?_, ?_⟩
  · rw [functions reach]
    decide
  · rw [regions]
    decide
  · rw [code (by decide) (by decide) 0x102f 2 (by decide) (by decide) (by decide)]
    rfl

private theorem opened_behindLongName {count : Nat} (large : count + 2 = 0x100000000) : ∃ bytes image,
    (behindLongName count).build = .ok bytes ∧ bytes.FitsMemory ∧ Image.load none {} (.regular bytes) = .ok image ∧
      ⟨"b", 0x1010, 2⟩ ∉ image.symbols.entries := by
  have made := built_behindLongName (show count < 0x1000000000000 by omega)
  have machine := (numbersFit_of_applyAll fits_longNameSteps (applyAll_longNameSteps count)).machine
  refine ⟨_, _, made.built, made.fits, load_of_build made machine {} (.inl rfl), ?_⟩
  intro member
  have listed : ⟨"b", 0x1010, 2⟩ ∈ (behindLongName count).file.functions := member
  rw [functions_behindLongName large, List.mem_singleton] at listed
  have same : (0x1010 : Nat) = 0x1000 := congrArg ObjectLens.Symbol.address listed
  omega

/-- A function whose name starts behind four gigabytes of another name is not found. Code that is taken for 32-bit ARM
code is looked for one byte below an odd address, whatever machine the file is for. -/
theorem functions_and_code_of_behindLongName :
    (applyAll {} (longNameSteps 0xfffffffe) = .ok (behindLongName 0xfffffffe) ∧
      (∀ step ∈ longNameSteps 0xfffffffe, step.Fits) ∧ (behindLongName 0xfffffffe).stripped = false ∧
      (∀ found ∈ (behindLongName 0xfffffffe).symbols, ZeroFree found.name) ∧
      ⟨"b", 0x1010, 2⟩ ∈ (behindLongName 0xfffffffe).functions ∧
      ∃ bytes image, (behindLongName 0xfffffffe).build = .ok bytes ∧ bytes.FitsMemory ∧
        Image.load none {} (.regular bytes) = .ok image ∧ ⟨"b", 0x1010, 2⟩ ∉ image.symbols.entries) ∧
    ∃ bytes image, sample.machine ≠ 40 ∧ sample.build = .ok bytes ∧
      Image.load none { arch := some .arm } (.regular bytes) = .ok image ∧
      image.codeBytes 0x1001 2 = .ok (ofList [0x55, 0x48]) ∧ (sample.paddedText.drop 1).take 2 = [0x48, 0x89] := by
  constructor
  · exact ⟨applyAll_longNameSteps _, fits_longNameSteps, rfl, zeroFree_behindLongName, mem_functions_behindLongName _,
      opened_behindLongName (by decide)⟩
  · have place : (sample.opened { arch := some .arm } (ofList (Block.assemble sample.blocks))).codeAddress 0x1001 =
        0x1000 := rfl
    have code := code_text built_sample place (show 0 < 2 by decide) (by decide) (by decide)
    exact ⟨_, _, by decide, built_sample.built, load_of_build built_sample (by decide) _ (.inl rfl),
      Image.codeBytes_of_ok code, rfl⟩

def strippedSample : Fixture := { sample with stripped := true }

private theorem built_strippedSample : strippedSample.Built (.ofList (Block.assemble strippedSample.blocks)) :=
  built_of_lengths (by decide) (by decide) (by decide) (by decide)

/-- A stripped fixture with one exported function and no imports. -/
def exportedOnly : Fixture := { symbols := [⟨"f", 0x1000, 0x10, .function, true⟩], stripped := true }

private theorem built_exportedOnly : exportedOnly.Built (.ofList (Block.assemble exportedOnly.blocks)) :=
  built_of_lengths (by decide) (by decide) (by decide) (by decide)

/-- A stripped fixture is opened with its exported functions if its dynamic symbols are found, and with none
otherwise. -/
theorem functions_of_stripped (described : applyAll {} steps = .ok fixture) (numbers : ∀ step ∈ steps, step.Fits)
    (gone : fixture.stripped = true) (free : ∀ found ∈ fixture.exported, ZeroFree found.name)
    (built : fixture.build = .ok bytes) (fits : bytes.FitsMemory) (config : Config)
    (known : format = none ∨ format = some .elf) :
    ∃ image, Image.load format config (.regular bytes) = .ok image ∧
      image.symbols.entries = (if fixture.FindsDynamicSymbols then fixture.exportedFunctions else []) ∧
      (image.symbols.entries = fixture.exportedFunctions ↔
        fixture.FindsDynamicSymbols ∨ fixture.exportedFunctions = []) := by
  have made := built_of_steps described built fits
  have words := numbersFit_of_applyAll numbers described
  have functions := functions_file_of_stripped made words gone free
  refine ⟨_, load_of_build made words.machine config known, functions, ?_⟩
  show fixture.file.functions = _ ↔ _
  rw [functions]
  split
  next finds => exact iff_of_true rfl (.inl finds)
  next finds =>
    constructor
    · intro none
      exact .inr none.symm
    · rintro (present | none)
      · exact absurd present finds
      · exact none.symm

theorem functions_of_strippedSample : applyAll {} (sampleSteps ++ [.strip]) = .ok strippedSample ∧
    (∀ step ∈ sampleSteps ++ [.strip], step.Fits) ∧ (∀ found ∈ strippedSample.exported, ZeroFree found.name) ∧
    ∃ bytes image, strippedSample.build = .ok bytes ∧ bytes.FitsMemory ∧
      Image.load none {} (.regular bytes) = .ok image ∧ image.symbols.entries = [⟨"main", 0x1000, 32⟩] := by
  have described : applyAll {} (sampleSteps ++ [.strip]) = .ok strippedSample := rfl
  have numbers : ∀ step ∈ sampleSteps ++ [.strip], step.Fits := by decide
  have free : ∀ found ∈ strippedSample.exported, ZeroFree found.name := by decide
  have made := built_strippedSample
  obtain ⟨image, opened, functions, _⟩ :=
    functions_of_stripped described numbers rfl free made.built made.fits {} (.inl rfl)
  refine ⟨described, numbers, free, _, image, made.built, made.fits, opened, ?_⟩
  rw [functions]
  decide

/-- Without imports nothing leads to the dynamic symbols, and the exported function is not found. -/
theorem functions_of_exportedOnly : applyAll {} [.symbol ⟨"f", 0x1000, 0x10, .function, true⟩, .strip] =
      .ok exportedOnly ∧
    ∃ bytes image, exportedOnly.build = .ok bytes ∧ bytes.FitsMemory ∧
      Image.load none {} (.regular bytes) = .ok image ∧ image.symbols.entries = [] ∧
      exportedOnly.exportedFunctions = [⟨"f", 0x1000, 0x10⟩] := by
  have made := built_exportedOnly
  have words : exportedOnly.NumbersFit := ⟨by decide, by decide⟩
  have functions := functions_file_of_stripped made words rfl (by decide)
  refine ⟨rfl, _, _, made.built, made.fits, load_of_build made words.machine {} (.inl rfl), ?_, by decide⟩
  show exportedOnly.file.functions = []
  rw [functions]
  decide

end ObjectLens.Fixture

import ObjectLens.Fixture.Build
import ObjectLens.Proofs.FixtureBlocks
import ObjectLens.Proofs.StoredRecords

/-! The layout of a fixture that can be built. Its blocks ascend from the file header to the section headers, so every
one of them stands in the file as it was laid out. -/

namespace ObjectLens.Fixture

variable {fixture : Fixture} {bytes : Bytes}

/-- The code has room. Every step of a description keeps it so. -/
def TextFits (fixture : Fixture) : Prop := fixture.text.length ≤ textSize

instance (fixture : Fixture) : Decidable fixture.TextFits := inferInstanceAs (Decidable (_ ≤ _))

private theorem textFits_of_apply {next : Fixture} {step : Step} (fits : fixture.TextFits)
    (applied : fixture.apply step = .ok next) : next.TextFits := by
  cases step with
  | text code =>
    simp only [apply] at applied
    split at applied
    next short =>
      cases applied
      exact short
    next => cases applied
  | _ =>
    cases applied
    exact fits

/-- What holds at first and is kept by each step of a description holds at its end. -/
theorem applyAll_induction {motive : Fixture → Prop} {steps : List Step} {final : Fixture} (start : motive fixture)
    (kept : ∀ step ∈ steps, ∀ {before next : Fixture}, motive before → before.apply step = .ok next → motive next)
    (applied : fixture.applyAll steps = .ok final) : motive final := by
  induction steps generalizing fixture with
  | nil =>
    cases applied
    exact start
  | cons step others ih =>
    rw [applyAll, List.foldlM_cons] at applied
    cases first : fixture.apply step with
    | error failure =>
      rw [first] at applied
      cases applied
    | ok next =>
      rw [first] at applied
      have later := kept step (by simp) start first
      exact ih later (fun other member => kept other (List.mem_cons_of_mem _ member)) applied

theorem textFits_of_applyAll {final : Fixture} {steps : List Step} (fits : fixture.TextFits)
    (applied : fixture.applyAll steps = .ok final) : final.TextFits :=
  applyAll_induction fits (fun _ _ _ _ => textFits_of_apply) applied

/-- The numbers of a step have room in their fields of the file. -/
def Step.Fits : Step → Prop
  | .machine number => number < 0x10000
  | .symbol found => found.address < Word.limit ∧ found.size < Word.limit
  | _ => True

instance : (step : Step) → Decidable step.Fits
  | .machine number => inferInstanceAs (Decidable (number < _))
  | .symbol found => inferInstanceAs (Decidable (found.address < _ ∧ found.size < _))
  | .text _ | .importFunction _ | .importThroughGot _ => inferInstanceAs (Decidable True)
  | .withLandingPads | .withoutDynamicSegment | .strip => inferInstanceAs (Decidable True)

structure NumbersFit (fixture : Fixture) : Prop where
  machine : fixture.machine < 0x10000
  symbols : ∀ found ∈ fixture.symbols, found.address < Word.limit ∧ found.size < Word.limit

private theorem numbersFit_of_apply {next : Fixture} {step : Step} (fits : step.Fits) (before : fixture.NumbersFit)
    (applied : fixture.apply step = .ok next) : next.NumbersFit := by
  obtain ⟨machine, symbols⟩ := before
  cases step with
  | machine number =>
    cases applied
    exact ⟨fits, symbols⟩
  | symbol found =>
    cases applied
    refine ⟨machine, fun other listed => ?_⟩
    rcases List.mem_append.mp listed with listed | listed
    · exact symbols other listed
    · cases List.mem_singleton.mp listed
      exact fits
  | text code =>
    simp only [apply] at applied
    split at applied
    · cases applied
      exact ⟨machine, symbols⟩
    · cases applied
  | _ =>
    cases applied
    exact ⟨machine, symbols⟩

theorem numbersFit_of_applyAll {steps : List Step} (fits : ∀ step ∈ steps, step.Fits)
    (applied : applyAll {} steps = .ok fixture) : fixture.NumbersFit := by
  have empty : NumbersFit {} := ⟨by decide, by simp⟩
  exact applyAll_induction empty (fun step member _ _ => numbersFit_of_apply (fits step member)) applied

structure Buildable (fixture : Fixture) : Prop where
  dynamic : fixture.dynamicBlock.stop ≤ textAddress
  plt : fixture.pltBlock.stop ≤ pltSecAddress
  pltSec : fixture.landingPads → fixture.pltSecBlock.stop ≤ pltGotAddress
  pltGot : fixture.gotImports ≠ [] → fixture.pltGotBlock.stop ≤ dataGotAddress

/-- A fixture is built exactly if no block is run into, and then into the file that all of its blocks make. -/
theorem build_eq_ok_iff : fixture.build = .ok bytes ↔
    fixture.Buildable ∧ bytes = Bytes.ofList (Block.assemble fixture.blocks) := by
  simp only [build, throw, throwThe, MonadExceptOf.throw, bind, Except.bind, pure, Except.pure]
  constructor
  · intro built
    split at built
    · cases built
    next dynamic =>
      split at built
      · cases built
      next plt =>
        split at built
        · cases built
        next pltSec =>
          split at built
          · cases built
          next pltGot =>
            cases built
            refine ⟨⟨by omega, by omega, fun pads => ?_, fun some => ?_⟩, rfl⟩
            · simpa [pads] using pltSec
            · simpa [some] using pltGot
  · rintro ⟨⟨dynamic, plt, pltSec, pltGot⟩, rfl⟩
    have pads : ¬ (fixture.landingPads = true ∧ pltGotAddress < fixture.pltSecBlock.stop) := by
      rintro ⟨pads, past⟩
      exact Nat.not_lt.mpr (pltSec pads) past
    have stubs : ¬ ((!fixture.gotImports.isEmpty) = true ∧ dataGotAddress < fixture.pltGotBlock.stop) := by
      rintro ⟨some, past⟩
      exact Nat.not_lt.mpr (pltGot (by simpa using some)) past
    rw [if_neg (by omega), if_neg (by omega), if_neg pads, if_neg stubs]

theorem stop_segmentBlock_le (fixture : Fixture) : fixture.segmentBlock.stop ≤ fixture.dynamicSymbolBlock.offset := by
  simp only [segmentBlock, Block.stop, dynamicSymbolBlock]
  rw [length_flatMap_of_uniform fun listed _ => listed.1.length_store listed.2]
  simp only [segments]
  split <;> simp

theorem stop_textBlock (fits : fixture.TextFits) : fixture.textBlock.stop = textAddress + textSize := by
  simp only [TextFits] at fits
  simp only [textBlock, Block.stop, List.length_append, List.length_replicate]
  omega

private theorem stop_le_looseStart {block : Block} (listed : block ∈ fixture.stubBlocks) :
    block.stop ≤ fixture.looseStart :=
  Nat.le_trans (Block.stop_le_extent listed) (le_alignedToEight _)

/-- Whatever comes first behind the code of the stubs starts where there is room. -/
private theorem offset_sectionNameBlock (fixture : Fixture) :
    fixture.looseStart ≤ fixture.sectionNameBlock.offset := by
  simp only [sectionNameBlock]
  split
  · exact Nat.le_refl _
  · exact Nat.le_trans (Nat.le_add_right _ _) (Nat.le_add_right _ _)

/-- The blocks ascend from the file header to the section headers. -/
private theorem ascending (fits : fixture.TextFits) (buildable : fixture.Buildable) :
    ([fixture.headerBlock, fixture.segmentBlock] ++ fixture.bodyBlocks).IsChain Block.Before := by
  obtain ⟨dynamic, plt, pltSec, pltGot⟩ := buildable
  have front : fixture.headerBlock.Before fixture.segmentBlock := by
    simp [Block.Before, Block.stop, headerBlock, segmentBlock, Elf.Header.length_store]
  have segments : fixture.segmentBlock.Before fixture.dynamicSymbolBlock := fixture.stop_segmentBlock_le
  have dynamicSymbols : fixture.dynamicSymbolBlock.Before fixture.dynamicNameBlock := Nat.le_refl _
  have dynamicNames : fixture.dynamicNameBlock.Before fixture.pltRelocationBlock := le_alignedToEight _
  have pltRelocations : fixture.pltRelocationBlock.Before fixture.gotRelocationBlock := Nat.le_refl _
  have gotRelocations : fixture.gotRelocationBlock.Before fixture.dynamicBlock := le_alignedToEight _
  have dynamicTable : fixture.dynamicBlock.Before fixture.textBlock := dynamic
  have text : fixture.textBlock.Before dataBlock := by
    rw [Block.Before, stop_textBlock fits]
    decide
  have constants : dataBlock.Before fixture.pltBlock := by
    show dataBlock.stop ≤ pltAddress
    decide
  have pltFront : fixture.pltBlock.Before fixture.pltSecBlock := plt
  have pltWithout : fixture.pltBlock.Before fixture.pltGotBlock :=
    Nat.le_trans plt (show pltSecAddress ≤ pltGotAddress by decide)
  have pltSecFront : fixture.landingPads = true → fixture.pltSecBlock.Before fixture.pltGotBlock := pltSec
  have symbols : fixture.symbolBlock.Before fixture.symbolNameBlock := Nat.le_refl _
  have symbolNames : fixture.stripped = false → fixture.symbolNameBlock.Before fixture.sectionNameBlock := by
    intro kept
    simp [Block.Before, sectionNameBlock, kept]
  have sectionNames : fixture.sectionNameBlock.Before fixture.sectionHeaderBlock := le_alignedToEight _
  have loose : ∀ block ∈ fixture.stubBlocks, block.Before fixture.symbolBlock ∧ block.Before fixture.sectionNameBlock :=
    fun block listed => ⟨stop_le_looseStart listed,
      Nat.le_trans (stop_le_looseStart listed) fixture.offset_sectionNameBlock⟩
  simp only [stubBlocks] at loose
  -- Which blocks there are depends on three flags. Each chain is made of the pairs above.
  cases pads : fixture.landingPads <;> cases none : fixture.gotImports.isEmpty <;> cases gone : fixture.stripped <;>
    simp_all [bodyBlocks, stubBlocks, symbolBlocks]

/-- The section headers end the file. -/
theorem extent_bodyBlocks (fits : fixture.TextFits) (buildable : fixture.Buildable) :
    Block.extent fixture.bodyBlocks = fixture.sectionHeaderBlock.stop := by
  have chain := (ascending fits buildable).right_of_append
  have split : fixture.bodyBlocks = _ ++ [fixture.sectionHeaderBlock] := List.append_cons ..
  rw [split] at chain ⊢
  exact Block.extent_of_ascending chain

theorem apart_blocks (fits : fixture.TextFits) (buildable : fixture.Buildable) :
    fixture.blocks.Pairwise Block.Apart := by
  rw [blocks, List.pairwise_append_comm Block.Apart.symm]
  exact Block.apart_of_ascending (ascending fits buildable)

theorem standsAt_of_build {block : Block} (fits : fixture.TextFits) (built : fixture.build = .ok bytes)
    (listed : block ∈ fixture.blocks) : StandsAt bytes.view block.offset block.content := by
  obtain ⟨buildable, rfl⟩ := build_eq_ok_iff.mp built
  rw [Bytes.view_ofList]
  exact Block.standsAt_assemble (apart_blocks fits buildable) listed

/-- The bytes are the file of a fixture, and a program can hold them. -/
structure Built (fixture : Fixture) (bytes : Bytes) : Prop where
  textFits : fixture.TextFits
  built : fixture.build = .ok bytes
  fits : bytes.FitsMemory

namespace Built

variable {block : Block}

theorem buildable (made : fixture.Built bytes) : fixture.Buildable := (build_eq_ok_iff.mp made.built).1

theorem standsAt (made : fixture.Built bytes) (listed : block ∈ fixture.blocks) :
    StandsAt bytes.view block.offset block.content := standsAt_of_build made.textFits made.built listed

theorem stop_le_size (made : fixture.Built bytes) (listed : block ∈ fixture.blocks) : block.stop ≤ bytes.size := by
  have inside := (made.standsAt listed).inside
  rw [Bytes.length_view] at inside
  exact inside

private theorem size_lt_limit (made : fixture.Built bytes) : bytes.size < Word.limit :=
  Nat.lt_of_lt_of_le made.fits.size_lt_last (Nat.sub_le _ _)

theorem stop_lt_limit (made : fixture.Built bytes) (listed : block ∈ fixture.blocks) : block.stop < Word.limit :=
  Nat.lt_of_le_of_lt (made.stop_le_size listed) made.size_lt_limit

theorem extent_lt_limit (made : fixture.Built bytes) : Block.extent fixture.bodyBlocks < Word.limit := by
  refine Nat.lt_of_le_of_lt (Block.foldl_max_le (Nat.zero_le _) fun stop listed => ?_) made.size_lt_limit
  obtain ⟨block, present, rfl⟩ := List.mem_map.mp listed
  exact made.stop_le_size (List.mem_append_left _ present)

end Built

theorem built_of_steps {steps : List Step} (described : applyAll {} steps = .ok fixture)
    (built : fixture.build = .ok bytes) (fits : bytes.FitsMemory) : fixture.Built bytes := by
  have empty : TextFits {} := Nat.zero_le _
  exact ⟨textFits_of_applyAll empty described, built, fits⟩

theorem built_of_extent (fits : fixture.TextFits) (buildable : fixture.Buildable)
    (small : Block.extent fixture.blocks < Word.count 63) :
    fixture.Built (.ofList (Block.assemble fixture.blocks)) := by
  refine ⟨fits, build_eq_ok_iff.mpr ⟨buildable, rfl⟩, ?_⟩
  rw [Bytes.FitsMemory, Bytes.size_ofList, Block.length_assemble]
  exact small

end ObjectLens.Fixture

import ObjectLens.Proofs.FixtureStubs

/-! What a fixture has room for. Of the four limits only two can be passed first: that of the dynamic tables, and that
of the procedure linkage table, which is sixty-four imports. Within them nothing of the file is written twice, and what
no block covers stays zero. -/

namespace ObjectLens.Fixture

open Elf

variable {fixture : Fixture} {bytes : Bytes}

/-! ### Limits -/

private theorem stop_pltSecBlock_le (few : fixture.imports.length ≤ 64) : fixture.pltSecBlock.stop ≤ pltGotAddress := by
  have place : fixture.pltSecBlock.offset = 0x2400 := rfl
  simp only [Block.stop, pltGotAddress]
  cases pads : fixture.landingPads with
  | false =>
    have nothing : fixture.pltSecBlock.content = [] := by simp [pltSecBlock, pads]
    rw [nothing, place]
    decide
  | true =>
    have size := length_pltSecBlock pads
    omega

/-- Each import of `.plt.got` needs a symbol and a relocation, so the dynamic tables have no room for very many. -/
private theorem length_gotImports_lt (room : fixture.dynamicBlock.stop ≤ textAddress) :
    fixture.gotImports.length < 80 := by
  have symbols := fixture.stop_dynamicSymbolBlock
  have count := fixture.length_dynamicEntries
  have relocations := fixture.length_gotRelocationBlock
  have names : fixture.dynamicSymbolBlock.stop ≤ fixture.dynamicNameBlock.stop := Nat.le_add_right _ _
  have plt := fixture.stop_dynamicNameBlock_le_offset
  have table := fixture.stop_gotRelocationBlock_le
  simp only [textAddress] at room
  simp only [Block.stop] at symbols names plt table room
  omega

private theorem stop_pltGotBlock_le (room : fixture.dynamicBlock.stop ≤ textAddress) :
    fixture.pltGotBlock.stop ≤ dataGotAddress := by
  have few := length_gotImports_lt room
  have size := fixture.length_pltGotBlock
  have entry : pltGotEntrySize fixture.landingPads ≤ 16 := by
    cases fixture.landingPads <;> decide
  have total : pltGotEntrySize fixture.landingPads * fixture.gotImports.length ≤ 16 * 80 :=
    Nat.mul_le_mul entry (Nat.le_of_lt few)
  have place : fixture.pltGotBlock.offset = 0x2800 := rfl
  simp only [Block.stop, dataGotAddress]
  omega

theorem buildable_iff :
    fixture.Buildable ↔ fixture.dynamicBlock.stop ≤ textAddress ∧ fixture.imports.length ≤ 64 := by
  constructor
  · intro buildable
    exact ⟨buildable.dynamic, stop_pltBlock_le_iff.mp buildable.plt⟩
  · intro room
    exact ⟨room.1, stop_pltBlock_le_iff.mpr room.2, fun _ => stop_pltSecBlock_le room.2,
      fun _ => stop_pltGotBlock_le room.1⟩

/-- The dynamic tables are looked at first, and then the number of imports. Nothing else is ever in the way. -/
theorem build_eq (fixture : Fixture) : fixture.build =
    if textAddress < fixture.dynamicBlock.stop then .error .tooManySymbols
    else if 64 < fixture.imports.length then .error .tooManyImports
    else .ok (Bytes.ofList (Block.assemble fixture.blocks)) := by
  split
  next past =>
    rw [build, if_pos past]
    rfl
  next room =>
    split
    next many =>
      have past : pltSecAddress < fixture.pltBlock.stop := by
        apply Nat.lt_of_not_le
        rw [stop_pltBlock_le_iff]
        exact Nat.not_le.mpr many
      rw [build, if_neg room, if_pos past]
      rfl
    next few => exact build_eq_ok_iff.mpr ⟨buildable_iff.mpr ⟨Nat.not_lt.mp room, Nat.not_lt.mp few⟩, rfl⟩

theorem build_eq_error_iff {error : BuildError} : fixture.build = .error error ↔
    textAddress < fixture.dynamicBlock.stop ∧ error = .tooManySymbols ∨
    fixture.dynamicBlock.stop ≤ textAddress ∧ 64 < fixture.imports.length ∧ error = .tooManyImports := by
  rw [build_eq]
  split
  next past =>
    have none : ¬ fixture.dynamicBlock.stop ≤ textAddress := Nat.not_le.mpr past
    simp [past, none, eq_comm]
  next past =>
    have room : fixture.dynamicBlock.stop ≤ textAddress := Nat.not_lt.mp past
    split <;> simp [*, eq_comm]

/-! ### The file -/

/-- The two kinds of headers stand in front of the other blocks, so they do not make the file longer. -/
theorem extent_blocks (fixture : Fixture) : Block.extent fixture.blocks = Block.extent fixture.bodyBlocks := by
  have dynamicSymbols : fixture.dynamicSymbolBlock ∈ fixture.bodyBlocks := List.mem_cons_self
  have first : fixture.dynamicSymbolBlock.offset ≤ Block.extent fixture.bodyBlocks :=
    Nat.le_trans (Nat.le_add_right _ _) (Block.stop_le_extent dynamicSymbols)
  have header : fixture.headerBlock.stop = 64 := by
    simp [Block.stop, headerBlock, Header.length_store]
  apply Nat.le_antisymm
  · apply Block.foldl_max_le (Nat.zero_le _)
    intro stop listed
    obtain ⟨block, present, rfl⟩ := List.mem_map.mp listed
    simp only [blocks, List.mem_append, List.mem_cons, List.not_mem_nil, or_false] at present
    obtain present | rfl | rfl := present
    · exact Block.stop_le_extent present
    · rw [header]
      exact Nat.le_trans (show 64 ≤ 0x100 by decide) first
    · exact Nat.le_trans fixture.stop_segmentBlock_le first
  · apply Block.foldl_max_le (Nat.zero_le _)
    intro stop listed
    obtain ⟨block, present, rfl⟩ := List.mem_map.mp listed
    exact Block.stop_le_extent (List.mem_append_left _ present)

theorem stop_dynamicBlock_le (fixture : Fixture) : fixture.dynamicBlock.stop ≤
    470 + 24 * fixture.dynamicNames.length + (storedNames fixture.dynamicNames).length +
      24 * (fixture.imports.length + fixture.gotImports.length) := by
  have symbols := fixture.stop_dynamicSymbolBlock
  have entries := fixture.length_dynamicEntries
  have named := fixture.length_dynamicNames
  have names : fixture.dynamicNameBlock.stop =
    fixture.dynamicSymbolBlock.stop + (storedNames fixture.dynamicNames).length := rfl
  have plt := fixture.length_pltRelocationBlock
  have got := fixture.length_gotRelocationBlock
  have table : fixture.dynamicBlock.content.length ≤ 176 := by
    rw [dynamicBlock, length_flatMap_of_uniform fun entry _ => entry.length_store, dynamicTable]
    cases fixture.imports.isEmpty <;> cases fixture.gotImports.isEmpty <;> simp
  have pltPlace : fixture.pltRelocationBlock.offset = alignedToEight fixture.dynamicNameBlock.stop := rfl
  have gotPlace : fixture.gotRelocationBlock.offset = fixture.pltRelocationBlock.stop := rfl
  have tablePlace : fixture.dynamicBlock.offset = alignedToEight fixture.gotRelocationBlock.stop := rfl
  simp only [Block.stop, alignedToEight] at *
  omega

theorem looseStart_le (buildable : fixture.Buildable) : fixture.looseStart ≤ dataGotAddress := by
  have pltSec := stop_pltSecBlock_le (buildable_iff.mp buildable).2
  have pltGot := stop_pltGotBlock_le buildable.dynamic
  have plt := buildable.plt
  have extent : Block.extent fixture.stubBlocks ≤ dataGotAddress := by
    apply Block.foldl_max_le (Nat.zero_le _)
    intro stop listed
    obtain ⟨block, present, rfl⟩ := List.mem_map.mp listed
    have stub : block = fixture.pltBlock ∨ block = fixture.pltSecBlock ∨ block = fixture.pltGotBlock := by
      grind [stubBlocks]
    simp only [pltSecAddress, pltGotAddress, dataGotAddress] at *
    rcases stub with rfl | rfl | rfl <;> omega
  simp only [looseStart, alignedToEight, dataGotAddress] at *
  omega

/-- How long a fixture is depends on nothing but its symbols and their names, up to a constant. -/
theorem extent_le (fits : fixture.TextFits) (buildable : fixture.Buildable) : Block.extent fixture.blocks ≤
    0x4000 + 24 * fixture.symbols.length + (storedNames (fixture.symbols.map (·.name))).length := by
  have start := looseStart_le buildable
  have entries : fixture.symbolBlock.content.length = 24 * (fixture.symbols.length + 1) := by
    rw [symbolBlock, length_flatMap_of_uniform fun entry _ => SymbolEntry.length_store entry]
    simp [symbolEntries]
  have offset : fixture.sectionNameBlock.offset ≤ fixture.looseStart + fixture.symbolBlock.content.length +
      (storedNames (fixture.symbols.map (·.name))).length := by
    have names : fixture.symbolNameBlock.stop = fixture.looseStart + fixture.symbolBlock.content.length +
      (storedNames (fixture.symbols.map (·.name))).length := rfl
    simp only [sectionNameBlock]
    split <;> omega
  have sectionNames := fixture.length_sectionNames_le
  have sectionHeaders : fixture.sectionHeaderBlock.content.length = 64 * (fixture.sectionNames.length + 1) := by
    rw [sectionHeaderBlock, length_flatMap_of_uniform fun found _ => Section.length_store found, length_sectionHeaders]
  have nameContent : fixture.sectionNameBlock.content = storedNames fixture.sectionNames := rfl
  have last : fixture.sectionHeaderBlock.offset = alignedToEight fixture.sectionNameBlock.stop := rfl
  rw [extent_blocks, extent_bodyBlocks fits buildable]
  simp only [Block.stop, alignedToEight, nameContent, dataGotAddress] at *
  omega

/-- Short lists and short names are enough for a fixture to be built. -/
theorem built_of_lengths (fits : fixture.TextFits) (few : fixture.imports.length ≤ 64)
    (dynamic : 470 + 24 * fixture.dynamicNames.length + (storedNames fixture.dynamicNames).length +
      24 * (fixture.imports.length + fixture.gotImports.length) ≤ textAddress)
    (symbols : 24 * fixture.symbols.length + (storedNames (fixture.symbols.map (·.name))).length < 0x100000000) :
    fixture.Built (.ofList (Block.assemble fixture.blocks)) := by
  have buildable : fixture.Buildable :=
    buildable_iff.mpr ⟨Nat.le_trans fixture.stop_dynamicBlock_le dynamic, few⟩
  refine built_of_extent fits buildable (Nat.lt_of_le_of_lt (extent_le fits buildable) ?_)
  rw [show Word.count 63 = 0x8000000000000000 from rfl]
  omega

theorem size_of_build (built : fixture.build = .ok bytes) : bytes.size = Block.extent fixture.bodyBlocks := by
  obtain ⟨_, rfl⟩ := build_eq_ok_iff.mp built
  rw [Bytes.size_ofList, Block.length_assemble, extent_blocks]

theorem getElem?_of_build (built : fixture.build = .ok bytes) {position : Nat} (inside : position < bytes.size)
    (outside : ∀ block ∈ fixture.blocks, position < block.offset ∨ block.stop ≤ position) :
    bytes.view[position]? = some 0 := by
  rw [size_of_build built, ← extent_blocks] at inside
  obtain ⟨_, rfl⟩ := build_eq_ok_iff.mp built
  rw [Bytes.view_ofList]
  exact Block.getElem?_assemble_of_outside inside outside

/-- The segment that maps all of a file to the addresses that are its positions. -/
def wholeFile (size : Nat) : Segment := ⟨Segment.loadable, 5, 0, 0, size, size⟩

private theorem standsAt_wholeFile (fits : fixture.TextFits) (built : fixture.build = .ok bytes) :
    StandsAt bytes.view 64 ((wholeFile bytes.size).store 0x1000) := by
  have segments := standsAt_of_build fits built (show fixture.segmentBlock ∈ fixture.blocks by simp [blocks])
  simp only [segmentBlock, Fixture.segments, List.flatMap_cons] at segments
  rw [wholeFile, size_of_build built]
  exact segments.append_left

private theorem ofRecord_wholeFile (fits : fixture.TextFits) (built : fixture.build = .ok bytes)
    (word : bytes.size < Word.limit) :
    Segment.ofRecord .wideLittle (bytes.part 64 56) = wholeFile bytes.size := by
  have zero : 0 < Word.limit := by decide
  have kind : Segment.loadable < 0x100000000 := by decide
  have flags : 5 < 0x100000000 := by decide
  have storable : (wholeFile bytes.size).Storable := ⟨kind, flags, zero, zero, word, word⟩
  rw [Bytes.part_of_standsAt (standsAt_wholeFile fits built) (Segment.length_store _ _)]
  exact Segment.ofRecord_store storable 0x1000

/-- A fixture that is described step by step cannot be built exactly if its dynamic tables run into the code or if it
has more than sixty-four imports. It is never the stubs with landing pads or those of `.plt.got` that have no room. In
the file of any other one no two blocks overlap, each stands where it was laid out, every other byte is zero, and the
first segment maps all of the file. -/
theorem room_of_steps {steps : List Step} (described : applyAll {} steps = .ok fixture) :
    ((∃ error, fixture.build = .error error) ↔
      textAddress < fixture.dynamicBlock.stop ∨ 64 < fixture.imports.length) ∧
    (∀ error, fixture.build = .error error ↔
      textAddress < fixture.dynamicBlock.stop ∧ error = .tooManySymbols ∨
      fixture.dynamicBlock.stop ≤ textAddress ∧ 64 < fixture.imports.length ∧ error = .tooManyImports) ∧
    (fixture.pltBlock.stop ≤ pltSecAddress → fixture.pltSecBlock.stop ≤ pltGotAddress) ∧
    (fixture.dynamicBlock.stop ≤ textAddress → fixture.pltGotBlock.stop ≤ dataGotAddress) ∧
    ∀ bytes, fixture.build = .ok bytes →
      fixture.blocks.Pairwise Block.Apart ∧
      (∀ block ∈ fixture.blocks, StandsAt bytes.view block.offset block.content) ∧
      (∀ position < bytes.size, (∀ block ∈ fixture.blocks, position < block.offset ∨ block.stop ≤ position) →
        bytes.view[position]? = some 0) ∧
      StandsAt bytes.view 64 ((wholeFile bytes.size).store 0x1000) ∧
      (bytes.size < Word.limit → Segment.ofRecord .wideLittle (bytes.part 64 56) = wholeFile bytes.size) := by
  have empty : TextFits {} := Nat.zero_le _
  have fits := textFits_of_applyAll empty described
  refine ⟨?_, fun _ => build_eq_error_iff, ?_, stop_pltGotBlock_le, ?_⟩
  · constructor
    · intro fails
      obtain ⟨error, fails⟩ := fails
      obtain past | many := build_eq_error_iff.mp fails
      · exact .inl past.1
      · exact .inr many.2.1
    · intro full
      by_cases past : textAddress < fixture.dynamicBlock.stop
      · exact ⟨_, build_eq_error_iff.mpr (.inl ⟨past, rfl⟩)⟩
      · exact ⟨_, build_eq_error_iff.mpr (.inr ⟨Nat.not_lt.mp past, full.resolve_left past, rfl⟩)⟩
  · intro room
    exact stop_pltSecBlock_le (stop_pltBlock_le_iff.mp room)
  · intro bytes built
    have buildable := (build_eq_ok_iff.mp built).1
    exact ⟨apart_blocks fits buildable, fun _ => standsAt_of_build fits built,
      fun _ => getElem?_of_build built, standsAt_wholeFile fits built, ofRecord_wholeFile fits built⟩

def importSteps (count : Nat) : List Step := .withLandingPads :: List.replicate count (.importFunction "")

/-- Imports without names, which take the least room in the dynamic tables. -/
def nameless (count : Nat) : Fixture := { imports := List.replicate count "", landingPads := true }

theorem applyAll_imports (names : List String) : fixture.applyAll (names.map .importFunction) =
    .ok { fixture with imports := fixture.imports ++ names } := by
  induction names generalizing fixture with
  | nil => simp [applyAll, pure, Except.pure]
  | cons name others ih =>
    rw [applyAll, List.map_cons, List.foldlM_cons]
    have named : { fixture with imports := fixture.imports ++ [name] }.applyAll (others.map .importFunction) =
      .ok { fixture with imports := fixture.imports ++ [name] ++ others } := ih
    rw [List.append_assoc, List.singleton_append] at named
    exact named

private theorem applyAll_importSteps (count : Nat) : applyAll {} (importSteps count) = .ok (nameless count) := by
  have steps : importSteps count = .withLandingPads :: (List.replicate count "").map .importFunction := by
    rw [importSteps, List.map_replicate]
  rw [steps, applyAll, List.foldlM_cons]
  exact applyAll_imports (List.replicate count "")

theorem room_of_nameless : applyAll {} (importSteps 65) = .ok (nameless 65) ∧
    (nameless 65).build = .error .tooManyImports ∧ applyAll {} (importSteps 64) = .ok (nameless 64) ∧
    ∃ bytes, (nameless 64).build = .ok bytes ∧ (nameless 64).blocks.Pairwise Block.Apart ∧
      StandsAt bytes.view 0x2400 (nameless 64).pltSecBlock.content ∧ bytes.view[0x1700]? = some 0 ∧
      Segment.ofRecord .wideLittle (bytes.part 64 56) = wholeFile bytes.size := by
  have many := applyAll_importSteps 65
  have few := applyAll_importSteps 64
  obtain ⟨_, fails, _⟩ := room_of_steps many
  obtain ⟨stops, _, _, _, stands⟩ := room_of_steps few
  have past : (nameless 65).dynamicBlock.stop ≤ textAddress :=
    Nat.le_trans (stop_dynamicBlock_le _) (by decide +kernel)
  have room : (nameless 64).dynamicBlock.stop ≤ textAddress :=
    Nat.le_trans (stop_dynamicBlock_le _) (by decide +kernel)
  have full : ¬ (textAddress < (nameless 64).dynamicBlock.stop ∨ 64 < (nameless 64).imports.length) := by
    rintro (early | late)
    · exact Nat.not_lt.mpr room early
    · exact absurd late (by decide)
  refine ⟨many, (fails _).mpr (.inr ⟨past, by decide, rfl⟩), few, ?_⟩
  cases built : (nameless 64).build with
  | error failure => exact absurd (stops.mp ⟨failure, built⟩) full
  | ok bytes =>
    obtain ⟨apart, blocks, zero, _, whole⟩ := stands bytes built
    have size : bytes.size = Block.extent (nameless 64).blocks := by
      rw [size_of_build built, extent_blocks]
    have small : Block.extent (nameless 64).blocks ≤ 0x4000 + 24 * 0 + 1 :=
      extent_le (Nat.zero_le _) (buildable_iff.mpr ⟨room, by decide⟩)
    have pads : (nameless 64).pltSecBlock ∈ (nameless 64).blocks := by
      simp [Fixture.blocks, bodyBlocks, stubBlocks, nameless]
    have stop : (nameless 64).pltSecBlock.offset ≤ (nameless 64).pltSecBlock.stop := Nat.le_add_right _ _
    have large : 0x2400 ≤ Block.extent (nameless 64).blocks := Nat.le_trans stop (Block.stop_le_extent pads)
    have word : 0x10000 < Word.limit := by decide
    refine ⟨bytes, rfl, apart, blocks _ pads, zero 0x1700 (by omega) ?_, whole (by omega)⟩
    decide +kernel

end ObjectLens.Fixture

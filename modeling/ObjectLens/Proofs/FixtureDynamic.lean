import ObjectLens.Proofs.ElfReading
import ObjectLens.Proofs.FixtureLayout

/-! The dynamic segment of a fixture. It leads to the names, the symbols and the relocations that were laid out, since
the segment that maps the whole file takes each address to the position of the same number. -/

namespace ObjectLens.Fixture

open Elf
open Bytes (ofList)

variable {fixture : Fixture} {bytes : Bytes}

/-- The dynamic table without the entry that ends it. -/
def usedDynamicTable (fixture : Fixture) : List DynamicEntry := fixture.dynamicTable.dropLast

/-- The dynamic symbols that the relocations show to be there, which are none if there are no relocations. -/
def linkedSymbols (fixture : Fixture) : List SymbolEntry :=
  if fixture.imports.isEmpty && fixture.gotImports.isEmpty then [] else fixture.dynamicEntries

def linked (fixture : Fixture) : Elf.Dynamic where
  symbols := fixture.linkedSymbols.map SymbolEntry.cut
  names := ⟨ofList (storedNames fixture.dynamicNames)⟩
  relocationsWithAddends := fixture.gotRelocations
  relocations := []
  pltRelocations := fixture.pltRelocations

theorem length_dynamicEntries (fixture : Fixture) : fixture.dynamicEntries.length =
    1 + fixture.exported.length + fixture.imports.length + fixture.gotImports.length := by
  simp only [dynamicEntries, List.length_cons, List.length_append, List.length_map, List.length_zipIdx]
  omega

theorem length_dynamicNames (fixture : Fixture) : fixture.dynamicNames.length =
    fixture.exported.length + fixture.imports.length + fixture.gotImports.length := by
  simp only [dynamicNames, List.length_append, List.length_map]

/-- The segment that maps the file takes every address inside of it to the position of the same number. -/
private theorem fileOffset?_segments {address : Nat} (inside : address < Block.extent fixture.bodyBlocks)
    (word : address < Word.limit) : Segment.fileOffset? (fixture.segments.map (·.1)) address = some address := by
  have first : (fixture.segments.map (·.1)).find? (fun segment => segment.kind = Segment.loadable &&
      segment.address ≤ address && address < segment.address + segment.memorySize) =
      some ⟨Segment.loadable, 5, 0, 0, Block.extent fixture.bodyBlocks, Block.extent fixture.bodyBlocks⟩ := by
    simp [segments, inside]
  simp only [Segment.fileOffset?, first, Word.add?, Nat.zero_add, Nat.sub_zero, word, ite_true]

private theorem takeWhile_dynamicTable (fixture : Fixture) :
    fixture.dynamicTable.takeWhile (·.tag ≠ 0) = fixture.usedDynamicTable := by
  simp only [usedDynamicTable, dynamicTable]
  cases fixture.imports.isEmpty <;> cases fixture.gotImports.isEmpty <;> rfl

private theorem last?_usedDynamicTable (fixture : Fixture) :
    let last? := DynamicEntry.last? fixture.usedDynamicTable
    (last? 5 = some fixture.dynamicNameBlock.offset ∧ last? 10 = some fixture.dynamicNameBlock.content.length ∧
      last? 6 = some fixture.dynamicSymbolBlock.offset) ∧
    (last? 23 = (if fixture.imports.isEmpty then none else some fixture.pltRelocationBlock.offset) ∧
      last? 2 = (if fixture.imports.isEmpty then none else some fixture.pltRelocationBlock.content.length) ∧
      last? 20 = (if fixture.imports.isEmpty then none else some 7)) ∧
    (last? 7 = (if fixture.gotImports.isEmpty then none else some fixture.gotRelocationBlock.offset) ∧
      last? 8 = (if fixture.gotImports.isEmpty then none else some fixture.gotRelocationBlock.content.length)) ∧
    last? 17 = none ∧ last? 18 = none ∧ last? 4 = none ∧ last? 0x6ffffef5 = none := by
  simp only [usedDynamicTable, dynamicTable]
  cases fixture.imports.isEmpty <;> cases fixture.gotImports.isEmpty <;>
    exact ⟨⟨rfl, rfl, rfl⟩, ⟨rfl, rfl, rfl⟩, ⟨rfl, rfl⟩, rfl, rfl, rfl, rfl⟩

private theorem storable_dynamicTable (made : fixture.Built bytes) :
    ∀ entry ∈ fixture.dynamicTable, entry.Storable := by
  have entry {tag value : Nat} (small : tag < 256) (word : value < Word.limit) : DynamicEntry.Storable ⟨tag, value⟩ :=
    ⟨Nat.lt_trans small (by decide), word⟩
  have symbols := made.stop_lt_limit (show fixture.dynamicSymbolBlock ∈ fixture.blocks by simp [blocks, bodyBlocks])
  have names := made.stop_lt_limit (show fixture.dynamicNameBlock ∈ fixture.blocks by simp [blocks, bodyBlocks])
  have plt := made.stop_lt_limit (show fixture.pltRelocationBlock ∈ fixture.blocks by simp [blocks, bodyBlocks])
  have got := made.stop_lt_limit (show fixture.gotRelocationBlock ∈ fixture.blocks by simp [blocks, bodyBlocks])
  have large : 256 ≤ Word.limit := by decide
  simp only [Block.stop] at symbols names plt got
  intro found member
  simp only [dynamicTable, List.mem_append, List.mem_singleton] at member
  rcases member with ((front | pltPart) | gotPart) | rfl
  · simp only [List.mem_cons, List.not_mem_nil, or_false] at front
    rcases front with rfl | rfl | rfl | rfl <;> exact entry (by decide) (by omega)
  · split at pltPart
    · cases pltPart
    · simp only [List.mem_cons, List.not_mem_nil, or_false] at pltPart
      rcases pltPart with rfl | rfl | rfl <;> exact entry (by decide) (by omega)
  · split at gotPart
    · cases gotPart
    · simp only [List.mem_cons, List.not_mem_nil, or_false] at gotPart
      rcases gotPart with rfl | rfl | rfl <;> exact entry (by decide) (by omega)
  · exact entry (by decide) (by decide)

theorem table?_of_build (made : fixture.Built bytes) (kept : fixture.dynamicSegment = true) :
    DynamicEntry.table? .wideLittle bytes (fixture.segments.map (·.1)) = some fixture.usedDynamicTable := by
  have uniform : ∀ entry ∈ fixture.dynamicTable, entry.store.length = 16 := fun entry _ => entry.length_store
  have stands := made.standsAt (show fixture.dynamicBlock ∈ fixture.blocks by simp [blocks, bodyBlocks])
  have length : fixture.dynamicBlock.content.length = 16 * fixture.dynamicTable.length :=
    length_flatMap_of_uniform uniform
  have some : 0 < fixture.dynamicTable.length := by simp [dynamicTable]
  have second : (fixture.segments.map (·.1)).find? (·.kind = Segment.dynamic) =
      Option.some ⟨Segment.dynamic, 4, fixture.dynamicBlock.offset, fixture.dynamicBlock.offset,
        fixture.dynamicBlock.content.length, fixture.dynamicBlock.content.length⟩ := by
    simp [segments, kept, Segment.loadable, Segment.dynamic]
  have back : (fixture.dynamicTable.map fun entry => ofList entry.store).map (DynamicEntry.ofRecord .wideLittle) =
      fixture.dynamicTable := by
    rw [List.map_map]
    exact (List.map_congr_left fun entry member =>
      DynamicEntry.ofRecord_store (storable_dynamicTable made entry member)).trans (List.map_id _)
  have width : DynamicEntry.recordSize .wideLittle = 16 := rfl
  have whole : 16 * fixture.dynamicTable.length / 16 = fixture.dynamicTable.length := by omega
  simp only [DynamicEntry.table?, second, length, show ¬ 16 * fixture.dynamicTable.length = 0 by omega, ite_false,
    Bytes.part?_of_standsAt stands length, Option.bind_eq_bind, Option.bind_some, width, whole]
  rw [show fixture.dynamicBlock.content = fixture.dynamicTable.flatMap DynamicEntry.store from rfl,
    Bytes.records?_flatMap uniform, Option.bind_some, back]
  exact congrArg Option.some fixture.takeWhile_dynamicTable

theorem stop_dynamicNameBlock_le_offset (fixture : Fixture) :
    fixture.dynamicNameBlock.stop ≤ fixture.gotRelocationBlock.offset :=
  Nat.le_trans (le_alignedToEight _) (Nat.le_add_right _ _)

theorem stop_gotRelocationBlock_le (fixture : Fixture) :
    fixture.gotRelocationBlock.stop ≤ fixture.dynamicBlock.stop :=
  Nat.le_trans (le_alignedToEight _) (Nat.le_add_right _ _)

theorem stop_dynamicNameBlock_le (made : fixture.Built bytes) : fixture.dynamicNameBlock.stop ≤ textAddress := by
  have names := fixture.stop_dynamicNameBlock_le_offset
  have got : fixture.gotRelocationBlock.offset ≤ fixture.gotRelocationBlock.stop := Nat.le_add_right _ _
  have table := fixture.stop_gotRelocationBlock_le
  have last := made.buildable.dynamic
  omega

theorem stop_dynamicSymbolBlock (fixture : Fixture) : fixture.dynamicSymbolBlock.stop =
    0x100 + 24 * fixture.dynamicEntries.length :=
  congrArg (0x100 + ·) (length_flatMap_of_uniform fun entry _ => entry.length_store)

private theorem length_dynamicEntries_lt (made : fixture.Built bytes) : fixture.dynamicEntries.length < 256 := by
  have symbols := fixture.stop_dynamicSymbolBlock
  have names : fixture.dynamicSymbolBlock.stop ≤ fixture.dynamicNameBlock.stop := Nat.le_add_right _ _
  have last := stop_dynamicNameBlock_le made
  simp only [textAddress] at last
  omega

private theorem storable_relocation (made : fixture.Built bytes) {offset symbol : Nat} (near : offset < 0x10000)
    (known : symbol < fixture.dynamicEntries.length) : Relocation.Storable ⟨offset, symbol⟩ := by
  have few := length_dynamicEntries_lt made
  constructor
  · exact Nat.lt_trans near (by decide)
  · exact Nat.lt_trans known (Nat.lt_trans few (by decide))

private theorem storable_pltRelocations (made : fixture.Built bytes) :
    ∀ relocation ∈ fixture.pltRelocations, relocation.Storable := by
  intro relocation member
  obtain ⟨index, inside, rfl⟩ := List.mem_map.mp member
  have short := List.mem_range.mp inside
  have few := length_dynamicEntries_lt made
  have count := fixture.length_dynamicEntries
  apply storable_relocation made
  · simp only [gotSlot, gotAddress]
    omega
  · simp only [firstImport]
    omega

private theorem storable_gotRelocations (made : fixture.Built bytes) :
    ∀ relocation ∈ fixture.gotRelocations, relocation.Storable := by
  intro relocation member
  obtain ⟨index, inside, rfl⟩ := List.mem_map.mp member
  have short := List.mem_range.mp inside
  have few := length_dynamicEntries_lt made
  have count := fixture.length_dynamicEntries
  apply storable_relocation made
  · simp only [dataGotSlot, dataGotAddress]
    omega
  · simp only [firstImport]
    omega

theorem length_pltRelocationBlock (fixture : Fixture) :
    fixture.pltRelocationBlock.content.length = 24 * fixture.imports.length := by
  rw [show fixture.pltRelocationBlock.content = fixture.pltRelocations.flatMap (·.store 7) from rfl,
    length_flatMap_of_uniform fun relocation _ => relocation.length_store 7]
  simp [pltRelocations]

theorem length_gotRelocationBlock (fixture : Fixture) :
    fixture.gotRelocationBlock.content.length = 24 * fixture.gotImports.length := by
  rw [show fixture.gotRelocationBlock.content = fixture.gotRelocations.flatMap (·.store 6) from rfl,
    length_flatMap_of_uniform fun relocation _ => relocation.length_store 6]
  simp [gotRelocations]

theorem table?_pltRelocations (made : fixture.Built bytes) :
    Relocation.table? .wideLittle bytes fixture.pltRelocationBlock.offset fixture.pltRelocationBlock.content.length
      true = some fixture.pltRelocations :=
  Relocation.table?_of_standsAt (storable_pltRelocations made) (by decide)
    (made.standsAt (show fixture.pltRelocationBlock ∈ fixture.blocks by simp [blocks, bodyBlocks])) rfl

theorem table?_gotRelocations (made : fixture.Built bytes) :
    Relocation.table? .wideLittle bytes fixture.gotRelocationBlock.offset fixture.gotRelocationBlock.content.length
      true = some fixture.gotRelocations :=
  Relocation.table?_of_standsAt (storable_gotRelocations made) (by decide)
    (made.standsAt (show fixture.gotRelocationBlock ∈ fixture.blocks by simp [blocks, bodyBlocks])) rfl

/-- The greatest symbol that a relocation names is the last one. -/
private theorem greatest_symbol (some : 0 < fixture.imports.length + fixture.gotImports.length) :
    ((fixture.gotRelocations ++ fixture.pltRelocations).map (·.symbol)).foldl max 0 + 1 =
      fixture.dynamicEntries.length := by
  have upper : ((fixture.gotRelocations ++ fixture.pltRelocations).map (·.symbol)).foldl max 0 ≤
      fixture.dynamicEntries.length - 1 := by
    refine Block.foldl_max_le (Nat.zero_le _) fun symbol member => ?_
    rw [length_dynamicEntries]
    simp only [gotRelocations, pltRelocations, List.map_append, List.map_map, List.mem_append, List.mem_map,
      List.mem_range, Function.comp_apply, firstImport] at member
    rcases member with ⟨index, inside, rfl⟩ | ⟨index, inside, rfl⟩ <;> omega
  -- The imports of `.plt.got` come last, so their relocations name the last symbol where there are some.
  have last : fixture.dynamicEntries.length - 1 ∈
      (fixture.gotRelocations ++ fixture.pltRelocations).map (·.symbol) := by
    rw [length_dynamicEntries]
    simp only [gotRelocations, pltRelocations, List.map_append, List.map_map, List.mem_append, List.mem_map,
      List.mem_range, Function.comp_apply, firstImport]
    by_cases got : 0 < fixture.gotImports.length
    · exact .inl ⟨fixture.gotImports.length - 1, by omega, by omega⟩
    · exact .inr ⟨fixture.imports.length - 1, by omega, by omega⟩
  have lower := (Block.le_foldl_max _ 0).2 _ last
  have positive : 0 < fixture.dynamicEntries.length := by simp [dynamicEntries]
  omega

/-- The relocations show that all symbols are there, as far as there are relocations. -/
private theorem symbolCount?_of_relocations (machine : Nat) :
    Elf.Dynamic.symbolCount? .wideLittle machine bytes none none (fixture.gotRelocations ++ fixture.pltRelocations) =
      some fixture.linkedSymbols.length := by
  simp only [Elf.Dynamic.symbolCount?, Option.bind_eq_bind, Option.bind_some, Option.pure_def, Option.some.injEq,
    linkedSymbols]
  by_cases none : fixture.imports.isEmpty && fixture.gotImports.isEmpty
  · rw [if_pos none]
    simp only [Bool.and_eq_true, List.isEmpty_iff] at none
    simp [gotRelocations, pltRelocations, none]
  · rw [if_neg none]
    have few : 0 < fixture.imports.length + fixture.gotImports.length := by
      simp only [Bool.and_eq_true, List.isEmpty_iff, not_and_or] at none
      rcases none with some | some
      · exact Nat.lt_of_lt_of_le (List.length_pos_iff.mpr some) (Nat.le_add_right _ _)
      · exact Nat.lt_of_lt_of_le (List.length_pos_iff.mpr some) (Nat.le_add_left _ _)
    have greatest := greatest_symbol few
    have count := fixture.length_dynamicEntries
    rw [if_neg (by omega)]
    omega

private theorem fileOffset?_block (made : fixture.Built bytes) {block : Block} (present : block ∈ fixture.bodyBlocks)
    (some : 0 < block.content.length) :
    Segment.fileOffset? (fixture.segments.map (·.1)) block.offset = Option.some block.offset := by
  have inside := Block.stop_le_extent present
  have word := made.extent_lt_limit
  simp only [Block.stop] at inside
  exact fileOffset?_segments (by omega) (by omega)

private theorem table?_last_pltRelocations (made : fixture.Built bytes) : Relocation.table? .wideLittle bytes
    (((DynamicEntry.last? fixture.usedDynamicTable 23).bind (Segment.fileOffset? (fixture.segments.map (·.1)))).getD 0)
    (DynamicEntry.last fixture.usedDynamicTable 2) (DynamicEntry.last fixture.usedDynamicTable 20 = 7) =
    some fixture.pltRelocations := by
  obtain ⟨_, ⟨start, size, kind⟩, _⟩ := fixture.last?_usedDynamicTable
  rw [start, DynamicEntry.last, DynamicEntry.last, size, kind]
  cases none : fixture.imports with
  | nil => simp [Relocation.table?, pltRelocations, none]
  | cons first others =>
    have some : 0 < fixture.pltRelocationBlock.content.length := by
      rw [length_pltRelocationBlock, none, List.length_cons]
      omega
    simpa [fileOffset?_block made (by simp [bodyBlocks]) some] using table?_pltRelocations made

private theorem table?_last_gotRelocations (made : fixture.Built bytes) : Relocation.table? .wideLittle bytes
    (((DynamicEntry.last? fixture.usedDynamicTable 7).bind (Segment.fileOffset? (fixture.segments.map (·.1)))).getD 0)
    (DynamicEntry.last fixture.usedDynamicTable 8) true = some fixture.gotRelocations := by
  obtain ⟨_, _, ⟨start, size⟩, _⟩ := fixture.last?_usedDynamicTable
  rw [start, DynamicEntry.last, size]
  cases none : fixture.gotImports with
  | nil => simp [Relocation.table?, gotRelocations, none]
  | cons first others =>
    have some : 0 < fixture.gotRelocationBlock.content.length := by
      rw [length_gotRelocationBlock, none, List.length_cons]
      omega
    simpa [fileOffset?_block made (by simp [bodyBlocks]) some] using table?_gotRelocations made

private theorem records?_linkedSymbols (made : fixture.Built bytes) :
    bytes.records? fixture.dynamicSymbolBlock.offset 24 fixture.linkedSymbols.length =
      some (fixture.linkedSymbols.map fun entry => ofList entry.store) := by
  have whole := made.standsAt (show fixture.dynamicSymbolBlock ∈ fixture.blocks by simp [blocks, bodyBlocks])
  have stands : StandsAt bytes.view fixture.dynamicSymbolBlock.offset
      (fixture.linkedSymbols.flatMap SymbolEntry.store) := by
    rw [linkedSymbols]
    split
    · -- No symbols stand anywhere, so also where the table is.
      obtain ⟨front, back, here, same⟩ := whole
      exact ⟨front, fixture.dynamicSymbolBlock.content ++ back, here, by simpa using same⟩
    · exact whole
  exact Bytes.records?_of_standsAt (fun entry _ => SymbolEntry.length_store entry) stands rfl

/-- The dynamic table leads to the tables that were laid out. -/
theorem read?_linked (made : fixture.Built bytes) (machine : Nat) :
    Elf.Dynamic.read? .wideLittle machine bytes (fixture.segments.map (·.1)) fixture.usedDynamicTable =
      some fixture.linked := by
  obtain ⟨⟨names, namesSize, symbols⟩, _, _, _, relSize, hash, gnuHash⟩ := fixture.last?_usedDynamicTable
  have namesRead : StringTable.read? bytes fixture.dynamicNameBlock.offset fixture.dynamicNameBlock.content.length =
      some ⟨ofList (storedNames fixture.dynamicNames)⟩ :=
    read?_storedNames (made.standsAt (by simp [blocks, bodyBlocks])) rfl
  have namesLength : DynamicEntry.last fixture.usedDynamicTable 10 = fixture.dynamicNameBlock.content.length := by
    rw [DynamicEntry.last, namesSize]
    rfl
  have symbolsSome : 0 < fixture.dynamicSymbolBlock.content.length := by
    rw [show fixture.dynamicSymbolBlock.content = fixture.dynamicEntries.flatMap SymbolEntry.store from rfl,
      length_flatMap_of_uniform fun entry _ => entry.length_store, length_dynamicEntries]
    omega
  have namesPlace : Segment.fileOffset? (fixture.segments.map (·.1)) fixture.dynamicNameBlock.offset = _ :=
    fileOffset?_block made (by simp [bodyBlocks]) (Nat.succ_pos _)
  have symbolsPlace : Segment.fileOffset? (fixture.segments.map (·.1)) fixture.dynamicSymbolBlock.offset = _ :=
    fileOffset?_block made (by simp [bodyBlocks]) symbolsSome
  have none (start : Nat) : Relocation.table? .wideLittle bytes start (DynamicEntry.last fixture.usedDynamicTable 18)
      false = some [] := by
    rw [DynamicEntry.last, relSize]
    rfl
  have count : Elf.Dynamic.symbolCount? .wideLittle machine bytes Option.none Option.none
      (fixture.gotRelocations ++ fixture.pltRelocations) = some fixture.linkedSymbols.length :=
    symbolCount?_of_relocations machine
  have back : (fixture.linkedSymbols.map fun entry => ofList entry.store).map (SymbolEntry.ofRecord .wideLittle) =
      fixture.linkedSymbols.map SymbolEntry.cut := by
    rw [List.map_map]
    exact List.map_congr_left fun entry _ => SymbolEntry.ofRecord_store entry
  simp only [Elf.Dynamic.read?, table?_last_gotRelocations made, table?_last_pltRelocations made, none, names,
    namesLength, symbols, hash, gnuHash, Option.bind_some, Option.bind_none, namesPlace, symbolsPlace, Option.getD_some,
    namesRead, Option.bind_eq_bind, List.append_nil, count, show SymbolEntry.recordSize .wideLittle = 24 from rfl,
    records?_linkedSymbols made, back]
  rfl

end ObjectLens.Fixture

import ObjectLens.Proofs.FixtureDynamic
import ObjectLens.Proofs.FixtureSections

/-! Reading the file of a fixture gives back what was laid out. Every fixture that is built is opened as an ELF file,
with or without a symbol table and a dynamic segment. -/

namespace ObjectLens.Fixture

open Elf
open Bytes (ofList)

variable {fixture : Fixture} {bytes : Bytes}

def pltRelocationHeader (fixture : Fixture) : Section :=
  fixture.headerOf 2 (mappedSection fixture.pltRelocationBlock Section.relocationsWithAddends 0x42 1 7 8 24)

def gotRelocationHeader (fixture : Fixture) : Section :=
  fixture.headerOf 7 (mappedSection fixture.gotRelocationBlock Section.relocationsWithAddends 2 1 0 8 24)

/-- What is read from the file of a fixture. -/
def file (fixture : Fixture) : File where
  encoding := .wideLittle
  machine := fixture.machine
  segments := fixture.segments.map (·.1)
  sections := fixture.sectionHeaders
  sectionNames := ⟨ofList (storedNames fixture.sectionNames)⟩
  symbols := if fixture.stripped then [] else fixture.symbolEntries.map SymbolEntry.cut
  symbolNames := if fixture.stripped then .empty else ⟨ofList (storedNames (fixture.symbols.map (·.name)))⟩
  dynamic := if fixture.dynamicSegment then fixture.linked else ⟨[], ⟨ofList []⟩, [], [], []⟩
  sectionRelocations := (fixture.pltRelocationHeader, fixture.pltRelocations) ::
    if fixture.gotImports.isEmpty then [] else [(fixture.gotRelocationHeader, fixture.gotRelocations)]

private theorem storable_header (made : fixture.Built bytes) (machine : fixture.machine < 0x10000) :
    fixture.header.Storable := by
  have place := made.stop_lt_limit (show fixture.sectionHeaderBlock ∈ fixture.blocks by simp [blocks, bodyBlocks])
  have few := fixture.length_sectionNames_le.2
  have count := fixture.length_sectionHeaders
  simp only [Block.stop] at place
  constructor
  · exact machine
  · exact show 64 < Word.limit by decide
  · show fixture.sectionHeaderBlock.offset < _
    omega
  · show fixture.segments.length < _
    simp only [segments]
    split <;> simp
  · show fixture.sectionHeaders.length < _
    omega
  · show fixture.sectionHeaders.length - 1 < _
    omega

private theorem storable_segments (made : fixture.Built bytes) : ∀ listed ∈ fixture.segments, listed.1.Storable := by
  have whole := made.extent_lt_limit
  have dynamic := made.stop_lt_limit (show fixture.dynamicBlock ∈ fixture.blocks by simp [blocks, bodyBlocks])
  simp only [Block.stop] at dynamic
  have limit : Word.limit = 0x10000000000000000 := rfl
  intro listed member
  simp only [segments, List.mem_cons] at member
  rcases member with rfl | member
  · constructor <;> simp only [Segment.loadable] <;> omega
  · split at member
    · cases List.mem_singleton.mp member
      constructor <;> simp only [Segment.dynamic] <;> omega
    · cases member

/-- The names that a section was made of are read where the section is listed. -/
private theorem sectionStrings?_of_listed (made : fixture.Built bytes) {index : Nat} {name : String} {block : Block}
    {names : List String} (present : block ∈ fixture.blocks) (stored : block.content = storedNames names)
    (listed : fixture.listedSections[index]? = some (name, looseSection block Section.stringTable 0 0 1 0)) :
    sectionStrings? bytes fixture.sectionHeaders (index + 1) = some ⟨ofList (storedNames names)⟩ := by
  have short : index < fixture.sectionNames.length := by
    rw [sectionNames_eq_map, List.length_map]
    exact (List.getElem?_eq_some_iff.mp listed).1
  have few := fixture.length_sectionNames_le.2
  have word := made.stop_lt_limit present
  have stands := made.standsAt present
  rw [stored] at stands
  refine sectionStrings?_of_standsAt (by omega) (getElem?_sectionHeaders listed) stands
    (congrArg List.length stored).symm ?_
  show 0 + block.content.length < _
  simp only [Block.stop] at word
  omega

private theorem sectionNames_of_build (made : fixture.Built bytes) :
    sectionStrings? bytes fixture.sectionHeaders fixture.header.nameSection =
      some ⟨ofList (storedNames fixture.sectionNames)⟩ := by
  have listed : fixture.listedSections[fixture.namedSections.length]? =
      some (".shstrtab", looseSection fixture.sectionNameBlock Section.stringTable 0 0 1 0) := by
    simp [listedSections]
  have count : fixture.header.nameSection = fixture.namedSections.length + 1 := by
    show fixture.sectionHeaders.length - 1 = _
    rw [length_sectionHeaders, sectionNames_eq_map, listedSections]
    simp
  rw [count]
  exact sectionStrings?_of_listed made (by simp [blocks, bodyBlocks]) rfl listed

/-- The names of the symbols are in the section behind the symbol table, which links to it. -/
private theorem getElem?_listedSections_symbolNames (kept : fixture.stripped = false) :
    fixture.listedSections[(fixture.fixedSections ++ fixture.stubSections).length + 1]? =
      some (".strtab", looseSection fixture.symbolNameBlock Section.stringTable 0 0 1 0) := by
  have split : fixture.listedSections = (fixture.fixedSections ++ fixture.stubSections) ++
      [(".symtab", looseSection fixture.symbolBlock Section.symbolTable
          ((fixture.fixedSections ++ fixture.stubSections).length + 2) 1 8 24),
        (".strtab", looseSection fixture.symbolNameBlock Section.stringTable 0 0 1 0),
        (".shstrtab", looseSection fixture.sectionNameBlock Section.stringTable 0 0 1 0)] := by
    simp [listedSections, namedSections, kept]
  rw [split, List.getElem?_append_right (Nat.le_add_right _ _), Nat.add_sub_cancel_left]
  rfl

/-- The symbol table is read with its names, unless the fixture is stripped. -/
private theorem symbolTable_of_build (made : fixture.Built bytes) :
    File.symbolTable? .wideLittle bytes fixture.sectionHeaders =
      some (fixture.file.symbols, fixture.file.symbolNames) := by
  simp only [File.symbolTable?, find?_symbolTable, file]
  by_cases gone : fixture.stripped
  · simp only [gone, ite_true]
  simp only [gone, Bool.false_eq_true, ite_false]
  have kept : fixture.stripped = false := by simpa using gone
  have present : fixture.symbolBlock ∈ fixture.blocks ∧ fixture.symbolNameBlock ∈ fixture.blocks := by
    simp [blocks, bodyBlocks, symbolBlocks, kept]
  have length : fixture.symbolBlock.content.length = 24 * fixture.symbolEntries.length :=
    length_flatMap_of_uniform fun entry _ => entry.length_store
  have whole : fixture.symbolBlock.content.length / 24 = fixture.symbolEntries.length := by omega
  have entries : sectionSymbols? .wideLittle bytes
      (fixture.headerOf (fixture.fixedSections ++ fixture.stubSections).length
        (looseSection fixture.symbolBlock Section.symbolTable
          ((fixture.fixedSections ++ fixture.stubSections).length + 2) 1 8 24)) =
      some (fixture.symbolEntries.map SymbolEntry.cut) :=
    sectionSymbols?_of_standsAt (made.standsAt present.1) whole
  have names : sectionStrings? bytes fixture.sectionHeaders
      ((fixture.fixedSections ++ fixture.stubSections).length + 2) =
      some ⟨ofList (storedNames (fixture.symbols.map (·.name)))⟩ :=
    sectionStrings?_of_listed made present.2 rfl (getElem?_listedSections_symbolNames kept)
  simp only [entries, Option.bind_eq_bind, Option.bind_some]
  rw [show (fixture.headerOf _ (looseSection fixture.symbolBlock Section.symbolTable
    ((fixture.fixedSections ++ fixture.stubSections).length + 2) 1 8 24)).link =
    (fixture.fixedSections ++ fixture.stubSections).length + 2 from rfl, names]
  rfl

private theorem fits_mappedSection (made : fixture.Built bytes) {block : Block} (present : block ∈ fixture.blocks)
    (index kind flags link info alignment entrySize : Nat) :
    (fixture.headerOf index (mappedSection block kind flags link info alignment entrySize)).fits bytes.size := by
  have inside : block.offset + block.content.length ≤ bytes.size := made.stop_le_size present
  have word : block.offset + block.content.length < Word.limit := made.stop_lt_limit present
  simp [Section.fits, headerOf, mappedSection, inside, word]

private theorem relocationTables_of_build (made : fixture.Built bytes) :
    File.relocationTables? .wideLittle bytes fixture.sectionHeaders = some fixture.file.sectionRelocations := by
  have pltFits : fixture.pltRelocationHeader.fits bytes.size :=
    fits_mappedSection made (by simp [blocks, bodyBlocks]) _ _ _ _ _ _ _
  have gotFits : fixture.gotRelocationHeader.fits bytes.size :=
    fits_mappedSection made (by simp [blocks, bodyBlocks]) _ _ _ _ _ _ _
  have pltRead : Relocation.table? .wideLittle bytes fixture.pltRelocationHeader.offset
      fixture.pltRelocationHeader.size (fixture.pltRelocationHeader.kind = Section.relocationsWithAddends) =
      some fixture.pltRelocations := table?_pltRelocations made
  have gotRead : Relocation.table? .wideLittle bytes fixture.gotRelocationHeader.offset
      fixture.gotRelocationHeader.size (fixture.gotRelocationHeader.kind = Section.relocationsWithAddends) =
      some fixture.gotRelocations := table?_gotRelocations made
  simp only [File.relocationTables?, filter_relocations, file]
  rw [← pltRelocationHeader, ← gotRelocationHeader]
  cases fixture.gotImports.isEmpty <;> simp [pltFits, gotFits, pltRead, gotRead]

theorem read?_of_build (made : fixture.Built bytes) (machine : fixture.machine < 0x10000) :
    File.read? bytes = some fixture.file := by
  have front := made.standsAt (show fixture.headerBlock ∈ fixture.blocks by simp [blocks])
  have segments := made.standsAt (show fixture.segmentBlock ∈ fixture.blocks by simp [blocks])
  have headers := made.standsAt (show fixture.sectionHeaderBlock ∈ fixture.blocks by simp [blocks, bodyBlocks])
  have bounded : ∀ block ∈ fixture.bodyBlocks, block.stop < Word.limit :=
    fun block present => made.stop_lt_limit (List.mem_append_left _ present)
  have sectionsRead : Section.table? .wideLittle fixture.header bytes = some fixture.sectionHeaders := by
    refine Section.table?_of_standsAt (fun header member => storable_of_mem bounded member) (List.cons_ne_nil _ _) ?_
      rfl headers
    have behind : fixture.sectionNameBlock.stop ≤ fixture.sectionHeaderBlock.offset := le_alignedToEight _
    have some : 0 < fixture.sectionNameBlock.content.length := Nat.succ_pos _
    simp only [Block.stop] at behind
    show fixture.sectionHeaderBlock.offset ≠ 0
    omega
  have dynamicRead : ∃ entries, DynamicEntry.table? .wideLittle bytes (fixture.segments.map (·.1)) = some entries ∧
      Elf.Dynamic.read? .wideLittle fixture.machine bytes (fixture.segments.map (·.1)) entries =
        some fixture.file.dynamic := by
    by_cases kept : fixture.dynamicSegment
    · refine ⟨_, table?_of_build made kept, ?_⟩
      rw [read?_linked made, file, if_pos kept]
    · refine ⟨[], ?_, ?_⟩
      · simp [DynamicEntry.table?, Fixture.segments, kept, Segment.loadable, Segment.dynamic]
      · rw [Dynamic.read?_nil, file, if_neg kept]
  obtain ⟨entries, entriesRead, linkedRead⟩ := dynamicRead
  exact File.read?_of_tables (Encoding.ofIdentification?_of_standsAt front)
    (Header.read?_of_standsAt (storable_header made machine) front)
    (Segment.table?_of_standsAt (storable_segments made) rfl segments) sectionsRead (sectionNames_of_build made)
    (symbolTable_of_build made) entriesRead linkedRead (relocationTables_of_build made)
    (versionTablesFit_sectionHeaders fixture bytes)

/-- The file of a fixture is opened as an ELF file, whether the format is given or not. -/
theorem load_of_build (made : fixture.Built bytes) (machine : fixture.machine < 0x10000) {format : Option Format}
    (config : Config) (known : format = none ∨ format = some .elf) :
    Image.load format config (.regular bytes) = .ok (.ofContents config bytes (fixture.file.contents bytes)) :=
  Image.load_of_elf config known (read?_of_build made machine)

end ObjectLens.Fixture

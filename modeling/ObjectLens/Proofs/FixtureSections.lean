import ObjectLens.Proofs.FixtureLayout
import ObjectLens.Proofs.StoredNames

/-! The section headers of a fixture. Their names are distinct and are found in the table of names, so a section that
is looked up by its name is the one that was laid out under it. -/

namespace ObjectLens.Fixture

open Elf
open Bytes (ofList)

variable {fixture : Fixture} {name : String} {found : Section}

def listedSections (fixture : Fixture) : List (String × Section) :=
  fixture.namedSections ++ [(".shstrtab", looseSection fixture.sectionNameBlock Section.stringTable 0 0 1 0)]

/-- The header of a section, with the place of its name. -/
def headerOf (fixture : Fixture) (index : Nat) (found : Section) : Section :=
  { found with name := nameOffset fixture.sectionNames index }

def nullHeader : Section := ⟨0, 0, 0, 0, 0, 0, 0, 0, 0, 0⟩

theorem sectionNames_eq_map (fixture : Fixture) : fixture.sectionNames = fixture.listedSections.map (·.1) := by
  simp [sectionNames, listedSections]

theorem sectionHeaders_eq (fixture : Fixture) : fixture.sectionHeaders =
    nullHeader :: fixture.listedSections.zipIdx.map fun listed => fixture.headerOf listed.2 listed.1.2 := by
  have split : fixture.namedSections.map (·.2) ++ [looseSection fixture.sectionNameBlock Section.stringTable 0 0 1 0] =
      fixture.listedSections.map (·.2) := by
    simp [listedSections]
  rw [sectionHeaders, split, List.zipIdx_map, List.map_map]
  rfl

/-- Which names there are depends on whether there are imports of either kind, landing pads and a symbol table. -/
theorem sectionNames_eq (fixture : Fixture) : fixture.sectionNames =
    [".dynsym", ".dynstr", ".rela.plt", ".dynamic", ".text", ".rodata", ".plt"] ++
      (if fixture.gotImports.isEmpty then [] else [".rela.dyn"]) ++
      (if fixture.landingPads && !fixture.imports.isEmpty then [".plt.sec"] else []) ++
      (if fixture.gotImports.isEmpty then [] else [".plt.got"]) ++
      (if fixture.stripped then [] else [".symtab", ".strtab"]) ++ [".shstrtab"] := by
  simp only [sectionNames, namedSections, fixedSections, stubSections]
  cases fixture.gotImports.isEmpty <;> cases fixture.landingPads && !fixture.imports.isEmpty <;>
    cases fixture.stripped <;> rfl

private theorem zeroFree_sectionNames : ∀ name ∈ fixture.sectionNames, ZeroFree name ∧ name ≠ "" := by
  rw [sectionNames_eq]
  cases fixture.gotImports.isEmpty <;> cases fixture.landingPads && !fixture.imports.isEmpty <;>
    cases fixture.stripped <;> decide

private theorem nodup_sectionNames (fixture : Fixture) : fixture.sectionNames.Nodup := by
  rw [sectionNames_eq]
  cases fixture.gotImports.isEmpty <;> cases fixture.landingPads && !fixture.imports.isEmpty <;>
    cases fixture.stripped <;> decide

theorem length_sectionNames_le (fixture : Fixture) :
    (storedNames fixture.sectionNames).length ≤ 128 ∧ fixture.sectionNames.length ≤ 13 := by
  rw [sectionNames_eq]
  cases fixture.gotImports.isEmpty <;> cases fixture.landingPads && !fixture.imports.isEmpty <;>
    cases fixture.stripped <;> decide

theorem length_sectionHeaders (fixture : Fixture) :
    fixture.sectionHeaders.length = fixture.sectionNames.length + 1 := by
  rw [sectionHeaders_eq, sectionNames_eq_map]
  simp

theorem getElem?_sectionHeaders {index : Nat} (listed : fixture.listedSections[index]? = some (name, found)) :
    fixture.sectionHeaders[index + 1]? = some (fixture.headerOf index found) := by
  simp [sectionHeaders_eq, listed]

private theorem eq_of_listed {first second : Nat} {other : Section}
    (listed : fixture.listedSections[first]? = some (name, found))
    (again : fixture.listedSections[second]? = some (name, other)) : first = second := by
  have distinct := fixture.nodup_sectionNames
  rw [sectionNames_eq_map] at distinct
  have inside : first < (fixture.listedSections.map (·.1)).length := by
    rw [List.length_map]
    exact (List.getElem?_eq_some_iff.mp listed).1
  refine (List.getElem?_inj inside distinct).mp ?_
  rw [List.getElem?_map, List.getElem?_map, listed, again]
  rfl

private theorem mem_sectionHeaders {header : Section} (member : header ∈ fixture.sectionHeaders) :
    header = nullHeader ∨ ∃ index name found, fixture.listedSections[index]? = some (name, found) ∧
      header = fixture.headerOf index found := by
  rw [sectionHeaders_eq] at member
  rcases List.mem_cons.mp member with rfl | member
  · exact .inl rfl
  · obtain ⟨⟨⟨name, found⟩, index⟩, listed, rfl⟩ := List.mem_map.mp member
    exact .inr ⟨index, name, found, List.mem_zipIdx_iff_getElem?.mp listed, rfl⟩

/-- A section describes a block: where it is, how long it is, and some small numbers. -/
structure Describes (found : Section) (block : Block) : Prop where
  offset : found.offset = block.offset
  size : found.size = block.content.length
  address : found.address = block.offset ∨ found.address = 0
  name : found.name = 0
  small : found.kind < 256 ∧ found.flags < 256 ∧ found.link < 256 ∧ found.info < 256 ∧ found.alignment < 256 ∧
    found.entrySize < 256

private theorem describes_mappedSection {block : Block} {kind flags link info alignment entrySize : Nat}
    (small : kind < 256 ∧ flags < 256 ∧ link < 256 ∧ info < 256 ∧ alignment < 256 ∧ entrySize < 256) :
    Describes (mappedSection block kind flags link info alignment entrySize) block :=
  ⟨rfl, rfl, .inl rfl, rfl, small⟩

private theorem describes_looseSection {block : Block} {kind link info alignment entrySize : Nat}
    (small : kind < 256 ∧ link < 256 ∧ info < 256 ∧ alignment < 256 ∧ entrySize < 256) :
    Describes (looseSection block kind link info alignment entrySize) block :=
  ⟨rfl, rfl, .inr rfl, rfl, small.1, show 0 < 256 by decide, small.2⟩

private theorem describes_of_fixed (member : (name, found) ∈ fixture.fixedSections) :
    ∃ block ∈ fixture.bodyBlocks, Describes found block := by
  simp only [fixedSections, List.mem_cons, List.not_mem_nil, or_false] at member
  rcases member with same | same | same | same | same | same | same <;> cases same <;>
    exact ⟨_, by simp [bodyBlocks, stubBlocks], describes_mappedSection (by decide)⟩

private theorem describes_of_stub (member : (name, found) ∈ fixture.stubSections) :
    ∃ block ∈ fixture.bodyBlocks, Describes found block := by
  have entry : pltGotEntrySize fixture.landingPads < 256 := by
    simp only [pltGotEntrySize]
    split <;> decide
  simp only [stubSections, List.mem_append] at member
  rcases member with (relocations | pltSec) | pltGot
  · split at relocations
    · cases relocations
    · cases List.mem_singleton.mp relocations
      exact ⟨fixture.gotRelocationBlock, by simp [bodyBlocks], describes_mappedSection (by decide)⟩
  · split at pltSec
    next both =>
      have pads := (Bool.and_eq_true_iff.mp both).1
      cases List.mem_singleton.mp pltSec
      exact ⟨_, by simp [bodyBlocks, stubBlocks, pads], describes_mappedSection (by decide)⟩
    next => cases pltSec
  · split at pltGot
    · cases pltGot
    next some =>
      cases List.mem_singleton.mp pltGot
      exact ⟨fixture.pltGotBlock, by simp [bodyBlocks, stubBlocks, some], describes_mappedSection
        ⟨by decide, by decide, by decide, by decide, by decide, entry⟩⟩

private theorem describes_of_listed (member : (name, found) ∈ fixture.listedSections) :
    ∃ block ∈ fixture.bodyBlocks, Describes found block := by
  have few : (fixture.fixedSections ++ fixture.stubSections).length + 2 < 256 := by
    simp only [fixedSections, stubSections]
    cases fixture.gotImports.isEmpty <;> cases fixture.landingPads && !fixture.imports.isEmpty <;> simp
  simp only [listedSections, namedSections, List.mem_append, List.mem_singleton] at member
  rcases member with ((fixed | stub) | symbol) | names
  · exact describes_of_fixed fixed
  · exact describes_of_stub stub
  · split at symbol
    · cases symbol
    next kept =>
      have present : fixture.symbolBlock ∈ fixture.bodyBlocks ∧ fixture.symbolNameBlock ∈ fixture.bodyBlocks := by
        simp [bodyBlocks, symbolBlocks, kept]
      simp only [List.mem_cons, List.not_mem_nil, or_false] at symbol
      rcases symbol with same | same <;> cases same
      · exact ⟨_, present.1, describes_looseSection ⟨by decide, few, by decide, by decide, by decide⟩⟩
      · exact ⟨_, present.2, describes_looseSection (by decide)⟩
  · cases names
    exact ⟨fixture.sectionNameBlock, by simp [bodyBlocks], describes_looseSection (by decide)⟩

/-- Where all blocks end at words, every header has room for its numbers. -/
theorem storable_of_mem {header : Section} (bounded : ∀ block ∈ fixture.bodyBlocks, block.stop < Word.limit)
    (member : header ∈ fixture.sectionHeaders) : header.Storable := by
  rcases mem_sectionHeaders member with rfl | ⟨index, name, found, listed, rfl⟩
  · constructor <;> decide
  obtain ⟨block, present, describes⟩ := describes_of_listed (List.mem_of_getElem? listed)
  obtain ⟨offset, size, address, _, kind, flags, link, info, alignment, entrySize⟩ := describes
  have word := bounded block present
  have place : nameOffset fixture.sectionNames index < 0x100000000 := by
    have short : index < fixture.sectionNames.length := by
      rw [sectionNames_eq_map, List.length_map]
      exact (List.getElem?_eq_some_iff.mp listed).1
    have inside := nameOffset_lt short
    have few := fixture.length_sectionNames_le.1
    omega
  simp only [Block.stop, Word.limit] at word
  constructor <;> simp only [headerOf, Word.limit] <;> omega

/-- The sections of relocations are those of the procedure linkage table and, if there is one, of `.plt.got`. -/
theorem filter_relocations (fixture : Fixture) :
    (fixture.sectionHeaders.filter fun table =>
      table.kind = Section.relocationsWithAddends || table.kind = Section.relocations) =
    fixture.headerOf 2 (mappedSection fixture.pltRelocationBlock Section.relocationsWithAddends 0x42 1 7 8 24) ::
      if fixture.gotImports.isEmpty then []
      else [fixture.headerOf 7
        (mappedSection fixture.gotRelocationBlock Section.relocationsWithAddends 2 1 0 8 24)] := by
  simp only [sectionHeaders, headerOf]
  generalize fixture.sectionNames = names
  simp only [namedSections, fixedSections, stubSections]
  cases fixture.gotImports.isEmpty <;> cases fixture.landingPads && !fixture.imports.isEmpty <;>
    cases fixture.stripped <;> rfl

/-- The last symbol table is the only one, which a stripped fixture lacks. -/
theorem find?_symbolTable (fixture : Fixture) :
    fixture.sectionHeaders.reverse.find? (·.kind = Section.symbolTable) =
      if fixture.stripped then none
      else some (fixture.headerOf (fixture.fixedSections ++ fixture.stubSections).length
        (looseSection fixture.symbolBlock Section.symbolTable
          ((fixture.fixedSections ++ fixture.stubSections).length + 2) 1 8 24)) := by
  simp only [sectionHeaders, headerOf]
  generalize fixture.sectionNames = names
  simp only [namedSections, fixedSections, stubSections]
  cases fixture.gotImports.isEmpty <;> cases fixture.landingPads && !fixture.imports.isEmpty <;>
    cases fixture.stripped <;> rfl

theorem versionTablesFit_sectionHeaders (fixture : Fixture) (bytes : Bytes) :
    File.versionTablesFit bytes fixture.sectionHeaders = true := by
  refine List.all_eq_true.mpr fun kind version => ?_
  have large : 256 ≤ kind := by
    simp only [Section.versionTables, List.mem_cons, List.not_mem_nil, or_false] at version
    omega
  have absent : fixture.sectionHeaders.find? (·.kind = kind) = none := by
    refine List.find?_eq_none.mpr fun header member => ?_
    have small : header.kind < 256 := by
      rcases mem_sectionHeaders member with rfl | ⟨index, name, found, listed, rfl⟩
      · decide
      · obtain ⟨_, _, describes⟩ := describes_of_listed (List.mem_of_getElem? listed)
        exact describes.small.1
    simp only [decide_eq_true_eq]
    omega
  rw [absent]

section Lookup

variable {file : File} (sections : file.sections = fixture.sectionHeaders)
  (names : file.sectionNames = ⟨ofList (storedNames fixture.sectionNames)⟩)

include names

private theorem sectionName_nullHeader : file.sectionName nullHeader = "" := by
  rw [File.sectionName, names, show nullHeader.name = 0 from rfl, name?_storedNames_zero]
  rfl

theorem sectionName_headerOf {index : Nat} (listed : fixture.listedSections[index]? = some (name, found)) :
    file.sectionName (fixture.headerOf index found) = name := by
  obtain ⟨inside, same⟩ := List.getElem?_eq_some_iff.mp listed
  have short : index < fixture.sectionNames.length := by
    rw [sectionNames_eq_map, List.length_map]
    exact inside
  have here : fixture.sectionNames[index] = name := by
    simp only [sectionNames_eq_map, List.getElem_map, same]
  have free : ZeroFree fixture.sectionNames[index] := (zeroFree_sectionNames _ (List.getElem_mem short)).1
  rw [File.sectionName, names, headerOf, name?_storedNames short free, here]
  rfl

include sections

/-- A listed section is found by its name, since no other section has that name. -/
theorem sectionNamed?_of_mem (member : (name, found) ∈ fixture.listedSections) :
    ∃ index, fixture.listedSections[index]? = some (name, found) ∧
      file.sectionNamed? name = some (fixture.headerOf index found) := by
  obtain ⟨index, listed⟩ := List.getElem?_of_mem member
  refine ⟨index, listed, ?_⟩
  have there := getElem?_sectionHeaders listed
  obtain ⟨inside, same⟩ := List.getElem?_eq_some_iff.mp there
  rw [File.sectionNamed?, sections]
  refine List.find?_eq_some_iff_getElem.mpr ⟨by simpa using sectionName_headerOf names listed, index + 1, inside,
    same, fun earlier before => ?_⟩
  have known : name ∈ fixture.sectionNames := by
    rw [sectionNames_eq_map]
    exact List.mem_map_of_mem member
  have proper : name ≠ "" := (zeroFree_sectionNames name known).2
  -- The null header has no name, and each header in front has another one.
  cases earlier with
  | zero =>
    have front : fixture.sectionHeaders[0] = nullHeader := by simp only [sectionHeaders_eq, List.getElem_cons_zero]
    simpa [front, sectionName_nullHeader names] using proper.symm
  | succ earlier =>
    have short : earlier < fixture.listedSections.length := by
      have bound := (List.getElem?_eq_some_iff.mp listed).1
      omega
    have other := List.getElem?_eq_getElem short
    obtain ⟨_, here⟩ := List.getElem?_eq_some_iff.mp (getElem?_sectionHeaders other)
    rw [here, sectionName_headerOf names other]
    simp only [Bool.not_eq_true', decide_eq_false_iff_not]
    rintro rfl
    have same := eq_of_listed other listed
    omega

theorem sectionNamed?_of_not_mem (absent : name ∉ fixture.sectionNames) (proper : name ≠ "") :
    file.sectionNamed? name = none := by
  rw [File.sectionNamed?, sections]
  refine List.find?_eq_none.mpr fun header member => ?_
  rcases mem_sectionHeaders member with rfl | ⟨index, other, found, listed, rfl⟩
  · simpa [sectionName_nullHeader names] using proper.symm
  · have known : other ∈ fixture.sectionNames := by
      rw [sectionNames_eq_map]
      exact List.mem_map_of_mem (List.mem_of_getElem? listed)
    rw [sectionName_headerOf names listed]
    simp only [decide_eq_true_eq]
    rintro rfl
    exact absent known

end Lookup

end ObjectLens.Fixture

import ObjectLens.Proofs.OpenedImages
import ObjectLens.Proofs.StoredNames
import ObjectLens.Proofs.StoredRecords

/-! Reading ELF files whose tables stand where their headers say. Each reader finds its table, and a file whose tables
are all found is opened as an ELF file. -/

namespace ObjectLens

open Bytes (ofList)

namespace Elf

variable {bytes : Bytes} {header : Header} {type entry : Nat}

theorem Encoding.ofIdentification?_of_standsAt (stands : StandsAt bytes.view 0 (header.store type entry)) :
    ofIdentification? bytes = some .wideLittle := by
  simp only [Header.store, List.append_assoc] at stands
  have front := Bytes.part?_of_standsAt stands.append_left (show _ = 16 from rfl)
  simp only [ofIdentification?, front, Option.bind_eq_bind, Option.bind_some]
  decide

theorem Header.read?_of_standsAt (fits : header.Storable) (stands : StandsAt bytes.view 0 (header.store type entry)) :
    read? .wideLittle bytes = some header := by
  have front := Bytes.part?_of_standsAt stands (header.length_store type entry)
  rw [read?, show size .wideLittle = 64 from rfl, front, Option.map_some, ofRecord_store fits]

theorem Segment.table?_of_standsAt {segments : List (Segment × Nat)}
    (fits : ∀ listed ∈ segments, listed.1.Storable) (count : header.segmentCount = segments.length)
    (stands : StandsAt bytes.view header.segmentTable (segments.flatMap fun listed => listed.1.store listed.2)) :
    table? .wideLittle header bytes = some (segments.map (·.1)) := by
  have uniform : ∀ listed ∈ segments, (listed.1.store listed.2).length = 56 :=
    fun listed _ => listed.1.length_store listed.2
  have room := stands.inside
  rw [length_flatMap_of_uniform uniform, Bytes.length_view] at room
  have records := Bytes.recordsOneByOne?_of_standsAt uniform stands rfl
  have width : size .wideLittle = 56 := rfl
  have back : (segments.map fun listed => ofList (listed.1.store listed.2)).map (ofRecord .wideLittle) =
      segments.map (·.1) := by
    rw [List.map_map]
    exact List.map_congr_left fun listed member => ofRecord_store (fits listed member) listed.2
  rw [table?, if_neg (by rw [width, count]; omega), width, count, records, Option.map_some, back]

theorem Section.table?_of_standsAt {sections : List Section} (fits : ∀ listed ∈ sections, listed.Storable)
    (present : sections ≠ []) (place : header.sectionTable ≠ 0) (count : header.sectionCount = sections.length)
    (stands : StandsAt bytes.view header.sectionTable (sections.flatMap store)) :
    table? .wideLittle header bytes = some sections := by
  cases sections with
  | nil => exact absurd rfl present
  | cons first others =>
    have uniform : ∀ listed ∈ others, listed.store.length = 64 := fun listed _ => listed.length_store
    have room := stands.inside
    rw [length_flatMap_of_uniform fun listed _ => listed.length_store, Bytes.length_view] at room
    rw [List.length_cons] at room count
    rw [List.flatMap_cons] at stands
    have width : recordSize .wideLittle = 64 := rfl
    have front := Bytes.part?_of_standsAt stands.append_left first.length_store
    have rest := stands.append_right
    rw [first.length_store] at rest
    have records := Bytes.recordsOneByOne?_of_standsAt uniform rest rfl
    have back : (others.map fun listed => ofList listed.store).map (ofRecord .wideLittle) = others := by
      rw [List.map_map]
      exact (List.map_congr_left fun listed member => ofRecord_store (fits listed (by simp [member]))).trans
        (List.map_id others)
    have some : ¬ header.sectionCount = 0 := by omega
    have short : ¬ header.sectionCount > bytes.size / 64 := by omega
    have left : header.sectionCount - 1 = others.length := by omega
    simp only [table?, place, ite_false, width, front, Option.bind_eq_bind, Option.map_some, Option.bind_some, some,
      short, left, records, ofRecord_store (fits first (by simp)), back]
    rfl

theorem sectionStrings?_of_standsAt {sections : List Section} {index : Nat} {found : Section} {names : List String}
    (short : index ≠ 0xffff) (listed : sections[index]? = some found)
    (stands : StandsAt bytes.view found.offset (Fixture.storedNames names))
    (length : (Fixture.storedNames names).length = found.size) (mapped : found.address + found.size < Word.limit) :
    sectionStrings? bytes sections index = some ⟨ofList (Fixture.storedNames names)⟩ := by
  have inside := stands.inside
  rw [length, Bytes.length_view] at inside
  have fits : found.fits bytes.size := by
    simp [Section.fits, inside, mapped]
  simp only [sectionStrings?, short, ite_false, listed, fits, ite_true]
  exact Fixture.read?_storedNames stands length

/-- The entries of a symbol table are read where they stand, with the digits that their fields have room for. -/
theorem sectionSymbols?_of_standsAt {table : Section} {entries : List SymbolEntry}
    (stands : StandsAt bytes.view table.offset (entries.flatMap SymbolEntry.store))
    (count : table.size / table.entrySize = entries.length) :
    sectionSymbols? .wideLittle bytes table = some (entries.map SymbolEntry.cut) := by
  have records := Bytes.records?_of_standsAt (fun listed _ => SymbolEntry.length_store listed) stands rfl
  rw [sectionSymbols?, show SymbolEntry.recordSize .wideLittle = 24 from rfl, count, records, Option.map_some,
    List.map_map]
  exact congrArg some (List.map_congr_left fun listed _ => SymbolEntry.ofRecord_store listed)

theorem Dynamic.read?_nil (encoding : Encoding) (machine : Nat) (bytes : Bytes) (segments : List Segment) :
    read? encoding machine bytes segments [] = some ⟨[], ⟨ofList []⟩, [], [], []⟩ := by
  have nothing : bytes.part? 0 0 = some (ofList []) := by
    refine Bytes.part?_eq_some_iff.mpr ⟨Nat.zero_le _, Bytes.ext_view ?_⟩
    rw [Bytes.view_part, Bytes.view_ofList, List.take_zero]
  have text : (ofList []).text? = some "" := Bytes.text?_toUTF8 ""
  simp only [read?, DynamicEntry.last?, DynamicEntry.last, List.reverse_nil, List.find?_nil, Option.map_none,
    Option.bind_none, Option.getD_none, StringTable.read?, nothing, text, Option.bind_eq_bind, Option.bind_some,
    Relocation.table?, ite_true, symbolCount?, List.append_nil, List.map_nil, List.foldl_nil]
  rfl

namespace File

variable {file : File}

theorem read?_of_tables {encoding : Encoding} {segments : List Segment} {sections : List Section}
    {sectionNames symbolNames : StringTable} {symbols : List SymbolEntry} {entries : List DynamicEntry}
    {dynamic : Dynamic} {sectionRelocations : List (Section × List Relocation)}
    (identified : Encoding.ofIdentification? bytes = some encoding)
    (headed : Header.read? encoding bytes = some header)
    (segmentsRead : Segment.table? encoding header bytes = some segments)
    (sectionsRead : Section.table? encoding header bytes = some sections)
    (namesRead : sectionStrings? bytes sections header.nameSection = some sectionNames)
    (symbolsRead : symbolTable? encoding bytes sections = some (symbols, symbolNames))
    (entriesRead : DynamicEntry.table? encoding bytes segments = some entries)
    (dynamicRead : Dynamic.read? encoding header.machine bytes segments entries = some dynamic)
    (relocationsRead : relocationTables? encoding bytes sections = some sectionRelocations)
    (versioned : versionTablesFit bytes sections = true) :
    read? bytes = some ⟨encoding, header.machine, segments, sections, sectionNames, symbols, symbolNames, dynamic,
      sectionRelocations⟩ := by
  simp [read?, *]

/-- The first bytes of a file that is read as an ELF file tell that it is one. -/
theorem detect?_of_read? (read : read? bytes = some file) : Container.detect? bytes = some (.binary .elf) := by
  simp only [read?, Option.bind_eq_bind, Option.bind_eq_some_iff] at read
  obtain ⟨encoding, identified, _⟩ := read
  simp only [Encoding.ofIdentification?, Option.bind_eq_bind, Option.bind_none, Option.bind_eq_some_iff,
    Option.ite_none_left_eq_some] at identified
  obtain ⟨front, present, magic, _⟩ := identified
  simp only [Container.detect?, present, Option.bind_eq_bind, Option.bind_some, Decidable.not_not.mp magic, ite_true]
  rfl

end File

end Elf

/-- A file that is read as an ELF file is opened as one, whether the format is given or not. -/
theorem Image.load_of_elf {bytes : Bytes} {file : Elf.File} {format : Option Format} (config : Config)
    (known : format = none ∨ format = some .elf) (read : Elf.File.read? bytes = some file) :
    load format config (.regular bytes) = .ok (.ofContents config bytes (file.contents bytes)) := by
  have detected := Elf.File.detect?_of_read? read
  have nonempty : bytes.size ≠ 0 := by
    intro nothing
    simp only [Container.detect?, Bytes.part?, nothing] at detected
    cases detected
  rw [load_regular format config nonempty]
  rcases known with rfl | rfl
  · simp only [Opening.detected, detected, Opening.contents, read]
    rfl
  · simp only [Opening.asFormat, Opening.contents, read]
    rfl

/-! A relocatable object with two sections of code, each with one function. All sections start at address zero, and so
do both functions. -/

namespace TwinSections

open Elf

def names : List String := ["f", "g", ".a", ".b"]

def symbols : List SymbolEntry := [⟨0, 0, 0, 0, 0⟩, ⟨1, 0x12, 1, 0, 2⟩, ⟨3, 0x12, 2, 0, 2⟩]

def sections : List Section :=
  [⟨0, 0, 0, 0, 0, 0, 0, 0, 0, 0⟩,
   ⟨5, Section.programBits, 6, 0, 64, 2, 0, 0, 1, 0⟩,
   ⟨8, Section.programBits, 6, 0, 66, 2, 0, 0, 1, 0⟩,
   ⟨0, Section.symbolTable, 0, 0, 79, 72, 4, 1, 1, 24⟩,
   ⟨0, Section.stringTable, 0, 0, 68, 11, 0, 0, 1, 0⟩]

def header : Header := ⟨62, 0, 151, 0, 5, 4⟩

/-- The object. The first function is `nop` and `ret`, the second one `push rbp` and `ret`. -/
def bytes : Bytes :=
  ofList (header.store 1 0 ++ ([0x90, 0xc3] ++ ([0x55, 0xc3] ++ (Fixture.storedNames names ++
    (symbols.flatMap SymbolEntry.store ++ sections.flatMap Section.store)))))

def file : Elf.File where
  encoding := .wideLittle
  machine := 62
  segments := []
  sections := sections
  sectionNames := ⟨ofList (Fixture.storedNames names)⟩
  symbols := symbols
  symbolNames := ⟨ofList (Fixture.storedNames names)⟩
  dynamic := ⟨[], ⟨ofList []⟩, [], [], []⟩
  sectionRelocations := []

theorem size_bytes : bytes.size = 471 := by
  rw [bytes, Bytes.size_ofList]
  simp only [List.length_append, Header.length_store,
    length_flatMap_of_uniform fun listed _ => Section.length_store listed,
    length_flatMap_of_uniform fun listed _ => SymbolEntry.length_store listed]
  decide

private theorem storable : ∀ listed ∈ sections, listed.Storable := by
  intro listed member
  simp only [sections, List.mem_cons, List.not_mem_nil, or_false] at member
  rcases member with rfl | rfl | rfl | rfl | rfl <;> constructor <;> decide

theorem stands : StandsAt bytes.view 0 (header.store 1 0) ∧ StandsAt bytes.view 64 [0x90, 0xc3] ∧
    StandsAt bytes.view 66 [0x55, 0xc3] ∧ StandsAt bytes.view 68 (Fixture.storedNames names) ∧
    StandsAt bytes.view 79 (symbols.flatMap SymbolEntry.store) ∧
    StandsAt bytes.view 151 (sections.flatMap Section.store) := by
  have whole : StandsAt bytes.view 0 (header.store 1 0 ++ ([0x90, 0xc3] ++ ([0x55, 0xc3] ++
      (Fixture.storedNames names ++ (symbols.flatMap SymbolEntry.store ++ sections.flatMap Section.store))))) := by
    rw [bytes, Bytes.view_ofList]
    exact StandsAt.self _
  have first := whole.append_right
  rw [Header.length_store] at first
  have second := first.append_right
  have stored := second.append_right
  have entries := stored.append_right
  rw [show (Fixture.storedNames names).length = 11 by decide] at entries
  have headers := entries.append_right
  rw [length_flatMap_of_uniform fun listed _ => SymbolEntry.length_store listed] at headers
  exact ⟨whole.append_left, first.append_left, second.append_left, stored.append_left, entries.append_left, headers⟩

theorem read?_bytes : File.read? bytes = some file := by
  obtain ⟨front, _, _, stored, entries, headers⟩ := stands
  have strings : sectionStrings? bytes sections 4 = some ⟨ofList (Fixture.storedNames names)⟩ :=
    sectionStrings?_of_standsAt (by decide) rfl stored (by decide) (by decide)
  have symbolsRead : File.symbolTable? .wideLittle bytes sections =
      some (symbols, ⟨ofList (Fixture.storedNames names)⟩) := by
    have read : sectionSymbols? .wideLittle bytes ⟨0, Section.symbolTable, 0, 0, 79, 72, 4, 1, 1, 24⟩ =
      some (symbols.map SymbolEntry.cut) := sectionSymbols?_of_standsAt entries rfl
    simp only [File.symbolTable?, show sections.reverse.find? (·.kind = Section.symbolTable) =
      some ⟨0, Section.symbolTable, 0, 0, 79, 72, 4, 1, 1, 24⟩ from rfl, read, Option.bind_eq_bind, Option.bind_some,
      strings]
    rfl
  have segmentsRead : Segment.table? .wideLittle header bytes = some [] := by
    simp [Segment.table?, header, Bytes.recordsOneByOne?]
  exact File.read?_of_tables (Encoding.ofIdentification?_of_standsAt front)
    (Header.read?_of_standsAt (by constructor <;> decide) front)
    segmentsRead (Section.table?_of_standsAt storable (by decide) (by decide) rfl headers) strings symbolsRead rfl
    (Dynamic.read?_nil _ _ _ _) rfl (by decide)

theorem properName?_file : file.symbolNames.properName? 1 = some "f" ∧ file.symbolNames.properName? 3 = some "g" := by
  have first : file.symbolNames.name? (Fixture.nameOffset names 0) = some "f" :=
    Fixture.name?_storedNames (by decide) (by decide)
  have second : file.symbolNames.name? (Fixture.nameOffset names 1) = some "g" :=
    Fixture.name?_storedNames (by decide) (by decide)
  rw [show Fixture.nameOffset names 0 = 1 by decide] at first
  rw [show Fixture.nameOffset names 1 = 3 by decide] at second
  rw [StringTable.properName?, StringTable.properName?, first, second]
  decide

def image : Image := .ofContents {} bytes (file.contents bytes)

theorem load_bytes : Image.load none {} (.regular bytes) = .ok image := Image.load_of_elf {} (.inl rfl) read?_bytes

theorem codeAddress_image (address : Nat) : image.codeAddress address = address := rfl

theorem regions_image : image.regions =
    [file.region ⟨5, Section.programBits, 6, 0, 64, 2, 0, 0, 1, 0⟩,
      file.region ⟨8, Section.programBits, 6, 0, 66, 2, 0, 0, 1, 0⟩] := by
  have code : sections.filter (·.isCode bytes.size) =
      [⟨5, Section.programBits, 6, 0, 64, 2, 0, 0, 1, 0⟩, ⟨8, Section.programBits, 6, 0, 66, 2, 0, 0, 1, 0⟩] := by
    rw [size_bytes]
    decide
  simp only [image, Image.ofContents, File.contents, File.regions, File.sectionRegions,
    show file.sections = sections from rfl, code, List.map_cons, List.map_nil, List.isEmpty_cons, Bool.false_eq_true,
    ite_false]

end TwinSections

end ObjectLens

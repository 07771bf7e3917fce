import ObjectLens.Proofs.OpeningFailures

/-! Which symbols of a Mach-O file are functions. A symbol tells its section by an ordinal that counts all sections of
all segments, so a section without code, or without bytes in the file, has an ordinal of its own and leaves those of the
others as they are. -/

namespace ObjectLens

namespace MachO

/-- How many sections some segments have together. -/
def Segment.sectionTotal : List Segment → Nat
  | [] => 0
  | segment :: others => segment.sectionCount + sectionTotal others

namespace Section

/-- The section holds instructions, and all of its bytes are in the file. -/
def HasCode (found : Section) (fileSize : Nat) : Prop :=
  found.holdsInstructions ∧ found.size ≠ 0 ∧ found.offset + found.size ≤ fileSize

instance (found : Section) (fileSize : Nat) : Decidable (found.HasCode fileSize) :=
  inferInstanceAs (Decidable (_ ∧ _))

theorem isCode_iff {found : Section} {fileSize : Nat} (short : fileSize < Word.last) :
    found.isCode fileSize ↔ found.HasCode fileSize := by
  have capped : Word.addCapped found.offset found.size ≤ fileSize ↔ found.offset + found.size ≤ fileSize := by
    simp only [Word.addCapped]
    omega
  simp only [isCode, HasCode, Bool.and_eq_true, decide_eq_true_eq, capped, and_assoc]

end Section

namespace SymbolEntry

/-- The entry is for a function: it is no entry for debuggers, has a name, and tells one of the sections with code. -/
def IsFunction (entry : SymbolEntry) (sections : List Section) (fileSize : Nat) : Prop :=
  entry.isDebugging = false ∧ entry.isDefined ∧ entry.name ≠ "" ∧ 1 ≤ entry.sectionOrdinal ∧
    ∃ own, sections[entry.sectionOrdinal - 1]? = some own ∧ own.HasCode fileSize

instance (entry : SymbolEntry) (sections : List Section) (fileSize : Nat) :
    Decidable (entry.IsFunction sections fileSize) :=
  have : Decidable (∃ own, sections[entry.sectionOrdinal - 1]? = some own ∧ own.HasCode fileSize) :=
    decidable_of_iff ((sections[entry.sectionOrdinal - 1]?.any fun own => own.HasCode fileSize) = true)
      (by simp [Option.any_eq_true])
  inferInstanceAs (Decidable (_ ∧ _))

end SymbolEntry

namespace File

variable {file : File} {bytes : Bytes} {segment : Segment} {location : SymbolLocation} {sections : List Section}
  {entries : List SymbolEntry} {fileSize : Nat}

/-- The section that a header of a segment tells, if the file has all of the header. -/
def sectionAt? (file : File) (bytes : Bytes) (segment : Segment) (index : Nat) : Option Section :=
  (bytes.part? (segment.sectionTable + Section.recordSize file.encoding * index)
    (Section.recordSize file.encoding)).map (Section.ofRecord file.encoding)

/-- The symbol that an entry of the table tells, if the file has all of the entry and the name can be read. -/
def entryAt? (file : File) (bytes : Bytes) (location : SymbolLocation) (index : Nat) : Option SymbolEntry :=
  (bytes.part? (location.entries + SymbolEntry.recordSize file.encoding * index)
    (SymbolEntry.recordSize file.encoding)).bind (SymbolEntry.ofRecord? file.encoding bytes location.strings)

private theorem segmentSections?_eq_mapM (file : File) (bytes : Bytes) (segment : Segment) :
    file.segmentSections? bytes segment = (List.range segment.sectionCount).mapM (file.sectionAt? bytes segment) := by
  rw [segmentSections?, Bytes.recordsOneByOne?_eq_mapM, map_mapM]
  rfl

private theorem symbolEntries?_eq_mapM (located : file.symbols = some location) :
    file.symbolEntries? bytes = (List.range location.count).mapM (file.entryAt? bytes location) := by
  simp only [symbolEntries?, located, Bytes.recordsOneByOne?_eq_mapM, Option.bind_eq_bind, bind_mapM]
  rfl

theorem sections?_eq_none_iff : file.sections? bytes = none ↔
    ∃ segment ∈ file.segments, ∃ index < segment.sectionCount, file.sectionAt? bytes segment index = none := by
  simp only [sections?, Option.map_eq_none_iff, mapM_eq_none_iff, segmentSections?_eq_mapM, List.mem_range]

theorem symbolEntries?_eq_none_iff : file.symbolEntries? bytes = none ↔
    ∃ location, file.symbols = some location ∧
      ∃ index < location.count, file.entryAt? bytes location index = none := by
  cases located : file.symbols with
  | none => simp [symbolEntries?, located]
  | some location => simp [symbolEntries?_eq_mapM located, mapM_eq_none_iff]

/-- The sections and the symbols of a file, each at its own place: sections are counted over all segments, in the order
of the load commands. -/
structure Tables (file : File) (bytes : Bytes) (sections : List Section) (entries : List SymbolEntry) : Prop where
  section_count : sections.length = Segment.sectionTotal file.segments
  section_at : ∀ before segment after, file.segments = before ++ segment :: after →
    ∀ index < segment.sectionCount,
      sections[Segment.sectionTotal before + index]? = file.sectionAt? bytes segment index
  entry_count : entries.length = (file.symbols.map (·.count)).getD 0
  entry_at : ∀ location, file.symbols = some location → ∀ index < location.count,
    entries[index]? = file.entryAt? bytes location index

private theorem length_of_segmentSections? (read : file.segmentSections? bytes segment = some sections) :
    sections.length = segment.sectionCount := by
  rw [segmentSections?_eq_mapM] at read
  rw [length_of_mapM read, List.length_range]

private theorem length_of_mapM_segmentSections? {segments : List Segment} {groups : List (List Section)}
    (all : segments.mapM (file.segmentSections? bytes) = some groups) :
    groups.flatten.length = Segment.sectionTotal segments := by
  induction segments generalizing groups with
  | nil =>
    cases all
    rfl
  | cons segment others ih =>
    simp only [List.mapM_cons, Option.bind_eq_bind, Option.bind_eq_some_iff, Option.pure_def, Option.some.injEq] at all
    obtain ⟨group, groupRead, rest, restRead, rfl⟩ := all
    rw [List.flatten_cons, List.length_append, length_of_segmentSections? groupRead, ih restRead, Segment.sectionTotal]

private theorem getElem?_of_mapM_range {α : Type} {read : Nat → Option α} {count index : Nat} {results : List α}
    (all : (List.range count).mapM read = some results) (inside : index < count) :
    results[index]? = read index := by
  rw [getElem?_of_mapM all, List.getElem?_range inside, Option.bind_some]

/-- A section is behind all sections of the segments in front of its own. -/
private theorem sections_at (read : file.sections? bytes = some sections) {before after : List Segment}
    (split : file.segments = before ++ segment :: after) {index : Nat} (inside : index < segment.sectionCount) :
    sections[Segment.sectionTotal before + index]? = file.sectionAt? bytes segment index := by
  obtain ⟨groups, all, rfl⟩ := Option.map_eq_some_iff.mp read
  rw [split, List.mapM_append, List.mapM_cons] at all
  simp only [Option.bind_eq_bind, Option.bind_eq_some_iff, Option.pure_def, Option.some.injEq] at all
  obtain ⟨front, frontRead, _, ⟨group, groupRead, back, _, rfl⟩, rfl⟩ := all
  have length := length_of_segmentSections? groupRead
  rw [segmentSections?_eq_mapM] at groupRead
  rw [List.flatten_append, List.flatten_cons, ← length_of_mapM_segmentSections? frontRead,
    List.getElem?_append_right (Nat.le_add_right _ _), Nat.add_sub_cancel_left,
    List.getElem?_append_left (by rwa [length]), getElem?_of_mapM_range groupRead inside]

theorem tables_of_read? (sectionsRead : file.sections? bytes = some sections)
    (entriesRead : file.symbolEntries? bytes = some entries) : file.Tables bytes sections entries where
  section_count := by
    obtain ⟨groups, all, rfl⟩ := Option.map_eq_some_iff.mp sectionsRead
    exact length_of_mapM_segmentSections? all
  section_at _ _ _ split _ := sections_at sectionsRead split
  entry_count := by
    cases located : file.symbols with
    | none =>
      rw [symbolEntries?, located] at entriesRead
      cases entriesRead
      rfl
    | some location =>
      rw [symbolEntries?_eq_mapM located] at entriesRead
      rw [length_of_mapM entriesRead, List.length_range]
      rfl
  entry_at location located index inside := by
    rw [symbolEntries?_eq_mapM located] at entriesRead
    exact getElem?_of_mapM_range entriesRead inside

theorem regions_of_codeSections (short : fileSize < Word.last) :
    (codeSections sections fileSize).map (·.1.region) =
      (sections.filter fun found => found.HasCode fileSize).map (·.region) := by
  have kept := List.filter_map (f := Prod.fst) (p := (·.isCode fileSize)) (l := sections.zipIdx 1)
  rw [List.zipIdx_map_fst] at kept
  have code : (codeSections sections fileSize).map (·.1) = sections.filter fun found => found.HasCode fileSize := by
    refine kept.symm.trans (List.filter_congr fun found _ => ?_)
    rw [Bool.eq_iff_iff, decide_eq_true_eq, Section.isCode_iff short]
  rw [← code, List.map_map]
  rfl

/-- An ordinal is among those of the sections with code exactly if the section at its place is one of them. -/
theorem functionEntries_eq_filter (short : fileSize < Word.last) :
    functionEntries sections fileSize entries = entries.filter fun entry => entry.IsFunction sections fileSize := by
  refine List.filter_congr fun entry _ => ?_
  have own : ((codeSections sections fileSize).map (·.2)).contains entry.sectionOrdinal ↔ 1 ≤ entry.sectionOrdinal ∧
      ∃ own, sections[entry.sectionOrdinal - 1]? = some own ∧ own.HasCode fileSize := by
    simp only [List.contains_iff_mem, List.mem_map, Prod.exists, exists_eq_right, mem_codeSections,
      Section.isCode_iff short, exists_and_left]
  rw [Bool.eq_iff_iff, decide_eq_true_eq, SymbolEntry.IsFunction]
  simp only [Bool.and_eq_true, Bool.not_eq_true', decide_eq_true_eq, own]
  constructor
  · rintro ⟨⟨⟨plain, defined⟩, place⟩, named⟩
    exact ⟨plain, defined, named, place⟩
  · rintro ⟨plain, defined, named, place⟩
    exact ⟨⟨⟨plain, defined⟩, place⟩, named⟩

private theorem contents?_of_malformed_section {config : Config}
    (malformed : ∃ segment ∈ file.segments, ∃ index < segment.sectionCount,
      file.sectionAt? bytes segment index = none) : file.contents? bytes config = .error .badSections :=
  contents?_of_no_sections (sections?_eq_none_iff.mpr malformed)

private theorem contents?_of_malformed_entry {config : Config}
    (sound : ¬ ∃ segment ∈ file.segments, ∃ index < segment.sectionCount,
      file.sectionAt? bytes segment index = none)
    (malformed : ∃ location, file.symbols = some location ∧
      ∃ index < location.count, file.entryAt? bytes location index = none) :
    file.contents? bytes config = .error .badSymbols := by
  rw [← sections?_eq_none_iff] at sound
  obtain ⟨sections, read⟩ := Option.ne_none_iff_exists'.mp sound
  exact contents?_of_no_entries read (symbolEntries?_eq_none_iff.mpr malformed)

end File

end MachO

namespace Image

open MachO (displayName)

variable {format : Option Format} {config : Config} {bytes : Bytes} {image : Image} {file : MachO.File}

/-- A file that is read as Mach-O is refused for what its contents are refused for, whether the format is given or
not. -/
private theorem load_of_refused {cause : LoadError} (known : format = none ∨ format = some .machO)
    (read : MachO.File.read? bytes = some file)
    (refused : ∀ otherwise, Opening.contents config bytes .machO otherwise = .error (.refused cause)) :
    load format config (.regular bytes) = .error (.refused cause) := by
  have nonempty : bytes.size ≠ 0 := by
    have enough := (MachO.File.read?_front read).1
    omega
  rw [load_regular format config nonempty]
  rcases known with rfl | rfl
  · simp only [Opening.detected, MachO.File.detect?_of_read? read, refused]
    rfl
  · have slim := MachO.File.number?_ne_fatMagic read
    simp only [Opening.asFormat, slim, false_and, and_false, ite_false, refused]
    rfl

/-- The functions of a Mach-O file are the entries of its symbol table that tell a section with code, in the order of
the table, and its regions are these sections, in the order of the ordinals. A section header or an entry that cannot be
read spoils the whole file. -/
theorem functions_by_section_ordinal (fits : bytes.FitsMemory) :
    (∀ image, load format config (.regular bytes) = .ok image → image.format = .machO →
      ∃ file sections entries, MachO.File.read? bytes = some file ∧ file.Tables bytes sections entries ∧
        image.regions = (sections.filter fun found => found.HasCode bytes.size).map (·.region) ∧
        image.symbols.entries.map (fun symbol => (symbol.name, symbol.address)) =
          (entries.filter fun entry => entry.IsFunction sections bytes.size).map fun entry =>
            (displayName config entry.name, entry.value)) ∧
    ∀ file, format = none ∨ format = some .machO → MachO.File.read? bytes = some file →
      ((∃ segment ∈ file.segments, ∃ index < segment.sectionCount, file.sectionAt? bytes segment index = none) →
        load format config (.regular bytes) = .error (.refused .badSections)) ∧
      ((¬ ∃ segment ∈ file.segments, ∃ index < segment.sectionCount, file.sectionAt? bytes segment index = none) →
        (∃ location, file.symbols = some location ∧
          ∃ index < location.count, file.entryAt? bytes location index = none) →
        load format config (.regular bytes) = .error (.refused .badSymbols)) := by
  refine ⟨fun image opened machO => ?_, fun file known read => ⟨fun malformed => ?_, fun sound malformed => ?_⟩⟩
  · obtain ⟨file, sections, entries, read, sectionsRead, entriesRead, regions, symbols⟩ := load_machO opened machO
    refine ⟨file, sections, entries, read, MachO.File.tables_of_read? sectionsRead entriesRead, ?_, ?_⟩
    · rw [regions, MachO.File.regions_of_codeSections fits.size_lt_last]
    · rw [symbols, MachO.File.functionEntries_eq_filter fits.size_lt_last, List.map_map]
      rfl
  · refine load_of_refused known read fun otherwise => ?_
    simp only [Opening.contents, read, MachO.File.contents?_of_malformed_section malformed]
  · refine load_of_refused known read fun otherwise => ?_
    simp only [Opening.contents, read, MachO.File.contents?_of_malformed_entry sound malformed]

end Image

/-! A Mach-O file with two segments of two sections. The first section holds data and the third one nothing; the others
hold code, and every section has a symbol. -/

namespace SkippedSections

open MachO

def storedSegment (size fileOffset sectionCount : Nat) : List UInt8 :=
  words [1, size] ++ (paddedName [] ++ words [0, 6, fileOffset, 6, 7, 7, sectionCount, 0])

def dataAndCode : List Section := [⟨"__d", 0, 2, 436, 0⟩, ⟨"__a", 2, 2, 438, 0x80000400⟩]

def nothingAndCode : List Section := [⟨"__n", 4, 0, 440, 0x80000400⟩, ⟨"__b", 4, 2, 440, 0x80000400⟩]

def sections : List Section := dataAndCode ++ nothingAndCode

/-- The entries, each with the place of its name. -/
def namedEntries : List (SymbolEntry × Nat) :=
  [(⟨"_d", 0x0e, 1, 0⟩, 1), (⟨"_f", 0x0e, 2, 2⟩, 4), (⟨"_n", 0x0e, 3, 4⟩, 7), (⟨"_e", 0x0e, 4, 4⟩, 10)]

def bytes : Bytes :=
  ⟨⟨words [0xfeedface, 7, 3, 1, 3, 408, 0] ++
    (storedSegment 192 436 2 ++ (dataAndCode.flatMap Section.store ++
      (storedSegment 192 440 2 ++ (nothingAndCode.flatMap Section.store ++
        (words [2, 24, 442, 4, 490, 13] ++ ([1, 2, 0x90, 0xc3, 0x55, 0xc3] ++
          (namedEntries.flatMap (fun pair => pair.1.store pair.2) ++
            Fixture.storedNames ["_d", "_f", "_n", "_e"])))))))⟩⟩

def file : File where
  encoding := narrow
  processor := 7
  segments := [⟨.ofList (paddedName []), 0, 2, 84⟩, ⟨.ofList (paddedName []), 0, 2, 276⟩]
  symbols := some ⟨442, 4, 490⟩
  libraryCount := 1
  bindings := none

def contents : Contents where
  format := .machO
  arch := some .x86
  symbols := [⟨"f", 2, 2⟩, ⟨"e", 4, 2⟩]
  stubs := []
  regions := [⟨"__a", 2, 4, 438⟩, ⟨"__b", 4, 6, 440⟩]

private theorem length_storedSegment (size fileOffset sectionCount : Nat) :
    (storedSegment size fileOffset sectionCount).length = 56 := by
  simp [storedSegment, paddedName]

private theorem storable_dataAndCode : ∀ found ∈ dataAndCode, found.Storable := by decide

private theorem storable_nothingAndCode : ∀ found ∈ nothingAndCode, found.Storable := by decide

private theorem size_bytes : bytes.size = 503 := by
  rw [← Bytes.length_view, Bytes.view, bytes]
  simp only [List.length_append, length_words, length_storedSegment, Section.length_flatMap_store storable_dataAndCode,
    Section.length_flatMap_store storable_nothingAndCode]
  rfl

/-- The parts of the file stand one behind the other. -/
private theorem stands_parts : StandsAt bytes.view 0 (words [0xfeedface, 7, 3, 1, 3, 408, 0]) ∧
    StandsAt bytes.view 28 (storedSegment 192 436 2) ∧
    StandsAt bytes.view 84 (dataAndCode.flatMap Section.store) ∧
    StandsAt bytes.view 220 (storedSegment 192 440 2) ∧
    StandsAt bytes.view 276 (nothingAndCode.flatMap Section.store) ∧
    StandsAt bytes.view 412 (words [2, 24, 442, 4, 490, 13]) ∧
    StandsAt bytes.view 442 (namedEntries.flatMap fun pair => pair.1.store pair.2) ∧
    StandsAt bytes.view 490 (Fixture.storedNames ["_d", "_f", "_n", "_e"]) := by
  have header : StandsAt bytes.view 0 (words [0xfeedface, 7, 3, 1, 3, 408, 0] ++
      (storedSegment 192 436 2 ++ (dataAndCode.flatMap Section.store ++
        (storedSegment 192 440 2 ++ (nothingAndCode.flatMap Section.store ++
          (words [2, 24, 442, 4, 490, 13] ++ ([1, 2, 0x90, 0xc3, 0x55, 0xc3] ++
            (namedEntries.flatMap (fun pair => pair.1.store pair.2) ++
              Fixture.storedNames ["_d", "_f", "_n", "_e"])))))))) := StandsAt.self _
  have first := header.behind (show _ = 28 by simp)
  have firstTable := first.behind (show _ = 84 by rw [length_storedSegment])
  have second := firstTable.behind (show _ = 220 by rw [Section.length_flatMap_store storable_dataAndCode]; rfl)
  have secondTable := second.behind (show _ = 276 by rw [length_storedSegment])
  have symbols :=
    secondTable.behind (show _ = 412 by rw [Section.length_flatMap_store storable_nothingAndCode]; rfl)
  have code := symbols.behind (show _ = 436 by simp)
  have entries := code.behind (show _ = 442 by rfl)
  exact ⟨header.append_left, first.append_left, firstTable.append_left, second.append_left, secondTable.append_left,
    symbols.append_left, entries.append_left, entries.behind rfl⟩

private theorem read?_bytes : File.read? bytes = some file := by
  obtain ⟨header, first, _, second, _, symbols, _⟩ := stands_parts
  have commands : Command.readAll? narrow bytes 3 28 = some [.segment ⟨.ofList (paddedName []), 0, 2, 84⟩,
      .segment ⟨.ofList (paddedName []), 0, 2, 276⟩, .symbols ⟨442, 4, 490⟩] := by
    refine Command.readAll?_cons first.append_left (by decide) (by rw [size_bytes]; decide) ?_ ?_
    · exact Command.read?_segment first rfl (by decide) (by rw [size_bytes]; decide)
    refine Command.readAll?_cons second.append_left (by decide) (by rw [size_bytes]; decide) ?_ ?_
    · exact Command.read?_segment second rfl (by decide) (by rw [size_bytes]; decide)
    · refine Command.readAll?_cons symbols (by decide) (by rw [size_bytes]; decide) ?_ rfl
      exact Command.read?_symbols symbols (by decide) (by decide) (by rw [size_bytes]; decide)
  rw [File.read?_of_commands header (by decide) (by rw [size_bytes]; decide) (by decide) (by rw [size_bytes]; decide)
    commands rfl]
  rfl

private theorem sections?_file : file.sections? bytes = some sections := by
  obtain ⟨_, _, firstTable, _, secondTable, _⟩ := stands_parts
  have first : file.segmentSections? bytes ⟨.ofList (paddedName []), 0, 2, 84⟩ = some dataAndCode :=
    File.segmentSections?_of_standsAt rfl storable_dataAndCode firstTable rfl
  have second : file.segmentSections? bytes ⟨.ofList (paddedName []), 0, 2, 276⟩ = some nothingAndCode :=
    File.segmentSections?_of_standsAt rfl storable_nothingAndCode secondTable rfl
  simp only [File.sections?, file, List.mapM_cons, List.mapM_nil] at first second ⊢
  rw [first, second]
  rfl

private theorem symbolEntries?_file : file.symbolEntries? bytes = some (namedEntries.map (·.1)) := by
  obtain ⟨_, _, _, _, _, _, listed, names⟩ := stands_parts
  exact File.symbolEntries?_of_standsAt rfl rfl (by decide) listed names (by decide)

private theorem contents?_file : file.contents? bytes {} = .ok contents := by
  have bound : file.stubs? bytes {} = .ok [] := rfl
  rw [File.contents?_of_read sections?_file symbolEntries?_file, bound, size_bytes]
  simp only [File.withoutStubs, FunctionSize.infer_eq]
  rfl

def image : Image := .ofContents {} bytes contents

private theorem load_bytes : Image.load none {} (.regular bytes) = .ok image :=
  Image.load_detected_eq_ok_iff.mpr ⟨contents, .machO read?_bytes contents?_file, rfl⟩

private theorem fits_bytes : bytes.FitsMemory := by
  rw [Bytes.FitsMemory, size_bytes]
  decide

/-- A file that ends where the header of its one section would stand. -/
def withoutSections : Bytes := ⟨⟨words [0xfeedface, 7, 3, 1, 1, 56, 0] ++ storedSegment 56 0 1⟩⟩

private theorem size_withoutSections : withoutSections.size = 84 := by
  rw [← Bytes.length_view, Bytes.view, withoutSections, List.length_append, length_words, length_storedSegment]
  rfl

private theorem fits_withoutSections : withoutSections.FitsMemory := by
  rw [Bytes.FitsMemory, size_withoutSections]
  decide

private theorem part?_withoutSections : withoutSections.part? 84 68 = none := by
  rw [Bytes.part?, if_neg (by rw [size_withoutSections]; decide)]

private theorem read?_withoutSections : File.read? withoutSections =
    some ⟨narrow, 7, [⟨.ofList (paddedName []), 0, 1, 84⟩], none, 1, none⟩ := by
  have header : StandsAt withoutSections.view 0 (words [0xfeedface, 7, 3, 1, 1, 56, 0] ++ storedSegment 56 0 1) :=
    StandsAt.self _
  have segment := header.behind (show _ = 28 by simp)
  have command : Command.readAll? narrow withoutSections 1 28 =
      some [.segment ⟨.ofList (paddedName []), 0, 1, 84⟩] := by
    refine Command.readAll?_cons segment.append_left (by decide) (Nat.le_of_eq size_withoutSections.symm) ?_ rfl
    exact Command.read?_segment segment rfl (by decide) (by rw [size_withoutSections]; decide)
  exact File.read?_of_commands header.append_left (by decide) (by rw [size_withoutSections]; decide) (by decide)
    (by rw [size_withoutSections]; decide) command rfl

/-- A file that ends where the one entry of its symbol table would stand. -/
def withoutEntries : Bytes := ⟨⟨words [0xfeedface, 7, 3, 1, 1, 24, 0] ++ words [2, 24, 52, 1, 52, 0]⟩⟩

private theorem size_withoutEntries : withoutEntries.size = 52 := by
  rw [← Bytes.length_view, Bytes.view, withoutEntries, List.length_append, length_words, length_words]
  rfl

private theorem fits_withoutEntries : withoutEntries.FitsMemory := by
  rw [Bytes.FitsMemory, size_withoutEntries]
  decide

private theorem part?_withoutEntries : withoutEntries.part? 52 12 = none := by
  rw [Bytes.part?, if_neg (by rw [size_withoutEntries]; decide)]

private theorem read?_withoutEntries : File.read? withoutEntries = some ⟨narrow, 7, [], some ⟨52, 1, 52⟩, 1, none⟩ := by
  have header : StandsAt withoutEntries.view 0
      (words [0xfeedface, 7, 3, 1, 1, 24, 0] ++ words [2, 24, 52, 1, 52, 0]) := StandsAt.self _
  have symbols := header.behind (show _ = 28 by simp)
  have command : Command.readAll? narrow withoutEntries 1 28 = some [.symbols ⟨52, 1, 52⟩] := by
    refine Command.readAll?_cons symbols (by decide) (Nat.le_of_eq size_withoutEntries.symm) ?_ rfl
    exact Command.read?_symbols symbols (by decide) (by decide) (Nat.le_of_eq size_withoutEntries.symm)
  exact File.read?_of_commands header.append_left (by decide) (by rw [size_withoutEntries]; decide) (by decide)
    (by rw [size_withoutEntries]; decide) command rfl

end SkippedSections

namespace Image

open MachO (displayName)
open SkippedSections (withoutSections withoutEntries)

/-- Of the sections, the second and the fourth hold code, and the functions are those that tell one of these. A file
that ends inside of a table is refused, with the format given or not. -/
theorem functions_of_skippedSections : SkippedSections.bytes.FitsMemory ∧
    (∃ file sections entries, MachO.File.read? SkippedSections.bytes = some file ∧
      file.Tables SkippedSections.bytes sections entries ∧
      (sections.filter fun found => found.HasCode SkippedSections.bytes.size).map (·.region) =
        [⟨"__a", 2, 4, 438⟩, ⟨"__b", 4, 6, 440⟩] ∧
      ((entries.filter fun entry => entry.IsFunction sections SkippedSections.bytes.size).map fun entry =>
        (displayName {} entry.name, entry.value)) = [("f", 2), ("e", 4)]) ∧
    load none {} (.regular withoutSections) = .error (.refused .badSections) ∧
    load (some .machO) {} (.regular withoutEntries) = .error (.refused .badSymbols) := by
  refine ⟨SkippedSections.fits_bytes, ?_, ?_, ?_⟩
  · obtain ⟨opens, _⟩ := functions_by_section_ordinal SkippedSections.fits_bytes
    obtain ⟨file, sections, entries, read, tables, regions, symbols⟩ := opens _ SkippedSections.load_bytes rfl
    exact ⟨file, sections, entries, read, tables, regions.symm, symbols.symm⟩
  · obtain ⟨_, refuses⟩ := functions_by_section_ordinal SkippedSections.fits_withoutSections
    refine (refuses _ (.inl rfl) SkippedSections.read?_withoutSections).1 ⟨_, List.mem_cons_self, 0, Nat.one_pos, ?_⟩
    exact congrArg (Option.map _) SkippedSections.part?_withoutSections
  · obtain ⟨_, refuses⟩ := functions_by_section_ordinal SkippedSections.fits_withoutEntries
    refine (refuses _ (.inr rfl) SkippedSections.read?_withoutEntries).2 ?_ ⟨_, rfl, 0, Nat.one_pos, ?_⟩
    · intro ⟨segment, member, _⟩
      cases member
    · exact congrArg (Option.bind · _) SkippedSections.part?_withoutEntries

end Image

end ObjectLens

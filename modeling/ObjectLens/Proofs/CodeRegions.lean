import ObjectLens.Proofs.CodeRanges
import ObjectLens.Proofs.ElfReading

/-! The code regions of an opened image describe bytes that the file has. Whoever asks for a range inside of one gets
it: neither the end of the file nor the end of the address space is in the way. -/

namespace ObjectLens

namespace Region

/-- The addresses of a region are in order, and a file of some size holds a byte for each. -/
structure Inside (region : Region) (fileSize : Nat) : Prop where
  ordered : region.start ≤ region.stop
  stored : region.fileOffset + (region.stop - region.start) ≤ fileSize

/-- A range inside of a region has its bytes where the region's bytes are. -/
theorem Inside.holds_range {region : Region} {fileSize first last : Nat} (inside : region.Inside fileSize)
    (enclosed : region.Encloses first last) : region.offsetOf first + (last - first) ≤ fileSize := by
  obtain ⟨lower, upper, _⟩ := enclosed
  have stored := inside.stored
  simp only [offsetOf]
  omega

/-- A region whose end is capped at the last word is no longer than the bytes that were meant for it. -/
private theorem inside_of_capped {fileSize address size offset : Nat} (name : String) (word : address < Word.limit)
    (held : offset + size ≤ fileSize) :
    Inside ⟨name, address, Word.addCapped address size, offset⟩ fileSize := by
  have last : address ≤ Word.last := Nat.le_sub_one_of_lt word
  constructor
  · simp only [Word.addCapped]
    omega
  · simp only [Word.addCapped]
    omega

end Region

namespace Elf

private theorem Encoding.field_lt_limit (encoding : Encoding) (record : Bytes) {narrow wide : Nat × Nat}
    (narrowFits : narrow.2 ≤ 8) (wideFits : wide.2 ≤ 8) : encoding.field record narrow wide < Word.limit := by
  simp only [field]
  split
  · exact record.number_lt_limit _ _ wideFits
  · exact record.number_lt_limit _ _ narrowFits

private theorem Section.address_lt_limit (encoding : Encoding) (record : Bytes) :
    (ofRecord encoding record).address < Word.limit :=
  encoding.field_lt_limit record (by decide) (by decide)

private theorem Segment.address_lt_limit (encoding : Encoding) (record : Bytes) :
    (ofRecord encoding record).address < Word.limit :=
  encoding.field_lt_limit record (by decide) (by decide)

/-- Whatever header leads to the section headers, each is read from a record of its own. -/
theorem Section.table?_records {encoding : Encoding} {header : Header} {bytes : Bytes} {sections : List Section}
    (read : table? encoding header bytes = some sections) :
    ∀ found ∈ sections, ∃ record, found = ofRecord encoding record := by
  unfold table? at read
  split at read
  · cases read
    simp
  · simp only [Option.bind_eq_bind, Option.bind_none, Option.bind_eq_some_iff, Option.ite_none_left_eq_some] at read
    obtain ⟨first, firstRead, _, others, _, same⟩ := read
    obtain ⟨record, _, rfl⟩ := Option.map_eq_some_iff.mp firstRead
    cases same
    intro found member
    rcases List.mem_cons.mp member with rfl | member
    · exact ⟨record, rfl⟩
    · obtain ⟨other, _, rfl⟩ := List.mem_map.mp member
      exact ⟨other, rfl⟩

private theorem Segment.table?_records {encoding : Encoding} {header : Header} {bytes : Bytes} {segments : List Segment}
    (read : table? encoding header bytes = some segments) :
    ∀ found ∈ segments, ∃ record, found = ofRecord encoding record := by
  unfold table? at read
  split at read
  · cases read
  · obtain ⟨records, _, rfl⟩ := Option.map_eq_some_iff.mp read
    intro found member
    obtain ⟨record, _, rfl⟩ := List.mem_map.mp member
    exact ⟨record, rfl⟩

namespace File

variable {file : File} {bytes : Bytes}

theorem read?_tables (read : read? bytes = some file) :
    ∃ header, Segment.table? file.encoding header bytes = some file.segments ∧
      Section.table? file.encoding header bytes = some file.sections := by
  simp only [read?, Option.bind_eq_bind, Option.bind_eq_some_iff] at read
  obtain ⟨encoding, _, header, _, segments, segmentsRead, sections, sectionsRead, _, _, _, _, _, _, _, _, _, _, rest⟩ :=
    read
  split at rest
  · cases rest
  · cases rest
    exact ⟨header, segmentsRead, sectionsRead⟩

theorem regions_inside (read : read? bytes = some file) : ∀ region ∈ file.regions bytes.size,
    region.Inside bytes.size := by
  obtain ⟨header, segmentsRead, sectionsRead⟩ := read?_tables read
  intro region member
  simp only [regions] at member
  split at member
  · obtain ⟨⟨found, index⟩, listed, rfl⟩ := List.mem_map.mp member
    obtain ⟨indexed, usable⟩ := List.mem_filter.mp listed
    obtain ⟨record, same⟩ := Segment.table?_records segmentsRead found (List.fst_mem_of_mem_zipIdx indexed)
    simp only [Bool.and_eq_true, decide_eq_true_eq] at usable
    exact Region.inside_of_capped _ (same ▸ Segment.address_lt_limit _ _) usable.2
  · obtain ⟨found, listed, rfl⟩ := List.mem_map.mp member
    obtain ⟨present, usable⟩ := List.mem_filter.mp listed
    obtain ⟨record, same⟩ := Section.table?_records sectionsRead found present
    simp only [Section.isCode, Bool.and_eq_true, decide_eq_true_eq] at usable
    exact Region.inside_of_capped _ (same ▸ Section.address_lt_limit _ _) usable.2

private theorem stop_le_last (file : File) (fileSize : Nat) : ∀ region ∈ file.regions fileSize,
    region.stop ≤ Word.last := by
  intro region member
  simp only [regions] at member
  split at member
  all_goals
    obtain ⟨_, _, rfl⟩ := List.mem_map.mp member
    exact Nat.min_le_right _ _

end File

end Elf

namespace MachO

private theorem Section.address_lt_limit (encoding : Encoding) (record : Bytes) :
    (ofRecord encoding record).address < Word.limit := by
  simp only [ofRecord]
  split
  · exact record.number_lt_limit _ _ (by decide)
  · exact record.number_lt_limit _ _ (by decide)

/-- A section whose end in the file is capped lies inside of a file that is shorter than the cap. -/
theorem Section.region_inside {found : Section} {fileSize : Nat} (word : found.address < Word.limit)
    (short : fileSize < Word.last) (code : found.isCode fileSize = true) : found.region.Inside fileSize := by
  simp only [isCode, Bool.and_eq_true, decide_eq_true_eq] at code
  have held : found.offset + found.size ≤ fileSize := by
    have capped := code.2
    simp only [Word.addCapped] at capped
    omega
  exact Region.inside_of_capped _ word held

namespace File

variable {file : File} {bytes : Bytes} {config : Config} {found : Contents}

private theorem segmentSections?_records {segment : Segment} {sections : List Section}
    (read : file.segmentSections? bytes segment = some sections) :
    ∀ found ∈ sections, ∃ record, found = Section.ofRecord file.encoding record := by
  obtain ⟨records, _, rfl⟩ := Option.map_eq_some_iff.mp read
  intro found member
  obtain ⟨record, _, rfl⟩ := List.mem_map.mp member
  exact ⟨record, rfl⟩

private theorem sections?_records {sections : List Section} (read : file.sections? bytes = some sections) :
    ∀ found ∈ sections, ∃ record, found = Section.ofRecord file.encoding record := by
  obtain ⟨groups, all, rfl⟩ := Option.map_eq_some_iff.mp read
  intro found member
  obtain ⟨group, listed, inside⟩ := List.mem_flatten.mp member
  obtain ⟨segment, _, here⟩ := mem_of_mapM all group listed
  exact segmentSections?_records here found inside

/-- The sections of code among all sections, with their ordinals. -/
def codeSections (sections : List Section) (fileSize : Nat) : List (Section × Nat) :=
  (sections.zipIdx 1).filter fun (found, _) => found.isCode fileSize

/-- What a file with these sections and symbols holds, apart from the stubs. -/
def withoutStubs (file : File) (config : Config) (sections : List Section) (entries : List SymbolEntry)
    (fileSize : Nat) : Contents :=
  let code := codeSections sections fileSize
  let regions := code.map fun (found, _) => found.region
  { format := .machO
    arch := file.arch?
    symbols := FunctionSize.infer (functions config (code.map (·.2)) entries) regions
    stubs := []
    regions }

variable {sections : List Section} {entries : List SymbolEntry}

theorem contents?_of_no_sections (unread : file.sections? bytes = none) :
    file.contents? bytes config = .error .badSections := by
  simp only [contents?, unread]
  rfl

theorem contents?_of_no_entries (read : file.sections? bytes = some sections)
    (unread : file.symbolEntries? bytes = none) : file.contents? bytes config = .error .badSymbols := by
  simp only [contents?, read, unread]
  rfl

/-- The bindings are read last, and all that they add are the stubs. -/
theorem contents?_of_read (read : file.sections? bytes = some sections)
    (listed : file.symbolEntries? bytes = some entries) : file.contents? bytes config =
      (file.stubs? bytes config).map fun stubs =>
        { file.withoutStubs config sections entries bytes.size with stubs } := by
  simp only [contents?, read, listed]
  cases file.stubs? bytes config <;> rfl

theorem contents?_eq_ok (usable : file.contents? bytes config = .ok found) :
    ∃ sections entries, file.sections? bytes = some sections ∧ file.symbolEntries? bytes = some entries ∧
      found.format = .machO ∧ found.regions = (codeSections sections bytes.size).map (·.1.region) ∧
      found.symbols = FunctionSize.infer
        (functions config ((codeSections sections bytes.size).map (·.2)) entries) found.regions := by
  cases read : file.sections? bytes with
  | none =>
    rw [contents?_of_no_sections read] at usable
    cases usable
  | some sections =>
    cases listed : file.symbolEntries? bytes with
    | none =>
      rw [contents?_of_no_entries read listed] at usable
      cases usable
    | some entries =>
      rw [contents?_of_read read listed] at usable
      cases stubsRead : file.stubs? bytes config with
      | error failure =>
        rw [stubsRead] at usable
        cases usable
      | ok stubs =>
        rw [stubsRead] at usable
        cases usable
        exact ⟨sections, entries, rfl, rfl, rfl, rfl, rfl⟩

theorem contents?_format (usable : file.contents? bytes config = .ok found) : found.format = .machO := by
  obtain ⟨_, _, _, _, format, _⟩ := contents?_eq_ok usable
  exact format

private theorem regions_inside (usable : file.contents? bytes config = .ok found) (short : bytes.size < Word.last) :
    ∀ region ∈ found.regions, region.Inside bytes.size := by
  obtain ⟨sections, _, read, _, _, same, _⟩ := contents?_eq_ok usable
  intro region member
  rw [same] at member
  obtain ⟨⟨part, ordinal⟩, listed, rfl⟩ := List.mem_map.mp member
  obtain ⟨indexed, code⟩ := List.mem_filter.mp listed
  obtain ⟨record, made⟩ := sections?_records read part (List.fst_mem_of_mem_zipIdx indexed)
  exact Section.region_inside (made ▸ Section.address_lt_limit _ _) short code

private theorem stop_le_last (usable : file.contents? bytes config = .ok found) :
    ∀ region ∈ found.regions, region.stop ≤ Word.last := by
  obtain ⟨_, _, _, _, _, same, _⟩ := contents?_eq_ok usable
  intro region member
  rw [same] at member
  obtain ⟨_, _, rfl⟩ := List.mem_map.mp member
  exact Nat.min_le_right _ _

end File

end MachO

namespace Pe

private theorem Section.ofRecord?_lt {bytes record : Bytes} {strings : Nat} {found : Section}
    (read : ofRecord? bytes strings record = some found) :
    found.virtualAddress < 0x100000000 ∧ found.rawSize < 0x100000000 := by
  have address := record.number_lt .little 12 4
  have size := record.number_lt .little 16 4
  have power : Nat.pow 256 4 = 0x100000000 := rfl
  rw [power] at address size
  simp only [ofRecord?, Option.bind_eq_bind, Option.bind_eq_some_iff] at read
  obtain ⟨long, _, rest⟩ := read
  split at rest
  all_goals
    obtain ⟨name, _, same⟩ := Option.bind_eq_some_iff.mp rest
    rw [← Option.some.inj same]
    dsimp only
    exact ⟨address, size⟩

private theorem Section.storedSize_le (found : Section) : found.storedSize ≤ found.rawSize := by
  simp only [storedSize]
  split
  · exact Nat.le_refl _
  · exact Nat.min_le_right _ _

namespace File

private theorem regions_inside (file : File) (fileSize : Nat) : ∀ region ∈ file.regions fileSize,
    region.Inside fileSize := by
  intro region member
  obtain ⟨found, listed, rfl⟩ := List.mem_map.mp member
  have code := (List.mem_filter.mp listed).2
  simp only [Section.isCode, Bool.and_eq_true, decide_eq_true_eq] at code
  constructor
  · exact Nat.le_add_right _ _
  · have held := code.2
    simp only [Section.region]
    omega

/-- All addresses of an image are sums of two numbers of four bytes. -/
private theorem stop_le_last {file : File} {bytes : Bytes} (read : read? bytes = some file) (fileSize : Nat) :
    ∀ region ∈ file.regions fileSize, region.stop ≤ Word.last := by
  obtain ⟨header, start, table⟩ := read?_sections read
  simp only [Section.table?, Option.bind_eq_bind, Option.bind_none, Option.bind_eq_some_iff,
    Option.ite_none_left_eq_some] at table
  obtain ⟨_, records, _, all⟩ := table
  intro region member
  obtain ⟨found, listed, rfl⟩ := List.mem_map.mp member
  obtain ⟨record, _, here⟩ := mem_of_mapM all found (List.mem_filter.mp listed).1
  obtain ⟨address, size⟩ := Section.ofRecord?_lt here
  have stored := found.storedSize_le
  simp only [Section.region, Word.last, Word.limit]
  omega

end File

end Pe

/-- Whichever reader made the tables, the bytes of every region are in the file. -/
private theorem Reads.regions_inside {config : Config} {bytes : Bytes} {found : Contents}
    (reads : Reads config bytes found) (fits : bytes.FitsMemory) :
    ∀ region ∈ found.regions, region.Inside bytes.size := by
  cases reads with
  | elf read => exact Elf.File.regions_inside read
  | machO read usable => exact MachO.File.regions_inside usable fits.size_lt_last
  | pe read => exact Pe.File.regions_inside _ _

/-- Whichever reader made the tables, the end of every region is a word. -/
theorem Reads.stop_le_last {config : Config} {bytes : Bytes} {found : Contents} (reads : Reads config bytes found) :
    ∀ region ∈ found.regions, region.stop ≤ Word.last := by
  cases reads with
  | elf read => exact Elf.File.stop_le_last _ _
  | machO read usable => exact MachO.File.stop_le_last usable
  | pe read => exact Pe.File.stop_le_last read _

namespace Image

variable {image : Image} {address size : Nat}

theorem code_of_regions_inside (inside : ∀ region ∈ image.regions, region.Inside image.bytes.size)
    (word : image.codeAddress address + size < Word.limit) {region : Region}
    (first : image.regionOf? address size = some region) :
    image.code address size =
      .ok (image.bytes.part (region.offsetOf (image.codeAddress address)) size) := by
  have held := (inside region (regionOf?_mem first)).holds_range (regionOf?_encloses first)
  rw [Nat.add_sub_cancel_left] at held
  rw [code_inside word first, Bytes.part?, if_pos held]

theorem code_ne_pastEndOfFile (inside : ∀ region ∈ image.regions, region.Inside image.bytes.size) :
    image.code address size ≠ .error .pastEndOfFile := by
  by_cases word : image.codeAddress address + size < Word.limit
  · cases first : image.regionOf? address size with
    | none => simp [code_outside word first]
    | some region => simp [code_of_regions_inside inside word first]
  · simp [code_overflow word]

theorem code_isOk_iff (inside : ∀ region ∈ image.regions, region.Inside image.bytes.size) :
    (∃ found, image.code address size = .ok found) ↔ 0 < size ∧
      image.codeAddress address + size < Word.limit ∧ ∃ region ∈ image.regions,
        region.start ≤ image.codeAddress address ∧ image.codeAddress address + size ≤ region.stop := by
  constructor
  · rintro ⟨found, here⟩
    obtain ⟨word, region, first, _⟩ := code_eq_ok_iff.mp here
    obtain ⟨lower, upper, proper⟩ := regionOf?_encloses first
    exact ⟨by omega, word, region, regionOf?_mem first, lower, upper⟩
  · rintro ⟨positive, word, region, member, lower, upper⟩
    have enclosed : (image.regionOf? address size).isSome :=
      regionOf?_isSome_iff.mpr ⟨region, member, lower, upper, by omega⟩
    obtain ⟨first, found⟩ := Option.isSome_iff_exists.mp enclosed
    exact ⟨_, code_of_regions_inside inside word found⟩

variable {format : Option Format} {config : Config} {bytes : Bytes}

theorem load_regions_inside (fits : bytes.FitsMemory) (opened : load format config (.regular bytes) = .ok image) :
    ∀ region ∈ image.regions, region.Inside image.bytes.size := by
  obtain ⟨found, reads, rfl⟩ := load_reads opened
  exact reads.regions_inside fits

theorem load_stop_le_last (opened : load format config (.regular bytes) = .ok image) :
    ∀ region ∈ image.regions, region.stop ≤ Word.last := by
  obtain ⟨found, reads, rfl⟩ := load_reads opened
  exact reads.stop_le_last

/-- In an opened image a range of code with a region around it has its bytes where the first such region has them. -/
theorem code_of_load (fits : bytes.FitsMemory) (opened : load format config (.regular bytes) = .ok image)
    {region : Region} (first : image.regionOf? address size = some region) :
    image.code address size = .ok (bytes.part (region.offsetOf (image.codeAddress address)) size) := by
  have last := load_stop_le_last opened region (regionOf?_mem first)
  have upper := (regionOf?_encloses first).2.1
  have word : image.codeAddress address + size < Word.limit := by
    simp only [Word.last, Word.limit] at last ⊢
    omega
  rw [code_of_regions_inside (load_regions_inside fits opened) word first, load_bytes opened]

/-- The addresses of every region of an opened image are in order and its bytes are in the file. So a range of code
has bytes, as many as its size, exactly if it is not empty, ends below the greatest address and lies inside of some
region; no position in the file leaves the range of words on the way, and no range runs past the end of the file. -/
theorem code_regions_are_stored (fits : bytes.FitsMemory)
    (opened : load format config (.regular bytes) = .ok image) :
    (∀ region ∈ image.regions, region.start ≤ region.stop ∧
      region.fileOffset + (region.stop - region.start) ≤ bytes.size) ∧
    ∀ address size,
      (∀ region ∈ image.regions,
        region.Encloses (image.codeAddress address) (image.codeAddress address + size) →
        Word.add? region.fileOffset (image.codeAddress address - region.start) =
          some (region.offsetOf (image.codeAddress address))) ∧
      image.codeBytes address size ≠ .error (.badCode address size .pastEndOfFile) ∧
      (∀ found, image.codeBytes address size = .ok found → found.size = size) ∧
      ((∃ found, image.codeBytes address size = .ok found) ↔ 0 < size ∧
        image.codeAddress address + size < Word.limit ∧ ∃ region ∈ image.regions,
          region.start ≤ image.codeAddress address ∧ image.codeAddress address + size ≤ region.stop) := by
  have inside := load_regions_inside fits opened
  have same := load_bytes opened
  refine ⟨fun region member => ?_, fun address size => ⟨fun region member enclosed => ?_, ?_, ?_, ?_⟩⟩
  · have held := inside region member
    exact ⟨held.ordered, same ▸ held.stored⟩
  · have held := (inside region member).holds_range enclosed
    have short := fits.size_lt_last
    rw [same] at held
    refine Word.add?_eq_some_iff.mpr ⟨?_, rfl⟩
    simp only [Region.offsetOf] at held
    simp only [Word.last] at short
    omega
  · have never : image.code address size ≠ .error .pastEndOfFile := code_ne_pastEndOfFile inside
    cases answer : image.code address size with
    | ok found => simp [codeBytes_of_ok answer]
    | error fault => simpa [codeBytes_of_error answer, answer] using never
  · intro found here
    exact size_of_code (codeBytes_eq_ok_iff.mp here)
  · simp only [codeBytes_eq_ok_iff]
    exact code_isOk_iff inside

/-- Of two bytes at address zero of the object with two sections there are all, of two at address one there are not. -/
theorem code_regions_of_twinSections : TwinSections.bytes.FitsMemory ∧
    load none {} (.regular TwinSections.bytes) = .ok TwinSections.image ∧
    (∀ region ∈ TwinSections.image.regions, region.fileOffset + (region.stop - region.start) ≤ 471) ∧
    (∃ found, TwinSections.image.codeBytes 0 2 = .ok found ∧ found.size = 2) ∧
    ¬ ∃ found, TwinSections.image.codeBytes 1 2 = .ok found := by
  have fits : TwinSections.bytes.FitsMemory := by
    rw [Bytes.FitsMemory, TwinSections.size_bytes]
    decide
  obtain ⟨regions, ranges⟩ := code_regions_are_stored fits TwinSections.load_bytes
  refine ⟨fits, TwinSections.load_bytes, ?_, ?_, ?_⟩
  · intro region member
    rw [← TwinSections.size_bytes]
    exact (regions region member).2
  · obtain ⟨_, _, exact, available⟩ := ranges 0 2
    have enclosed : ∃ region ∈ TwinSections.image.regions, region.start ≤ 0 ∧ 2 ≤ region.stop := by
      rw [TwinSections.regions_image]
      decide
    obtain ⟨found, here⟩ := available.mpr ⟨by decide, by decide, enclosed⟩
    exact ⟨found, here, exact found here⟩
  · rw [(ranges 1 2).2.2.2, TwinSections.regions_image]
    decide

end Image

end ObjectLens

import ObjectLens.Proofs.InferredBodies

/-! Code of Thumb functions whose sizes are inferred. Their addresses are odd, one above their first bytes, and sizes
are distances of addresses; a size is right only if it is measured up to another odd address. -/

namespace ObjectLens

/-- An image whose headers are there has the tables that the optional header leads to. -/
private theorem Pe.File.read?_of_headers {bytes legacy : Bytes} {start : Nat} {coff : CoffHeader}
    {header : OptionalHeader} {sections : List Section} (front : bytes.part? 0 128 = some legacy)
    (magic : (legacy.part 0 2).view = [0x4d, 0x5a]) (place : legacy.number .little 0x3c 4 = start)
    (signature : bytes.number? .little start 4 = some 0x4550)
    (read : CoffHeader.read? bytes (start + 4) = some coff) (present : coff.optionalSize ≠ 0)
    (optional : OptionalHeader.read? bytes (start + 4 + CoffHeader.size) = some header)
    (table : Section.table? bytes coff (start + 4 + CoffHeader.size + coff.optionalSize) = some sections) :
    File.read? bytes = File.readTables? bytes coff sections header := by
  subst place
  simp only [read?, Option.bind_eq_bind, Option.bind_some, front, magic, signature, ne_eq, not_true_eq_false, ite_false,
    read, present, optional, Option.map_some, table]

/-! An image for 32-bit ARM with two functions, `f` and `g`. Both are Thumb code of two bytes, which returns at once,
and `g` is the last one of its section. -/

namespace ThumbExports

open Pe

/-- The legacy header, which ends in the place of the headers proper, and a stub of nothing. -/
def legacyHeader : List UInt8 := [0x4d, 0x5a] ++ List.replicate 58 0 ++ words [0x80] ++ List.replicate 64 0

def coffHeader : List UInt8 := words [0x4550, 0x000101c4, 0, 0, 0, 0x20220068]

def optionalHeader : List UInt8 :=
  words [0x10b, 68, 0, 0, 0, 0x1000, 0, 0x400000, 0x1000, 0x200, 0, 0, 0, 0, 0x2000, 0x200, 0, 3, 0x100000, 0x1000,
    0x100000, 0x1000, 0, 1, 0x1000, 40]

def sectionHeader : List UInt8 :=
  [0x2e, 0x74, 0x65, 0x78, 0x74, 0, 0, 0] ++ words [68, 0x1000, 68, 0x200, 0, 0, 0, 0x60000020]

/-- The directory of the exports and the tables that it leads to. -/
def exportTables : List UInt8 :=
  words [0, 0, 0, 0, 1, 2, 2, 0x1028, 0x1030, 0x1038] ++ words [0x1041, 0x1043] ++ words [0x103c, 0x103e] ++
    words [0x10000] ++ [0x66, 0, 0x67, 0]

/-- The file. The code in front of its end is `bx lr` twice. -/
def bytes : Bytes :=
  ⟨⟨[legacyHeader, coffHeader, optionalHeader, sectionHeader, List.replicate 216 0, exportTables,
    [0x70, 0x47, 0x70, 0x47]].flatten⟩⟩

def file : File where
  machine := 0x1c4
  sections := [⟨".text", 68, 0x1000, 68, 0x200, 0x60000020⟩]
  exports := [⟨some "f", 0x1041, false⟩, ⟨some "g", 0x1043, false⟩]
  imports := []

private theorem size_bytes : bytes.size = 580 := by decide +kernel

private theorem sections_bytes : Section.table? bytes ⟨0x1c4, 1, 0, 0, 104⟩ 256 = some file.sections := by
  simp only [Section.table?, Bytes.recordsOneByOne?, Bytes.records?, Bytes.part_eq]
  decide +kernel

private theorem exports_bytes : Export.ofDirectory ⟨file.sections, 0x200⟩ bytes ⟨0x1000, 40⟩ = file.exports := by
  simp only [Export.ofDirectory, Mapping.table, Bytes.part?, Bytes.number, Bytes.part_eq]
  decide +kernel

private theorem tables_bytes :
    File.readTables? bytes ⟨0x1c4, 1, 0, 0, 104⟩ file.sections ⟨false, 0x200, [⟨0x1000, 40⟩]⟩ =
    some file := by
  have exported : OptionalHeader.directory? ⟨false, 0x200, [⟨0x1000, 40⟩]⟩ 0 = some ⟨0x1000, 40⟩ := rfl
  simp only [File.readTables?, exported, Option.map_some, exports_bytes, Option.getD_some]
  rfl

private theorem read?_bytes : File.read? bytes = some file := by
  have front : bytes.part? 0 128 = some (bytes.part 0 128) := if_pos (by rw [size_bytes]; decide)
  have magic : ((bytes.part 0 128).part 0 2).view = [0x4d, 0x5a] := by
    simp only [Bytes.part_eq]
    decide +kernel
  have place : (bytes.part 0 128).number .little 0x3c 4 = 0x80 := by
    simp only [Bytes.number, Bytes.part_eq]
    decide +kernel
  have signature : bytes.number? .little 0x80 4 = some 0x4550 := by
    simp only [Bytes.number?, Bytes.part?, Bytes.part_eq]
    decide +kernel
  have coff : CoffHeader.read? bytes 132 = some ⟨0x1c4, 1, 0, 0, 104⟩ := by
    simp only [CoffHeader.read?, Bytes.part?, Bytes.part_eq]
    decide +kernel
  have optional : OptionalHeader.read? bytes 152 = some ⟨false, 0x200, [⟨0x1000, 40⟩]⟩ := by
    simp only [OptionalHeader.read?, Bytes.part?, Bytes.number?, Bytes.recordsOneByOne?, Bytes.records?, Bytes.part_eq]
    decide +kernel
  rw [File.read?_of_headers front magic place signature coff (by decide) optional sections_bytes]
  exact tables_bytes

def contents : Contents where
  format := .pe
  arch := some .arm
  symbols := [⟨"f", 0x1041, 2⟩, ⟨"g", 0x1043, 1⟩]
  stubs := []
  regions := [⟨".text", 0x1000, 0x1044, 0x200⟩]

private theorem contents_file : file.contents bytes = contents := by
  rw [File.contents, size_bytes]
  simp only [FunctionSize.infer_eq]
  rfl

def image : Image := .ofContents {} bytes contents

private theorem load_bytes : Image.load none {} (.regular bytes) = .ok image :=
  Image.load_detected_eq_ok_iff.mpr ⟨contents, contents_file ▸ .pe read?_bytes, rfl⟩

private theorem fits_bytes : bytes.FitsMemory := by
  rw [Bytes.FitsMemory, size_bytes]
  decide

end ThumbExports

namespace Image

open FunctionSize (nextStartIn?)

variable {format : Option Format} {config : Config} {bytes : Bytes} {image : Image} {symbol : Symbol}
  {region : Region} {address : Nat}

/-- A range inside of a region of an opened image has all of its bytes in the file. -/
private theorem size_part_of_mem (fits : bytes.FitsMemory) (opened : load format config (.regular bytes) = .ok image)
    (present : region ∈ image.regions) {first last : Nat} (enclosed : region.Encloses first last) :
    (bytes.part (region.offsetOf first) (last - first)).size = last - first := by
  have inside := load_regions_inside fits opened region present
  rw [load_bytes opened] at inside
  exact Bytes.size_of_part? (Bytes.part?_eq_some_iff.mpr ⟨inside.holds_range enclosed, rfl⟩)

private theorem codeAddress_of_odd (arm : image.arch = some .arm) (odd : address % 2 = 1) :
    image.codeAddress address = address - 1 := by
  have thumb : image.isThumb address = true := decide_eq_true ⟨arm, odd⟩
  have next := codeAddress_of_thumb thumb
  omega

private theorem codeAddress_of_even (even : address % 2 = 0) : image.codeAddress address = address := by
  apply codeAddress_of_plain
  simp [isThumb, even]

/-- Where the code of a function that starts in a region should end: where the code of the next function of the region
starts, or else with the region. -/
def codeStop (image : Image) (region : Region) (address : Nat) : Nat :=
  ((nextStartIn? image.starts region address).map image.codeAddress).getD region.stop

private theorem codeStop_of_odd {next : Nat} (arm : image.arch = some .arm)
    (after : nextStartIn? image.starts region address = some next) (odd : next % 2 = 1) :
    image.codeStop region address = next - 1 := by
  rw [codeStop, after, Option.map_some, Option.getD_some, codeAddress_of_odd arm odd]

private theorem codeStop_of_even (even : ∀ next, nextStartIn? image.starts region address = some next → next % 2 = 0) :
    image.codeStop region address = (nextStartIn? image.starts region address).getD region.stop := by
  rw [codeStop]
  cases after : nextStartIn? image.starts region address with
  | none => rfl
  | some next => exact codeAddress_of_even (even next after)

/-- The end of a Thumb function by its size is right if another Thumb function follows, and one byte in front of the
right one if none does. -/
theorem codeStop_of_home (inferred : image.InfersSizes) (arm : image.arch = some .arm)
    (member : symbol ∈ image.symbols.entries) (home : Region.home? image.regions symbol.address = some region) :
    (∃ next, nextStartIn? image.starts region symbol.address = some next ∧ next % 2 = 1 ∧
      symbol.address + symbol.size = next ∧ image.codeStop region symbol.address = next - 1) ∨
    (∀ next, nextStartIn? image.starts region symbol.address = some next → next % 2 = 0) ∧
      image.codeStop region symbol.address = symbol.address + symbol.size := by
  have stop := (stop_of_home inferred member home).2
  rw [FunctionSize.stopIn_eq (Region.home?_contains home).1] at stop
  by_cases thumb : ∃ next, nextStartIn? image.starts region symbol.address = some next ∧ next % 2 = 1
  · obtain ⟨next, after, odd⟩ := thumb
    rw [after, Option.getD_some] at stop
    exact .inl ⟨next, after, odd, stop, codeStop_of_odd arm after odd⟩
  · have even : ∀ next, nextStartIn? image.starts region symbol.address = some next → next % 2 = 0 := by
      intro next after
      have notOdd : next % 2 ≠ 1 := fun odd => thumb ⟨next, after, odd⟩
      omega
    exact .inr ⟨even, (codeStop_of_even even).trans stop.symm⟩

/-- The code of a Thumb function is all of its range, which starts in its region if the region starts at an even
address. From two bytes on no other region can be in the way. -/
theorem code_of_home (fits : bytes.FitsMemory) (opened : load format config (.regular bytes) = .ok image)
    (inferred : image.InfersSizes) (arm : image.arch = some .arm) (member : symbol ∈ image.symbols.entries)
    (odd : symbol.address % 2 = 1) (home : Region.home? image.regions symbol.address = some region)
    (even : region.start % 2 = 0) :
    ∃ code, image.code symbol.address symbol.size = .ok code ∧
      (1 < symbol.size → code = bytes.part (region.offsetOf (symbol.address - 1)) symbol.size) := by
  obtain ⟨positive, stop⟩ := stop_of_home inferred member home
  have upper := FunctionSize.stopIn_le_stop image.starts symbol.address region
  have lower := (Region.home?_contains home).1
  have place := codeAddress_of_odd arm odd
  have enclosed : region.Encloses (image.codeAddress symbol.address)
      (image.codeAddress symbol.address + symbol.size) := by
    rw [place]
    exact ⟨by omega, by omega, by omega⟩
  obtain ⟨holder, first⟩ := Option.isSome_iff_exists.mp
    (regionOf?_isSome_iff.mpr ⟨region, Region.home?_mem home, enclosed⟩)
  refine ⟨_, code_of_load fits opened first, fun long => ?_⟩
  have same : image.regionOf? symbol.address symbol.size = some region := by
    refine Region.find?_encloses_of_home home enclosed ?_
    rintro other _ ⟨front, back, _⟩
    exact ⟨by omega, by omega⟩
  rw [first] at same
  rw [Option.some.inj same, place]

/-- The code of an exported Thumb function runs up to the code of the next function of its region exactly if that
function is Thumb code as well. In front of a function at an even address, and at the end of a region, the last byte is
missing. -/
theorem thumb_function_code (fits : bytes.FitsMemory) (opened : load format config (.regular bytes) = .ok image)
    (pe : image.format = .pe) (arm : image.arch = some .arm)
    (aligned : ∀ region ∈ image.regions, region.start % 2 = 0) (member : symbol ∈ image.symbols.entries)
    (odd : symbol.address % 2 = 1) :
    ∃ region code, Region.home? image.regions symbol.address = some region ∧
      image.code symbol.address symbol.size = .ok code ∧
      (∀ disassembler found, image.function disassembler symbol = .ok found → found.bytes = code.view) ∧
      (code = bytes.part (region.offsetOf (symbol.address - 1))
          (image.codeStop region symbol.address - (symbol.address - 1)) ↔
        ∃ next, nextStartIn? image.starts region symbol.address = some next ∧ next % 2 = 1) ∧
      ((∀ next, nextStartIn? image.starts region symbol.address = some next → next % 2 = 0) →
        code.size + 1 = image.codeStop region symbol.address - (symbol.address - 1) ∧
        (1 < symbol.size → code = bytes.part (region.offsetOf (symbol.address - 1))
          (image.codeStop region symbol.address - (symbol.address - 1) - 1))) := by
  have inferred : image.InfersSizes := load_infersSizes opened (by rw [pe]; decide)
  obtain ⟨around, present, contains⟩ := load_home_of_pe opened pe member
  obtain ⟨region, home⟩ := Region.exists_home? present contains
  have even := aligned region (Region.home?_mem home)
  obtain ⟨code, bytesRead, long⟩ := code_of_home fits opened inferred arm member odd home even
  have size := size_of_code bytesRead
  obtain ⟨positive, stop⟩ := stop_of_home inferred member home
  refine ⟨region, code, home, bytesRead, fun disassembler found decoded => ?_, ?_, fun noOdd => ?_⟩
  · obtain ⟨_, _, again, _, _, rfl⟩ := (function_eq_ok_iff (Nat.ne_of_gt positive)).mp decoded
    rw [bytesRead] at again
    cases again
    rfl
  · rcases codeStop_of_home inferred arm member home with ⟨next, after, thumb, stop, right⟩ | ⟨noOdd, right⟩
    · refine iff_of_true ?_ ⟨next, after, thumb⟩
      -- Both addresses are odd, so the function has two bytes at least and they are from its own region.
      rw [long (by omega), right]
      congr 1
      omega
    · refine iff_of_false (fun same => ?_) fun ⟨next, after, thumb⟩ => by
        rw [noOdd next after] at thumb
        cases thumb
      -- The code up to the right end is all in the file, and it is one byte longer than the function.
      have lower := (Region.home?_contains home).1
      have upper := FunctionSize.stopIn_le_stop image.starts symbol.address region
      have whole := size_part_of_mem fits opened (Region.home?_mem home)
        (show region.Encloses (symbol.address - 1) (image.codeStop region symbol.address) from
          ⟨by omega, by omega, by omega⟩)
      rw [← same, size, right] at whole
      omega
  · rcases codeStop_of_home inferred arm member home with ⟨next, after, thumb, _⟩ | ⟨_, right⟩
    · rw [noOdd next after] at thumb
      cases thumb
    · refine ⟨by omega, fun body => ?_⟩
      rw [long body, right]
      congr 1
      omega

private theorem aligned_thumbExports : ∀ region ∈ ThumbExports.image.regions, region.start % 2 = 0 := by
  intro region member
  obtain rfl := List.mem_singleton.mp member
  rfl

/-- The first of the two functions ends where the other one starts and has all of its code. -/
theorem first_function_of_thumbExports : ThumbExports.bytes.FitsMemory ∧
    load none {} (.regular ThumbExports.bytes) = .ok ThumbExports.image ∧ ThumbExports.image.format = .pe ∧
    ThumbExports.image.arch = some .arm ∧ (∀ region ∈ ThumbExports.image.regions, region.start % 2 = 0) ∧
    ⟨"f", 0x1041, 2⟩ ∈ ThumbExports.image.symbols.entries ∧
    ∃ code, ThumbExports.image.code 0x1041 2 = .ok code ∧ code.view = [0x70, 0x47] := by
  have listed : ⟨"f", 0x1041, 2⟩ ∈ ThumbExports.image.symbols.entries := List.mem_cons_self ..
  refine ⟨ThumbExports.fits_bytes, ThumbExports.load_bytes, rfl, rfl, aligned_thumbExports, listed, ?_⟩
  obtain ⟨region, code, home, bytesRead, _, right, _⟩ := thumb_function_code ThumbExports.fits_bytes
    ThumbExports.load_bytes rfl rfl aligned_thumbExports listed rfl
  refine ⟨code, bytesRead, ?_⟩
  cases home
  have after : nextStartIn? ThumbExports.image.starts ⟨".text", 0x1000, 0x1044, 0x200⟩ 0x1041 = some 0x1043 := by decide
  rw [right.mpr ⟨_, after, rfl⟩, codeStop_of_odd rfl after rfl, Bytes.view_part]
  decide +kernel

/-- The last function of the section lacks the last byte of the section, which is the second one of its code. -/
theorem last_function_of_thumbExports :
    load none {} (.regular ThumbExports.bytes) = .ok ThumbExports.image ∧ ThumbExports.image.format = .pe ∧
    ThumbExports.image.arch = some .arm ∧ (∀ region ∈ ThumbExports.image.regions, region.start % 2 = 0) ∧
    ⟨"g", 0x1043, 1⟩ ∈ ThumbExports.image.symbols.entries ∧
    ∃ region code, Region.home? ThumbExports.image.regions 0x1043 = some region ∧ region.stop = 0x1044 ∧
      nextStartIn? ThumbExports.image.starts region 0x1043 = none ∧
      ThumbExports.image.code 0x1043 1 = .ok code ∧ code.view = [0x70] ∧
      (ThumbExports.bytes.part (region.offsetOf 0x1042) (0x1044 - 0x1042)).view = [0x70, 0x47] := by
  refine ⟨ThumbExports.load_bytes, rfl, rfl, aligned_thumbExports, List.mem_cons_of_mem _ (List.mem_cons_self ..),
    ⟨".text", 0x1000, 0x1044, 0x200⟩, ThumbExports.bytes.part 0x242 1, rfl, rfl, by decide, ?_, ?_, ?_⟩
  · have first : ThumbExports.image.regionOf? 0x1043 1 = some ⟨".text", 0x1000, 0x1044, 0x200⟩ := by decide
    have place : Region.offsetOf ⟨".text", 0x1000, 0x1044, 0x200⟩ (ThumbExports.image.codeAddress 0x1043) = 0x242 := by
      decide
    rw [code_of_load ThumbExports.fits_bytes ThumbExports.load_bytes first, place]
  · rw [Bytes.view_part]
    decide +kernel
  · rw [Bytes.view_part]
    decide +kernel

end Image

end ObjectLens

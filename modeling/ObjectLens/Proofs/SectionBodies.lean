import ObjectLens.Proofs.CodeRegions
import ObjectLens.Proofs.FunctionBodies

/-! Which section of an ELF file the bytes of a function come from. Symbols name the section that they belong to, but
only their addresses are kept, so the first section of code around the range decides. It need not be the symbol's own:
in a relocatable object all sections start at address zero. -/

namespace ObjectLens

namespace Elf

def Section.bytesAt (found : Section) (bytes : Bytes) (address size : Nat) : Bytes :=
  bytes.part (found.offset + (address - found.address)) size

namespace File

variable {file : File} {fileSize : Nat} {name : String}

/-- The first section of code that has a whole range inside of it. -/
def sectionAround? (file : File) (fileSize first last : Nat) : Option Section :=
  file.sections.find? fun found => found.isCode fileSize && (file.region found).Encloses first last

def functionNamed? (file : File) (name : String) : Option SymbolEntry :=
  file.symbols.find? fun entry => entry.isDefinedFunction && file.symbolNames.properName? entry.name = some name

private theorem regions_eq_sectionRegions {own : Section} (listed : own ∈ file.sections) (code : own.isCode fileSize) :
    file.regions fileSize = file.sectionRegions fileSize := by
  have held : file.region own ∈ file.sectionRegions fileSize :=
    List.mem_map.mpr ⟨own, List.mem_filter.mpr ⟨listed, code⟩, rfl⟩
  have present : (file.sectionRegions fileSize).isEmpty = false := by
    rw [List.isEmpty_eq_false_iff]
    exact List.ne_nil_of_mem held
  simp only [regions, present, Bool.false_eq_true, ite_false]

private theorem find?_sectionRegions (first last : Nat) :
    (file.sectionRegions fileSize).find? (fun region => region.Encloses first last) =
      (file.sectionAround? fileSize first last).map file.region := by
  simp only [sectionRegions, sectionAround?, List.find?_map, List.find?_filter, Function.comp_def, Bool.decide_and,
    Bool.decide_eq_true]

/-- In the list of functions the first entry of a name is the first one of the symbol table. -/
private theorem find?_functions {entry : SymbolEntry} (first : file.functionNamed? name = some entry) :
    file.functions.find? (·.name == name) = some ⟨name, entry.value, entry.size⟩ := by
  have listed : entry ∈ file.symbols := List.mem_of_find?_eq_some first
  have present : file.symbols.isEmpty = false := by
    rw [List.isEmpty_eq_false_iff]
    exact List.ne_nil_of_mem listed
  have named : file.symbolNames.properName? entry.name = some name := by
    have found := List.find?_some first
    simp only [Bool.and_eq_true, decide_eq_true_eq] at found
    exact found.2
  have sought (other : SymbolEntry) :
      ((file.symbolNames.properName? other.name).map fun name => (⟨name, other.value, other.size⟩ : Symbol)).any
        (·.name == name) = decide (file.symbolNames.properName? other.name = some name) := by
    cases file.symbolNames.properName? other.name with
    | none => rfl
    | some known =>
      rw [Bool.eq_iff_iff]
      simp
  simp only [functions, present, Bool.false_eq_true, ite_false, List.find?_filterMap, List.find?_filter, sought]
  rw [functionNamed?] at first
  simp only [Bool.decide_and, Bool.decide_eq_true, first, Option.bind_some, named, Option.map_some]

/-- A section of code around the range is the first one if none in front of it is around the range. -/
private theorem sectionAround?_of_none_before {index first last : Nat} {own : Section}
    (listed : file.sections[index]? = some own) (code : own.isCode fileSize)
    (enclosed : (file.region own).Encloses first last)
    (before : ∀ earlier other, earlier < index → file.sections[earlier]? = some other → other.isCode fileSize →
      ¬ (file.region other).Encloses first last) : file.sectionAround? fileSize first last = some own := by
  obtain ⟨inside, rfl⟩ := List.getElem?_eq_some_iff.mp listed
  refine List.find?_eq_some_iff_getElem.mpr ⟨by simp [code, enclosed], index, inside, rfl, ?_⟩
  intro earlier front
  have none := before earlier _ front (List.getElem?_eq_getElem (by omega))
  simpa only [Bool.not_eq_eq_eq_not, Bool.not_true, Bool.and_eq_false_imp, decide_eq_false_iff_not] using none

end File

end Elf

namespace Image

open Elf (Section SymbolEntry)

variable {image : Image} {format : Option Format} {config : Config} {bytes : Bytes} {file : Elf.File}

/-- An image in the ELF format is made of the ELF file that its bytes are read as. -/
theorem elf_of_load (opened : load format config (.regular bytes) = .ok image) (elf : image.format = .elf) :
    ∃ file, Elf.File.read? bytes = some file ∧ image = .ofContents config bytes (file.contents bytes) := by
  obtain ⟨found, reads, rfl⟩ := load_reads opened
  cases reads with
  | elf read => exact ⟨_, read, rfl⟩
  | machO read usable =>
    have machO := MachO.File.contents?_format usable
    rw [show found.format = .elf from elf] at machO
    cases machO
  | pe read => cases elf

theorem load_elf (opened : load format config (.regular bytes) = .ok image) (elf : image.format = .elf)
    (read : Elf.File.read? bytes = some file) : image = .ofContents config bytes (file.contents bytes) := by
  obtain ⟨other, here, same⟩ := elf_of_load opened elf
  rw [read] at here
  cases here
  exact same

/-- Where the code regions are those of the sections, the first section of code around a range has its bytes. -/
theorem code_of_sectionAround? (opened : load format config (.regular bytes) = .ok image) (elf : image.format = .elf)
    (read : Elf.File.read? bytes = some file) {address size : Nat} {holder : Section}
    (around : file.sectionAround? bytes.size (image.codeAddress address) (image.codeAddress address + size) =
      some holder) :
    image.code address size = .ok (holder.bytesAt bytes (image.codeAddress address) size) := by
  have same := load_elf opened elf read
  have found := List.find?_some around
  simp only [Bool.and_eq_true, decide_eq_true_eq] at found
  obtain ⟨code, _, upper, _⟩ := found
  have regions : image.regions = file.sectionRegions bytes.size := by
    rw [same]
    exact Elf.File.regions_eq_sectionRegions (List.mem_of_find?_eq_some around) code
  have word : image.codeAddress address + size < Word.limit := by
    have last : (file.region holder).stop ≤ Word.last := Nat.min_le_right _ _
    simp only [Word.last, Word.limit] at last ⊢
    omega
  have first : image.regionOf? address size = some (file.region holder) := by
    rw [regionOf?, regions, Elf.File.find?_sectionRegions, around]
    rfl
  have held : ∀ region ∈ image.regions, region.Inside image.bytes.size := by
    rw [same]
    exact Elf.File.regions_inside read
  rw [code_of_regions_inside held word first, load_bytes opened]
  rfl

/-- The bytes of a function are those of the first section of code around its range. So they are the bytes of the
function's own section exactly if the first section holds the same ones at these addresses, which is certain where no
section of code in front of the own one is around the range. -/
theorem function_bytes_of_section {name : String} {entry : SymbolEntry} {own : Section}
    (opened : load format config (.regular bytes) = .ok image) (elf : image.format = .elf)
    (read : Elf.File.read? bytes = some file) (first : file.functionNamed? name = some entry)
    (body : 0 < entry.size) (listed : file.sections[entry.sectionIndex]? = some own) (code : own.isCode bytes.size)
    (inside : own.address ≤ image.codeAddress entry.value ∧
      image.codeAddress entry.value + entry.size ≤ (file.region own).stop) :
    ∃ holder, file.sectionAround? bytes.size (image.codeAddress entry.value)
        (image.codeAddress entry.value + entry.size) = some holder ∧
      image.code entry.value entry.size = .ok (holder.bytesAt bytes (image.codeAddress entry.value) entry.size) ∧
      (∀ disassembler found, image.resolveBy disassembler name = .ok found →
        found.bytes = (holder.bytesAt bytes (image.codeAddress entry.value) entry.size).view) ∧
      (image.code entry.value entry.size = .ok (own.bytesAt bytes (image.codeAddress entry.value) entry.size) ↔
        holder.bytesAt bytes (image.codeAddress entry.value) entry.size =
          own.bytesAt bytes (image.codeAddress entry.value) entry.size) ∧
      ((∀ index other, index < entry.sectionIndex → file.sections[index]? = some other → other.isCode bytes.size →
        ¬ (file.region other).Encloses (image.codeAddress entry.value)
          (image.codeAddress entry.value + entry.size)) → holder = own) := by
  have enclosed : (file.region own).Encloses (image.codeAddress entry.value)
      (image.codeAddress entry.value + entry.size) := ⟨inside.1, inside.2, by omega⟩
  -- The own section is around the range, so some section is the first one around it.
  have present : (file.sectionAround? bytes.size (image.codeAddress entry.value)
      (image.codeAddress entry.value + entry.size)).isSome := by
    refine List.find?_isSome.mpr ⟨own, List.mem_of_getElem? listed, ?_⟩
    simp [code, enclosed]
  obtain ⟨holder, around⟩ := Option.isSome_iff_exists.mp present
  have bytesRead := code_of_sectionAround? opened elf read around
  refine ⟨holder, around, bytesRead, ?_, ?_, ?_⟩
  · intro disassembler found here
    have named : image.symbols.named? name = some ⟨name, entry.value, entry.size⟩ := by
      rw [named?_of_load opened, load_elf opened elf read]
      exact Elf.File.find?_functions first
    rw [resolveBy_of_named named] at here
    obtain ⟨code, _, again, _, _, rfl⟩ := (function_eq_ok_iff (Nat.ne_of_gt body)).mp here
    rw [bytesRead] at again
    cases again
    rfl
  · rw [bytesRead, Except.ok.injEq]
  · intro before
    have certain := Elf.File.sectionAround?_of_none_before listed code enclosed before
    rw [around] at certain
    exact Option.some.inj certain

private theorem functionNamed?_twinSections : TwinSections.file.functionNamed? "f" = some ⟨1, 0x12, 1, 0, 2⟩ ∧
    TwinSections.file.functionNamed? "g" = some ⟨3, 0x12, 2, 0, 2⟩ := by
  obtain ⟨first, second⟩ := TwinSections.properName?_file
  simp only [Elf.File.functionNamed?, show TwinSections.file.symbols = TwinSections.symbols from rfl,
    TwinSections.symbols, List.find?_cons, first, second]
  decide

/-- The first function of the object has the bytes of its own section, since no section is in front of that one. -/
theorem first_function_of_twinSections : ∃ entry own,
    TwinSections.file.functionNamed? "f" = some entry ∧ TwinSections.file.sections[entry.sectionIndex]? = some own ∧
      TwinSections.image.code entry.value entry.size = .ok (own.bytesAt TwinSections.bytes entry.value entry.size) := by
  have code : Section.isCode ⟨5, Section.programBits, 6, 0, 64, 2, 0, 0, 1, 0⟩ TwinSections.bytes.size := by
    rw [TwinSections.size_bytes]
    decide
  obtain ⟨holder, _, read, _, _, certain⟩ := function_bytes_of_section TwinSections.load_bytes rfl
    TwinSections.read?_bytes functionNamed?_twinSections.1 (by decide) rfl code ⟨by decide, by decide⟩
  have own := certain fun index other front listed code => by
    obtain rfl : index = 0 := Nat.lt_one_iff.mp front
    cases listed
    cases code
  rw [own] at read
  exact ⟨_, _, functionNamed?_twinSections.1, rfl, read⟩

/-- The second function of the object has the bytes of the first section, and not those of its own. -/
theorem second_function_of_twinSections : ∃ entry own,
    Image.load none {} (.regular TwinSections.bytes) = .ok TwinSections.image ∧
      Elf.File.read? TwinSections.bytes = some TwinSections.file ∧
      TwinSections.file.functionNamed? "g" = some entry ∧ 0 < entry.size ∧
      TwinSections.file.sections[entry.sectionIndex]? = some own ∧ own.isCode TwinSections.bytes.size ∧
      (TwinSections.file.region own).Encloses (TwinSections.image.codeAddress entry.value)
        (TwinSections.image.codeAddress entry.value + entry.size) ∧
      TwinSections.image.code entry.value entry.size = .ok (.ofList [0x90, 0xc3]) ∧
      own.bytesAt TwinSections.bytes (TwinSections.image.codeAddress entry.value) entry.size = .ofList [0x55, 0xc3] ∧
      TwinSections.image.code entry.value entry.size ≠
        .ok (own.bytesAt TwinSections.bytes (TwinSections.image.codeAddress entry.value) entry.size) := by
  have around : TwinSections.file.sectionAround? TwinSections.bytes.size 0 2 =
      some ⟨5, Section.programBits, 6, 0, 64, 2, 0, 0, 1, 0⟩ := by
    rw [TwinSections.size_bytes]
    rfl
  have first : Section.bytesAt ⟨5, Section.programBits, 6, 0, 64, 2, 0, 0, 1, 0⟩ TwinSections.bytes 0 2 =
      .ofList [0x90, 0xc3] := by
    rw [Section.bytesAt]
    exact Bytes.part_of_standsAt TwinSections.stands.2.1 rfl
  have read : TwinSections.image.code 0 2 = .ok (.ofList [0x90, 0xc3]) := by
    rw [← TwinSections.codeAddress_image 0] at around first
    rw [← first]
    exact code_of_sectionAround? TwinSections.load_bytes rfl TwinSections.read?_bytes around
  have own : Section.bytesAt ⟨8, Section.programBits, 6, 0, 66, 2, 0, 0, 1, 0⟩ TwinSections.bytes 0 2 =
      .ofList [0x55, 0xc3] := by
    rw [Section.bytesAt]
    exact Bytes.part_of_standsAt TwinSections.stands.2.2.1 rfl
  refine ⟨_, _, TwinSections.load_bytes, TwinSections.read?_bytes, functionNamed?_twinSections.2, by decide, rfl, ?_,
    by decide, read, own, ?_⟩
  · rw [TwinSections.size_bytes]
    decide
  · rw [TwinSections.codeAddress_image, own, read]
    intro same
    have views := congrArg Bytes.view (Except.ok.inj same)
    rw [Bytes.view_ofList, Bytes.view_ofList] at views
    cases views

end Image

end ObjectLens

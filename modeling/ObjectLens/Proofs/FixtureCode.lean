import ObjectLens.Proofs.CodeRanges
import ObjectLens.Proofs.FixtureStubs

/-! The code of a fixture. Its regions are the code itself and the tables of stubs, each mapped where it is stored, and
the bytes of a range of code are those of the description. -/

namespace ObjectLens

open Elf
open Bytes (ofList)

namespace Fixture

variable {fixture : Fixture} {bytes : Bytes}

/-- A region that is mapped where it is stored. -/
def mappedRegion (name : String) (start size : Nat) : Region := ⟨name, start, start + size, start⟩

def codeRegions (fixture : Fixture) : List Region :=
  [mappedRegion ".text" 0x1000 0x40, mappedRegion ".plt" 0x1ff0 (16 + 16 * fixture.imports.length)] ++
    (if fixture.landingPads && !fixture.imports.isEmpty then
      [mappedRegion ".plt.sec" 0x2400 (16 * fixture.imports.length)]
    else []) ++
    (if fixture.gotImports.isEmpty then []
    else [mappedRegion ".plt.got" 0x2800 (pltGotEntrySize fixture.landingPads * fixture.gotImports.length)])

/-- The code with breakpoints behind it, up to the size of its section. -/
def paddedText (fixture : Fixture) : List UInt8 :=
  fixture.text ++ List.replicate (0x40 - fixture.text.length) 0xcc

/-! ### Regions -/

def listedRegion (listed : String × Section) : Region :=
  ⟨listed.1, listed.2.address, Word.addCapped listed.2.address listed.2.size, listed.2.offset⟩

/-- The regions of code are those of the listed sections that hold code, under the names that they are listed with. -/
private theorem sectionRegions_file (fixture : Fixture) (fileSize : Nat) : fixture.file.sectionRegions fileSize =
    (fixture.listedSections.filter (·.2.isCode fileSize)).map listedRegion := by
  have named : ∀ listed ∈ fixture.listedSections.zipIdx,
      fixture.file.region (fixture.headerOf listed.2 listed.1.2) = listedRegion listed.1 := by
    rintro ⟨⟨name, found⟩, index⟩ member
    have listed := List.mem_zipIdx_iff_getElem?.mp member
    rw [File.region, sectionName_headerOf rfl listed]
    rfl
  have front : nullHeader.isCode fileSize = false := rfl
  rw [File.sectionRegions, show fixture.file.sections = fixture.sectionHeaders from rfl, sectionHeaders_eq,
    List.filter_cons_of_neg (by simp [front]), List.filter_map, List.map_map]
  calc
    _ = (fixture.listedSections.zipIdx.filter ((·.2.isCode fileSize) ∘ Prod.fst)).map (listedRegion ∘ Prod.fst) :=
      List.map_congr_left fun listed member => named listed (List.mem_filter.mp member).1
    _ = ((fixture.listedSections.zipIdx.map Prod.fst).filter (·.2.isCode fileSize)).map listedRegion := by
      rw [List.filter_map, List.map_map]
    _ = _ := by
      rw [List.zipIdx_map_fst]

private theorem isCode_mappedSection (made : fixture.Built bytes) {block : Block} (present : block ∈ fixture.blocks)
    (some : 0 < block.content.length) (alignment entrySize : Nat) :
    (mappedSection block Section.programBits 6 0 0 alignment entrySize).isCode bytes.size = true := by
  have inside : block.offset + block.content.length ≤ bytes.size := made.stop_le_size present
  have executable : Nat.testBit 6 2 = true := by decide
  simp [Section.isCode, Section.isExecutable, mappedSection, Section.programBits, Section.noBits, some, inside,
    executable]

private theorem listedRegion_mappedSection (made : fixture.Built bytes) {block : Block}
    (present : block ∈ fixture.blocks) (name : String) (kind flags link info alignment entrySize : Nat) :
    listedRegion (name, mappedSection block kind flags link info alignment entrySize) =
      mappedRegion name block.offset block.content.length := by
  have word : block.offset + block.content.length < Word.limit := made.stop_lt_limit present
  have stop : Word.addCapped block.offset block.content.length = block.offset + block.content.length :=
    Word.addCapped_of_lt word
  simp only [listedRegion, mappedSection, stop, mappedRegion]

private theorem isCode_of_plain {block : Block} {kind flags link info alignment entrySize : Nat}
    (plain : flags.testBit 2 = false) (fileSize : Nat) :
    (mappedSection block kind flags link info alignment entrySize).isCode fileSize = false := by
  simp [Section.isCode, Section.isExecutable, mappedSection, plain]

private theorem isCode_looseSection (block : Block) (kind link info alignment entrySize fileSize : Nat) :
    (looseSection block kind link info alignment entrySize).isCode fileSize = false := by
  simp [Section.isCode, Section.isExecutable, looseSection]

private theorem length_textBlock (fits : fixture.TextFits) : fixture.textBlock.content.length = 0x40 := by
  have stop := stop_textBlock fits
  simp only [Block.stop, textBlock, textAddress, textSize] at stop ⊢
  omega

private theorem codeOf_fixedSections (made : fixture.Built bytes) :
    (fixture.fixedSections.filter (·.2.isCode bytes.size)).map listedRegion =
      [mappedRegion ".text" 0x1000 0x40, mappedRegion ".plt" 0x1ff0 (16 + 16 * fixture.imports.length)] := by
  have text : fixture.textBlock ∈ fixture.blocks := by simp [blocks, bodyBlocks]
  have plt : fixture.pltBlock ∈ fixture.blocks := by simp [blocks, bodyBlocks, stubBlocks]
  have textLength := length_textBlock made.textFits
  have pltLength := fixture.length_pltBlock
  have textCode := isCode_mappedSection made text (by omega) 16 0
  have pltCode := isCode_mappedSection made plt (by omega) 16 16
  have readable : Nat.testBit 2 2 = false := by decide
  have linked : Nat.testBit 0x42 2 = false := by decide
  have writable : Nat.testBit 3 2 = false := by decide
  simp only [fixedSections, List.filter_cons, List.filter_nil, isCode_of_plain readable, isCode_of_plain linked,
    isCode_of_plain writable, textCode, pltCode, Bool.false_eq_true, ite_false, ite_true, List.map_cons, List.map_nil,
    listedRegion_mappedSection made text, listedRegion_mappedSection made plt, textLength, pltLength]
  rfl

private theorem codeOf_stubSections (made : fixture.Built bytes) :
    (fixture.stubSections.filter (·.2.isCode bytes.size)).map listedRegion =
      (if fixture.landingPads && !fixture.imports.isEmpty then
        [mappedRegion ".plt.sec" 0x2400 (16 * fixture.imports.length)]
      else []) ++
      (if fixture.gotImports.isEmpty then []
      else [mappedRegion ".plt.got" 0x2800 (pltGotEntrySize fixture.landingPads * fixture.gotImports.length)]) := by
  have relocations : (if fixture.gotImports.isEmpty then [] else [(".rela.dyn", mappedSection
      fixture.gotRelocationBlock Section.relocationsWithAddends 2 1 0 8 24)]).filter (·.2.isCode bytes.size) = [] := by
    split
    · rfl
    · exact List.filter_cons_of_neg (by simp [isCode_of_plain (show Nat.testBit 2 2 = false by decide)])
  rw [stubSections, List.filter_append, List.filter_append, relocations, List.nil_append, List.map_append]
  congr 1
  · split
    next separate =>
      have pads := (Bool.and_eq_true_iff.mp separate).1
      have present : fixture.pltSecBlock ∈ fixture.blocks := by simp [blocks, bodyBlocks, stubBlocks, pads]
      have length := length_pltSecBlock pads
      have some : 0 < fixture.imports.length := by
        simpa [List.length_pos_iff] using (Bool.and_eq_true_iff.mp separate).2
      have code := isCode_mappedSection made present (by omega) 16 16
      simp only [List.filter_cons, List.filter_nil, code, ite_true, List.map_cons, List.map_nil,
        listedRegion_mappedSection made present, length]
      rfl
    next => rfl
  · split
    next => rfl
    next some =>
      have present : fixture.pltGotBlock ∈ fixture.blocks := by simp [blocks, bodyBlocks, stubBlocks, some]
      have length := fixture.length_pltGotBlock
      have positive : 0 < pltGotEntrySize fixture.landingPads * fixture.gotImports.length := by
        refine Nat.mul_pos ?_ (by simpa [List.length_pos_iff] using some)
        cases fixture.landingPads <;> decide
      have code := isCode_mappedSection made present (by omega) 8 (pltGotEntrySize fixture.landingPads)
      simp only [List.filter_cons, List.filter_nil, code, ite_true, List.map_cons, List.map_nil,
        listedRegion_mappedSection made present, length]
      rfl

theorem regions_file (made : fixture.Built bytes) : fixture.file.regions bytes.size = fixture.codeRegions := by
  have loose : ((if fixture.stripped then [] else
      [(".symtab", looseSection fixture.symbolBlock Section.symbolTable
        ((fixture.fixedSections ++ fixture.stubSections).length + 2) 1 8 24),
      (".strtab", looseSection fixture.symbolNameBlock Section.stringTable 0 0 1 0)]) ++
      [(".shstrtab", looseSection fixture.sectionNameBlock Section.stringTable 0 0 1 0)]).filter
        (·.2.isCode bytes.size) = [] := by
    cases fixture.stripped <;> simp [isCode_looseSection]
  have sections : fixture.file.sectionRegions bytes.size = fixture.codeRegions := by
    rw [sectionRegions_file, listedSections, namedSections, List.append_assoc, List.filter_append, loose,
      List.append_nil, List.filter_append, List.map_append, codeOf_fixedSections made, codeOf_stubSections made,
      codeRegions, List.append_assoc]
  rw [File.regions, sections]
  rfl

/-! ### Bytes -/

private theorem length_paddedText (fits : fixture.TextFits) : fixture.paddedText.length = 0x40 := length_textBlock fits

private theorem arch?_file_ne_arm (machine : fixture.machine ≠ 40) : fixture.file.arch? ≠ some .arm := by
  intro known
  simp only [File.arch?, show fixture.file.machine = fixture.machine from rfl,
    show fixture.file.encoding.wide = true from rfl, ite_true] at known
  split at known <;> contradiction

/-- The image that the file of a fixture is opened as. -/
def opened (fixture : Fixture) (config : Config) (bytes : Bytes) : Image :=
  .ofContents config bytes (fixture.file.contents bytes)

theorem regions_opened (made : fixture.Built bytes) (config : Config) :
    (fixture.opened config bytes).regions = fixture.codeRegions := regions_file made

/-- The bytes of a range of code are those of the description, wherever the address of the range leads to. -/
theorem code_text (made : fixture.Built bytes) {config : Config} {address start size : Nat}
    (place : (fixture.opened config bytes).codeAddress address = start) (some : 0 < size) (front : 0x1000 ≤ start)
    (back : start + size ≤ 0x1040) :
    (fixture.opened config bytes).code address size =
      .ok (ofList ((fixture.paddedText.drop (start - 0x1000)).take size)) := by
  have first : (fixture.opened config bytes).regionOf? address size =
      Option.some (mappedRegion ".text" 0x1000 0x40) := by
    rw [Image.regionOf?, regions_opened made, codeRegions, place]
    refine List.find?_cons_of_pos ?_
    have encloses : (mappedRegion ".text" 0x1000 0x40).Encloses start (start + size) :=
      ⟨front, back, Nat.lt_add_of_pos_right some⟩
    exact decide_eq_true encloses
  have word : start + size < Word.limit := Nat.lt_of_le_of_lt back (by decide)
  have length := length_paddedText made.textFits
  have stands : StandsAt bytes.view 0x1000 fixture.paddedText :=
    made.standsAt (show fixture.textBlock ∈ fixture.blocks by simp [blocks, bodyBlocks])
  have part := stands.slice (show start - 0x1000 ≤ fixture.paddedText.length by omega) size
  have count : ((fixture.paddedText.drop (start - 0x1000)).take size).length = size := by
    rw [List.length_take, List.length_drop]
    omega
  refine Image.code_eq_ok_iff.mpr ⟨by rw [place]; exact word, _, first, ?_⟩
  rw [place]
  exact Bytes.part?_of_standsAt part count

/-- Where the code is not for ARM, its bytes are found at their addresses. -/
theorem codeBytes_text (made : fixture.Built bytes) {config : Config} (machine : fixture.machine ≠ 40)
    (override : config.arch ≠ some .arm) {address size : Nat} (some : 0 < size) (front : 0x1000 ≤ address)
    (back : address + size ≤ 0x1040) :
    (Image.ofContents config bytes (fixture.file.contents bytes)).codeBytes address size =
      .ok (ofList ((fixture.paddedText.drop (address - 0x1000)).take size)) := by
  have arch : (Image.ofContents config bytes (fixture.file.contents bytes)).arch ≠ Option.some .arm := by
    show config.arch.or fixture.file.arch? ≠ _
    cases given : config.arch with
    | none => exact arch?_file_ne_arm machine
    | some arch => simpa [given] using override
  exact Image.codeBytes_of_ok (code_text made (Image.codeAddress_of_arch arch address) some front back)

end Fixture

end ObjectLens

import ObjectLens.Proofs.CodeRegions
import ObjectLens.Proofs.FixtureRoundTrip
import ObjectLens.Proofs.FunctionBodies

/-! Where the body of a resolved function comes from. A body is a slice of the file: it lies in the first region that
holds all of it, as far behind the place of the region in the file as it starts behind the start of the region. -/

namespace ObjectLens

namespace Image

open Instruction (Disassembler Encoding BackToBack)

variable {image : Image} {disassembler : Disassembler} {symbol : Symbol} {bytes : Bytes}

/-- The bytes of a symbol in a file. On 32-bit ARM an odd address is that of Thumb code one byte below. -/
structure StoredBody (image : Image) (bytes : Bytes) (symbol : Symbol) (start : Nat) (region : Region)
    (body : List UInt8) : Prop where
  starts : start = if image.arch = some .arm ∧ symbol.address % 2 = 1 then symbol.address - 1 else symbol.address
  first : image.regions.find? (fun region => region.start ≤ start ∧ start + symbol.size ≤ region.stop) = some region
  slice : body = (bytes.view.drop (region.fileOffset + (start - region.start))).take symbol.size
  complete : body.length = symbol.size

theorem StoredBody.unique {first second : Nat} {around other : Region} {found again : List UInt8}
    (here : image.StoredBody bytes symbol first around found)
    (there : image.StoredBody bytes symbol second other again) : second = first ∧ other = around ∧ again = found := by
  obtain rfl : second = first := there.starts.trans here.starts.symm
  obtain rfl : other = around := Option.some.inj (there.first.symm.trans here.first)
  exact ⟨rfl, rfl, there.slice.trans here.slice.symm⟩

private theorem codeAddress_eq (image : Image) (address : Nat) : image.codeAddress address =
    if image.arch = some .arm ∧ address % 2 = 1 then address - 1 else address := by
  simp only [codeAddress, isThumb, decide_eq_true_eq]

private theorem regionOf?_eq (body : symbol.size ≠ 0) (starts : start = image.codeAddress symbol.address) :
    image.regionOf? symbol.address symbol.size =
      image.regions.find? (fun region => region.start ≤ start ∧ start + symbol.size ≤ region.stop) := by
  rw [regionOf?, ← starts]
  congr 1
  funext region
  have proper : start < start + symbol.size := by omega
  simp [Region.Encloses, proper]

/-- In an opened image the code of a symbol is its stored body. -/
private theorem code_iff_storedBody {format : Option Format} {config : Config}
    (opened : load format config (.regular bytes) = .ok image) (body : symbol.size ≠ 0) {code : Bytes} :
    image.code symbol.address symbol.size = .ok code ↔
      ∃ region, image.StoredBody bytes symbol (image.codeAddress symbol.address) region code.view := by
  rw [code_eq_ok_iff, regionOf?_eq body rfl, load_bytes opened]
  constructor
  · rintro ⟨_, region, first, part⟩
    refine ⟨region, image.codeAddress_eq _, first, ?_, ?_⟩
    · rw [← (Bytes.part?_eq_some_iff.mp part).2, Bytes.view_part]
      rfl
    · rw [Bytes.length_view, Bytes.size_of_part? part]
  · rintro ⟨region, stored⟩
    have inside := List.find?_some stored.first
    have last := load_stop_le_last opened region (List.mem_of_find?_eq_some stored.first)
    have held := congrArg List.length stored.slice
    simp only [decide_eq_true_eq] at inside
    rw [stored.complete, List.length_take, List.length_drop, Bytes.length_view] at held
    refine ⟨?_, region, stored.first, Bytes.part?_eq_some_iff.mpr ⟨?_, ?_⟩⟩
    · simp only [Word.last, Word.limit] at last ⊢
      omega
    · simp only [Region.offsetOf]
      omega
    · apply Bytes.ext_view
      rw [Bytes.view_part]
      exact stored.slice.symm

/-- A name of an opened image is resolved to its first symbol. A symbol of size zero has no body. Any other one has
its stored body, and instructions that make up this body one after the other from its start on. If the disassembler
leaves a rest of the body over, the answer is an error at the address of the rest. -/
theorem resolve_reads_first_symbol {format : Option Format} {config : Config}
    (opened : load format config (.regular bytes) = .ok image) (disassembler : Disassembler) (name : String) :
    (∀ found, image.resolveBy disassembler name = .ok found →
      ∃ symbol, image.symbols.entries.find? (·.name == name) = some symbol ∧
        found.name = name ∧ found.address = symbol.address ∧ found.size = symbol.size ∧
        (symbol.size = 0 → found.bytes = [] ∧ found.instructions = []) ∧
        (symbol.size ≠ 0 → ∃ start region, image.StoredBody bytes symbol start region found.bytes ∧
          found.instructions ≠ [] ∧ BackToBack start found.instructions ∧
          found.instructions.flatMap (·.bytes) = found.bytes)) ∧
    (∀ symbol start region body arch listed rest, image.symbols.entries.find? (·.name == name) = some symbol →
      symbol.size ≠ 0 → image.StoredBody bytes symbol start region body → image.arch = some arch →
      listed = disassembler.list (.ofArch arch (arch = .arm ∧ symbol.address % 2 = 1)) image.dialect start body →
      listed.flatMap (·.bytes) ++ rest = body →
      (rest = [] → ∃ found, image.resolveBy disassembler name = .ok found ∧ found.instructions = listed) ∧
      (rest ≠ [] → image.resolveBy disassembler name =
        .error (.badCode symbol.address symbol.size (.undecodable
          (start + (listed.flatMap (·.bytes)).length) (listed.flatMap (·.bytes)).length symbol.size)))) := by
  constructor
  · intro found resolved
    cases first : image.symbols.named? name with
    | none =>
      rw [resolveBy_of_unnamed first] at resolved
      cases resolved
    | some symbol =>
      rw [resolveBy_of_named first] at resolved
      rw [named?_of_load opened] at first
      have named : symbol.name = name := by simpa using List.find?_some first
      refine ⟨symbol, first, ?_⟩
      by_cases empty : symbol.size = 0
      · rw [function_of_size_zero empty] at resolved
        cases resolved
        exact ⟨named, rfl, empty.symm, fun _ => ⟨rfl, rfl⟩, fun body => absurd empty body⟩
      · obtain ⟨code, arch, bytesRead, _, all, rfl⟩ := (function_eq_ok_iff empty).mp resolved
        obtain ⟨region, stored⟩ := (code_iff_storedBody opened empty).mp bytesRead
        refine ⟨named, rfl, rfl, fun zero => absurd zero empty, fun _ => ⟨_, region, stored, ?_, ?_, all⟩⟩
        · intro nothing
          have unlisted : image.listing disassembler arch symbol.address code = [] := nothing
          have complete := stored.complete
          rw [← all, unlisted] at complete
          exact empty complete.symm
        · exact backToBack_listing bytesRead
  · intro symbol start region body arch listed rest first proper stored known lists left
    obtain rfl : start = image.codeAddress symbol.address := stored.starts.trans (image.codeAddress_eq _).symm
    have bytesRead : image.code symbol.address symbol.size = .ok (.ofList body) := by
      refine (code_iff_storedBody opened proper).mpr ⟨region, ?_⟩
      rw [Bytes.view_ofList]
      exact stored
    have listing : image.listing disassembler arch symbol.address (.ofList body) = listed := by
      rw [lists, Image.listing, isThumb, known, Bytes.view_ofList]
      simp only [Option.some.injEq]
    rw [← named?_of_load opened] at first
    rw [resolveBy_of_named first]
    constructor
    · rintro rfl
      refine ⟨_, (function_eq_ok_iff proper).mpr ⟨_, arch, bytesRead, known, ?_, rfl⟩, listing⟩
      rw [listing, Bytes.view_ofList, ← left, List.append_nil]
    · intro nonempty
      rw [← listing, Instruction.length_flatMap_bytes]
      refine function_of_rest proper bytesRead known nonempty ?_
      rw [listing, Bytes.view_ofList]
      exact left

end Image

/-! A fixture for 32-bit ARM with two Thumb functions in the middle of its code. One returns at once. The other one ends
in the middle of an instruction. -/

namespace ThumbBodies

open Fixture

def fixture : Fixture where
  machine := 40
  text := List.replicate 32 0 ++ [0x70, 0x47, 0x70, 0x47, 0x00, 0xf0]
  symbols := [⟨"whole", 0x1021, 2, .function, false⟩, ⟨"torn", 0x1023, 4, .function, false⟩]

def bytes : Bytes := .ofList (Block.assemble fixture.blocks)

def image : Image := fixture.opened {} bytes

private theorem built_fixture : fixture.Built bytes :=
  built_of_lengths (by decide) (by decide) (by decide) (by decide)

private theorem load_bytes : Image.load none {} (.regular bytes) = .ok image :=
  load_of_build built_fixture (by decide) {} (.inl rfl)

private theorem regions_image :
    image.regions = [⟨".text", 0x1000, 0x1040, 0x1000⟩, ⟨".plt", 0x1ff0, 0x2000, 0x1ff0⟩] := by
  rw [image, regions_opened built_fixture]
  decide

private theorem entries_image : image.symbols.entries = [⟨"whole", 0x1021, 2⟩, ⟨"torn", 0x1023, 4⟩] := by
  have reach : fixture.NamesReachable := namesReachable_of_length (by decide)
  rw [image, entries_opened ⟨by decide, by decide⟩ rfl (by decide) reach]
  decide

/-- A Thumb function in the code has its body there, one byte below its address. -/
private theorem storedBody_image (symbol : Symbol) (start : Nat) (odd : symbol.address = start + 1)
    (even : start % 2 = 0) (front : 0x1000 ≤ start) (back : start + symbol.size ≤ 0x1040) :
    image.StoredBody bytes symbol start ⟨".text", 0x1000, 0x1040, 0x1000⟩
      ((fixture.paddedText.drop (start - 0x1000)).take symbol.size) := by
  have length : fixture.paddedText.length = 0x40 := by decide
  have text : StandsAt bytes.view 0x1000 fixture.paddedText :=
    built_fixture.standsAt (show fixture.textBlock ∈ fixture.blocks by simp [blocks, bodyBlocks])
  have body := text.slice (show start - 0x1000 ≤ fixture.paddedText.length by omega) symbol.size
  have complete : ((fixture.paddedText.drop (start - 0x1000)).take symbol.size).length = symbol.size := by
    rw [List.length_take, List.length_drop]
    omega
  refine ⟨?_, ?_, ?_, complete⟩
  · rw [if_pos ⟨rfl, by omega⟩]
    omega
  · rw [regions_image]
    exact List.find?_cons_of_pos (decide_eq_true ⟨front, back⟩)
  · have slice := body.take_drop
    rw [complete] at slice
    exact slice.symm

end ThumbBodies

namespace Image

/-- The function that returns has its two bytes from inside of the code. The torn one fails at its second
instruction. -/
theorem resolve_thumbBodies : load none {} (.regular ThumbBodies.bytes) = .ok ThumbBodies.image ∧
    (∃ found, ThumbBodies.image.resolveBy .tables "whole" = .ok found ∧ found.address = 0x1021 ∧
      found.bytes = [0x70, 0x47] ∧ found.instructions = [⟨0x1020, [0x70, 0x47], "bx", "lr"⟩] ∧
      Instruction.BackToBack 0x1020 found.instructions ∧ found.instructions.flatMap (·.bytes) = found.bytes) ∧
    ThumbBodies.image.resolveBy .tables "torn" = .error (.badCode 0x1023 4 (.undecodable 0x1024 2 4)) := by
  have whole : ThumbBodies.image.symbols.entries.find? (·.name == "whole") = some ⟨"whole", 0x1021, 2⟩ := by
    rw [ThumbBodies.entries_image]
    decide
  have torn : ThumbBodies.image.symbols.entries.find? (·.name == "torn") = some ⟨"torn", 0x1023, 4⟩ := by
    rw [ThumbBodies.entries_image]
    decide
  obtain ⟨results, answers⟩ := resolve_reads_first_symbol ThumbBodies.load_bytes .tables "whole"
  obtain ⟨_, failures⟩ := resolve_reads_first_symbol ThumbBodies.load_bytes .tables "torn"
  refine ⟨ThumbBodies.load_bytes, ?_, ?_⟩
  · have stored := ThumbBodies.storedBody_image ⟨"whole", 0x1021, 2⟩ 0x1020 rfl rfl (by decide) (by decide)
    obtain ⟨found, resolved, listed⟩ := (answers _ _ _ _ .arm [⟨0x1020, [0x70, 0x47], "bx", "lr"⟩] [] whole
      (by decide) stored rfl (by decide +kernel) (by decide)).1 rfl
    obtain ⟨_, again, _, address, _, _, body⟩ := results found resolved
    rw [whole] at again
    cases again
    obtain ⟨start, region, here, _, together, all⟩ := body (by decide)
    obtain ⟨rfl, rfl, bytes⟩ := stored.unique here
    exact ⟨found, resolved, address, bytes, listed, together, all⟩
  · have stored := ThumbBodies.storedBody_image ⟨"torn", 0x1023, 4⟩ 0x1022 rfl rfl (by decide) (by decide)
    exact (failures _ _ _ _ .arm [⟨0x1022, [0x70, 0x47], "bx", "lr"⟩] [0x00, 0xf0] torn
      (by decide) stored rfl (by decide +kernel) (by decide)).2 (by decide)

end Image

end ObjectLens

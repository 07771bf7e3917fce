import ObjectLens.Proofs.CodeRegions
import ObjectLens.Proofs.FixtureRoundTrip
import ObjectLens.Proofs.FunctionBodies

/-! The ranges that resolved functions tell. A function keeps the address that its symbol records, and its end is
counted from there. The range that is looked up in the regions starts at the function's code address, which for Thumb
functions is one below. -/

namespace ObjectLens

namespace Image

open Instruction (Disassembler)

variable {format : Option Format} {config : Config} {bytes : Bytes} {image : Image} {disassembler : Disassembler}
  {name : String} {found : Function}

/-- A function with a body was found with bytes, and so there is a region around its code. -/
theorem region_of_resolveBy (resolved : image.resolveBy disassembler name = .ok found) (body : 0 < found.size) :
    ∃ region ∈ image.regions,
      region.Encloses (image.codeAddress found.address) (image.codeAddress found.address + found.size) := by
  cases first : image.symbols.named? name with
  | none =>
    rw [resolveBy_of_unnamed first] at resolved
    cases resolved
  | some symbol =>
    rw [resolveBy_of_named first] at resolved
    by_cases empty : symbol.size = 0
    · rw [function_of_size_zero empty] at resolved
      cases resolved
      cases body
    · obtain ⟨code, arch, bytesRead, _, _, rfl⟩ := (function_eq_ok_iff empty).mp resolved
      obtain ⟨_, region, enclosing, _⟩ := code_eq_ok_iff.mp bytesRead
      exact ⟨region, regionOf?_mem enclosing, regionOf?_encloses enclosing⟩

/-- The code of a resolved function is inside of a region. The range that the function tells is so as well unless it is
Thumb code, and then exactly if a region reaches one byte further than the code, or if the code ends with the last
address, where the end of the range is capped. -/
theorem resolved_range_in_region_iff (opened : load format config (.regular bytes) = .ok image)
    (resolved : image.resolveBy disassembler name = .ok found) (body : 0 < found.size) :
    (∃ region ∈ image.regions,
      region.Encloses (image.codeAddress found.address) (image.codeAddress found.address + found.size)) ∧
    ((∃ region ∈ image.regions, region.Encloses found.address found.stop) ↔
      image.isThumb found.address = false ∨
      (∃ region ∈ image.regions, region.start ≤ found.address ∧
        image.codeAddress found.address + found.size < region.stop) ∨
      (image.codeAddress found.address + found.size = Word.last ∧ 1 < found.size)) := by
  obtain ⟨holder, held, lower, upper, _⟩ := region_of_resolveBy resolved body
  refine ⟨⟨holder, held, lower, upper, by omega⟩, ?_⟩
  have last := load_stop_le_last opened
  have below := last holder held
  have capped : found.stop = min (found.address + found.size) Word.last := rfl
  cases thumb : image.isThumb found.address with
  | false =>
    have place := codeAddress_of_plain thumb
    refine iff_of_true ⟨holder, held, ?_, ?_, ?_⟩ (.inl rfl)
    all_goals omega
  | true =>
    have place := codeAddress_of_thumb thumb
    constructor
    · rintro ⟨region, member, front, back, proper⟩
      have reach := last region member
      -- Below the last address nothing is capped, and the range ends one byte behind its code.
      by_cases far : image.codeAddress found.address + found.size = Word.last
      · exact .inr (.inr ⟨far, by omega⟩)
      · exact .inr (.inl ⟨region, member, front, by omega⟩)
    · rintro (plain | ⟨region, member, front, back⟩ | ⟨far, long⟩)
      · cases plain
      · have reach := last region member
        exact ⟨region, member, front, by omega, by omega⟩
      · exact ⟨holder, held, by omega, by omega, by omega⟩

end Image

/-! A fixture for 32-bit ARM with two Thumb functions of two bytes, which return at once. One is the first thing in its
section, the other one is the last. -/

namespace ThumbEdges

open Bytes (ofList)
open Fixture
open Instruction (Disassembler Encoding)

def fixture : Fixture where
  machine := 40
  text := [0x70, 0x47] ++ List.replicate 60 0 ++ [0x70, 0x47]
  symbols := [⟨"first", 0x1001, 2, .function, false⟩, ⟨"last", 0x103f, 2, .function, false⟩]

def bytes : Bytes := .ofList (Block.assemble fixture.blocks)

def image : Image := fixture.opened {} bytes

private theorem built_fixture : fixture.Built bytes :=
  built_of_lengths (by decide) (by decide) (by decide) (by decide)

private theorem load_bytes : Image.load none {} (.regular bytes) = .ok image :=
  load_of_build built_fixture (by decide) {} (.inl rfl)

private theorem arch_image : image.arch = some .arm := rfl

private theorem regions_image :
    image.regions = [⟨".text", 0x1000, 0x1040, 0x1000⟩, ⟨".plt", 0x1ff0, 0x2000, 0x1ff0⟩] := by
  rw [image, regions_opened built_fixture]
  decide

private theorem entries_image : image.symbols.entries = [⟨"first", 0x1001, 2⟩, ⟨"last", 0x103f, 2⟩] := by
  have reach : fixture.NamesReachable := namesReachable_of_length (by decide)
  rw [image, entries_opened ⟨by decide, by decide⟩ rfl (by decide) reach]
  decide

private theorem isThumb_image {start : Nat} (even : start % 2 = 0) : image.isThumb (start + 1) = true :=
  decide_eq_true ⟨arch_image, by omega⟩

private theorem codeAddress_image {start : Nat} (even : start % 2 = 0) : image.codeAddress (start + 1) = start :=
  Nat.succ.inj (Image.codeAddress_of_thumb (isThumb_image even))

/-- Both functions have `bx lr` as their body, and keep their odd address. -/
private theorem resolve_image {name : String} {start : Nat} (even : start % 2 = 0)
    (named : image.symbols.entries.find? (·.name == name) = some ⟨name, start + 1, 2⟩) (front : 0x1000 ≤ start)
    (back : start + 2 ≤ 0x1040) (stored : (fixture.paddedText.drop (start - 0x1000)).take 2 = [0x70, 0x47])
    (all : (Disassembler.tables.list (Encoding.ofArch .arm true) .intel start [0x70, 0x47]).flatMap (·.bytes) =
      [0x70, 0x47]) :
    ∃ found, image.resolveBy .tables name = .ok found ∧ found.address = start + 1 ∧ found.size = 2 := by
  have bytesRead : image.code (start + 1) 2 = .ok (ofList [0x70, 0x47]) := by
    rw [← stored]
    exact code_text built_fixture (codeAddress_image even) (by decide) front back
  have whole : (image.listing .tables .arm (start + 1) (ofList [0x70, 0x47])).flatMap (·.bytes) = [0x70, 0x47] := by
    rw [Image.listing, isThumb_image even, codeAddress_image even, Bytes.view_ofList]
    exact all
  rw [Image.resolveBy_of_named ((Image.named?_of_load load_bytes name).trans named)]
  refine ⟨_, (Image.function_eq_ok_iff (Nat.succ_ne_zero 1)).mpr ⟨_, .arm, bytesRead, arch_image, ?_, rfl⟩, rfl, rfl⟩
  rw [Bytes.view_ofList]
  exact whole

end ThumbEdges

namespace Image

/-- The range of the first function is inside of its section, since the section goes on behind it. -/
theorem range_of_first_thumbEdge : load none {} (.regular ThumbEdges.bytes) = .ok ThumbEdges.image ∧
    ∃ found, ThumbEdges.image.resolveBy .tables "first" = .ok found ∧ 0 < found.size ∧
      found.address = 0x1001 ∧ ∃ region ∈ ThumbEdges.image.regions, region.Encloses found.address found.stop := by
  have named : ThumbEdges.image.symbols.entries.find? (·.name == "first") = some ⟨"first", 0x1001, 2⟩ := by
    rw [ThumbEdges.entries_image]
    decide
  obtain ⟨found, resolved, address, size⟩ := ThumbEdges.resolve_image rfl named (by decide) (by decide) rfl
    (by decide +kernel)
  have body : 0 < found.size := by omega
  obtain ⟨⟨region, member, enclosed⟩, inside⟩ := resolved_range_in_region_iff ThumbEdges.load_bytes resolved body
  refine ⟨ThumbEdges.load_bytes, found, resolved, body, address, inside.mpr (.inr (.inl ?_))⟩
  refine ⟨⟨".text", 0x1000, 0x1040, 0x1000⟩, ?_, ?_, ?_⟩
  · rw [ThumbEdges.regions_image]
    exact List.mem_cons_self ..
  · rw [address]
    decide
  · rw [address, size, ThumbEdges.codeAddress_image rfl]
    decide

/-- The range of the last function starts one byte behind its code, and so it ends one byte behind its section. -/
theorem range_of_last_thumbEdge : load none {} (.regular ThumbEdges.bytes) = .ok ThumbEdges.image ∧
    ∃ found, ThumbEdges.image.resolveBy .tables "last" = .ok found ∧ found.address = 0x103f ∧ found.size = 2 ∧
      found.stop = 0x1041 ∧ ∀ region ∈ ThumbEdges.image.regions, ¬ region.Encloses found.address found.stop := by
  have named : ThumbEdges.image.symbols.entries.find? (·.name == "last") = some ⟨"last", 0x103f, 2⟩ := by
    rw [ThumbEdges.entries_image]
    decide
  obtain ⟨found, resolved, address, size⟩ := ThumbEdges.resolve_image rfl named (by decide) (by decide) rfl
    (by decide +kernel)
  have stop : found.stop = 0x1041 := by
    rw [Function.stop, address, size]
    rfl
  refine ⟨ThumbEdges.load_bytes, found, resolved, address, size, stop, ?_⟩
  rw [ThumbEdges.regions_image, address, stop]
  decide

end Image

end ObjectLens

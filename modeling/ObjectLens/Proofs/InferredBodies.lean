import ObjectLens.Proofs.FormatDetection
import ObjectLens.Proofs.FunctionBodies
import ObjectLens.Proofs.InferredSizes
import ObjectLens.Proofs.MachOReading

/-! Code of functions whose sizes are inferred. A function is as long as the region that it starts in lets it be, so
this region is the first one around its code, and asking for the code cannot fail. -/

namespace ObjectLens

/-! A Mach-O file with two sections of code, one right after the other. Both of its symbols belong to the first section;
the second symbol marks the end of that section, which is where the other section starts. -/

namespace AdjacentSections

open MachO

/-- The header of a section of two bytes that holds instructions. -/
def storedSection (name : List UInt8) (address offset : Nat) : List UInt8 :=
  paddedName name ++ paddedName [] ++ words [address, 2, offset, 0, 0, 0, 0x80000400, 0, 0]

/-- An entry for a symbol that is defined in the first section. -/
def storedEntry (name address : Nat) : List UInt8 := words [name, 0x010e, address]

/-- The file. Its code is `nop` and `ret` in the section `__a`, `push ebp` and `ret` in the section `__b`, and its
symbols are `_f` and `_e`. -/
def bytes : Bytes :=
  ⟨⟨words [0xfeedface, 7, 3, 1, 2, 216, 0] ++
    (words [1, 192] ++ paddedName [] ++ words [0, 4, 244, 4, 7, 7, 2, 0]) ++
    storedSection [0x5f, 0x5f, 0x61] 0 244 ++ storedSection [0x5f, 0x5f, 0x62] 2 246 ++
    words [2, 24, 248, 2, 272, 7] ++ [0x90, 0xc3] ++ [0x55, 0xc3] ++
    storedEntry 1 0 ++ storedEntry 4 2 ++ [0, 0x5f, 0x66, 0, 0x5f, 0x65, 0]⟩⟩

def file : File where
  encoding := ⟨false, .little⟩
  processor := 7
  segments := [⟨⟨⟨paddedName []⟩⟩, 0, 2, 84⟩]
  symbols := some ⟨248, 2, 272⟩
  libraryCount := 1
  bindings := none

def sections : List Section := [⟨"__a", 0, 2, 244, 0x80000400⟩, ⟨"__b", 2, 2, 246, 0x80000400⟩]

def entries : List SymbolEntry := [⟨"_f", 0x0e, 1, 0⟩, ⟨"_e", 0x0e, 1, 2⟩]

def contents : Contents where
  format := .machO
  arch := some .x86
  symbols := [⟨"f", 0, 2⟩, ⟨"e", 2, 2⟩]
  stubs := []
  regions := [⟨"__a", 0, 2, 244⟩, ⟨"__b", 2, 4, 246⟩]

theorem size_bytes : bytes.size = 279 := by
  rw [← Bytes.length_view]
  simp [bytes, Bytes.view, storedSection, storedEntry, paddedName]

private theorem storable_sections : ∀ found ∈ sections, found.Storable := by decide

/-- The entries, each with the place of its name. -/
def namedEntries : List (SymbolEntry × Nat) := [(⟨"_f", 0x0e, 1, 0⟩, 1), (⟨"_e", 0x0e, 1, 2⟩, 4)]

/-- The parts of the file stand one behind the other. -/
private theorem stands_parts : StandsAt bytes.view 0 (words [0xfeedface, 7, 3, 1, 2, 216, 0]) ∧
    StandsAt bytes.view 28 (words [1, 192] ++ (paddedName [] ++ words [0, 4, 244, 4, 7, 7, 2, 0])) ∧
    StandsAt bytes.view 84 (sections.flatMap Section.store) ∧
    StandsAt bytes.view 220 (words [2, 24, 248, 2, 272, 7]) ∧
    StandsAt bytes.view 248 (namedEntries.flatMap fun pair => pair.1.store pair.2) ∧
    StandsAt bytes.view 272 (Fixture.storedNames ["_f", "_e"]) := by
  have header : StandsAt bytes.view 0 (words [0xfeedface, 7, 3, 1, 2, 216, 0] ++
      ((words [1, 192] ++ (paddedName [] ++ words [0, 4, 244, 4, 7, 7, 2, 0])) ++
        (sections.flatMap Section.store ++ (words [2, 24, 248, 2, 272, 7] ++ ([0x90, 0xc3, 0x55, 0xc3] ++
          (namedEntries.flatMap (fun pair => pair.1.store pair.2) ++ Fixture.storedNames ["_f", "_e"])))))) := by
    refine ⟨[], [], rfl, ?_⟩
    simp only [bytes, Bytes.view, List.append_assoc, List.append_nil, List.nil_append]
    rfl
  have segment := header.behind (show _ = 28 by simp)
  have table := segment.behind (show _ = 84 by simp [paddedName])
  have symbols := table.behind (show _ = 220 by rw [Section.length_flatMap_store storable_sections]; rfl)
  have code := symbols.behind (show _ = 244 by simp)
  have entries := code.behind (show _ = 248 by rfl)
  exact ⟨header.append_left, segment.append_left, table.append_left, symbols.append_left, entries.append_left,
    entries.behind rfl⟩

theorem read?_bytes : File.read? bytes = some file := by
  obtain ⟨header, segment, _, symbols, _⟩ := stands_parts
  have commands : Command.readAll? narrow bytes 2 28 =
      some [.segment ⟨.ofList (paddedName []), 0, 2, 84⟩, .symbols ⟨248, 2, 272⟩] := by
    refine Command.readAll?_cons segment.append_left (by decide) (by rw [size_bytes]; decide) ?_ ?_
    · exact Command.read?_segment segment rfl (by decide) (by rw [size_bytes]; decide)
    · refine Command.readAll?_cons symbols (by decide) (by rw [size_bytes]; decide) ?_ rfl
      exact Command.read?_symbols symbols (by decide) (by decide) (by rw [size_bytes]; decide)
  rw [File.read?_of_commands header (by decide) (by rw [size_bytes]; decide) (by decide) (by rw [size_bytes]; decide)
    commands rfl]
  rfl

theorem sections?_file : file.sections? bytes = some sections := by
  obtain ⟨_, _, table, _⟩ := stands_parts
  have read : file.segmentSections? bytes ⟨⟨⟨paddedName []⟩⟩, 0, 2, 84⟩ = some sections :=
    File.segmentSections?_of_standsAt rfl storable_sections table rfl
  simp only [File.sections?, file, List.mapM_cons, List.mapM_nil] at read ⊢
  rw [read]
  rfl

theorem symbolEntries?_file : file.symbolEntries? bytes = some entries := by
  obtain ⟨_, _, _, _, listed, names⟩ := stands_parts
  exact File.symbolEntries?_of_standsAt rfl rfl (by decide) listed names (by decide)

private theorem contents?_file : file.contents? bytes {} = .ok contents := by
  have bound : file.stubs? bytes {} = .ok [] := rfl
  rw [File.contents?_of_read sections?_file symbolEntries?_file, bound, size_bytes]
  simp only [File.withoutStubs, FunctionSize.infer_eq]
  rfl

def image : Image := .ofContents {} bytes contents

theorem load_bytes : Image.load none {} (.regular bytes) = .ok image :=
  Image.load_detected_eq_ok_iff.mpr ⟨contents, .machO read?_bytes contents?_file, rfl⟩

private theorem fits_bytes : bytes.FitsMemory := by
  rw [Bytes.FitsMemory, size_bytes]
  decide

end AdjacentSections

namespace Image

open Instruction (Disassembler)

variable {format : Option Format} {config : Config} {bytes : Bytes} {image : Image} {symbol : Symbol}
  {disassembler : Disassembler} {region : Region}

/-- The size of a function that starts in a region takes it up to its end there. -/
theorem stop_of_home (inferred : image.InfersSizes) (member : symbol ∈ image.symbols.entries)
    (home : Region.home? image.regions symbol.address = some region) :
    0 < symbol.size ∧ symbol.address + symbol.size = FunctionSize.stopIn image.starts symbol.address region := by
  rw [inferred symbol member]
  exact FunctionSize.sizeAt_of_home image.starts home

theorem size_eq_zero_iff (inferred : image.InfersSizes) (member : symbol ∈ image.symbols.entries) :
    symbol.size = 0 ↔ ∀ region ∈ image.regions, ¬ region.Contains symbol.address := by
  rw [inferred symbol member]
  exact FunctionSize.sizeAt_eq_zero_iff

private theorem home_of_ne_zero (inferred : image.InfersSizes) (member : symbol ∈ image.symbols.entries)
    (body : symbol.size ≠ 0) : ∃ region, Region.home? image.regions symbol.address = some region := by
  apply Option.ne_none_iff_exists'.mp
  intro homeless
  exact body ((size_eq_zero_iff inferred member).mpr (Region.home?_eq_none_iff.mp homeless))

/-- Where no bit of the address is left out, the region that a function starts in is the first one around its code. -/
private theorem regionOf?_of_home (inferred : image.InfersSizes) (member : symbol ∈ image.symbols.entries)
    (plain : image.codeAddress symbol.address = symbol.address)
    (home : Region.home? image.regions symbol.address = some region) :
    image.regionOf? symbol.address symbol.size = some region := by
  obtain ⟨positive, stop⟩ := stop_of_home inferred member home
  have upper := FunctionSize.stopIn_le_stop image.starts symbol.address region
  have lower := (Region.home?_contains home).1
  have enclosed : region.Encloses symbol.address (symbol.address + symbol.size) := ⟨lower, by omega, by omega⟩
  rw [regionOf?, plain]
  exact Region.find?_encloses_of_home home enclosed fun other _ around => around.contains

/-- The code of such a function is where the region that it starts in has it. -/
theorem code_of_plain_home (fits : bytes.FitsMemory) (opened : load format config (.regular bytes) = .ok image)
    (inferred : image.InfersSizes) (member : symbol ∈ image.symbols.entries)
    (plain : image.codeAddress symbol.address = symbol.address)
    (home : Region.home? image.regions symbol.address = some region) :
    image.code symbol.address symbol.size = .ok (bytes.part (region.offsetOf symbol.address) symbol.size) := by
  have first := regionOf?_of_home inferred member plain home
  rw [code_of_load fits opened first, plain]

/-- A function whose bytes are there fails for want of an architecture or for a rest that does not decode. -/
theorem function_of_code {code : Bytes} (body : symbol.size ≠ 0)
    (bytesRead : image.code symbol.address symbol.size = .ok code) :
    (∃ found, image.function disassembler symbol = .ok found) ∨
    (image.arch = none ∧ image.function disassembler symbol =
      .error (.badCode symbol.address symbol.size .unknownArch)) ∨
    ∃ address decoded, image.function disassembler symbol =
      .error (.badCode symbol.address symbol.size (.undecodable address decoded symbol.size)) := by
  cases known : image.arch with
  | none =>
    have failed : image.instructions disassembler symbol.address symbol.size = .error .unknownArch := by
      rw [instructions, known]
      rfl
    refine .inr (.inl ⟨rfl, ?_⟩)
    simp only [function, body, ite_false, codeBytes_of_ok bytesRead, decodeBy_of_error failed, bind, Except.bind]
  | some arch =>
    obtain ⟨rest, left⟩ := disassembler.bytes_prefix (.ofArch arch (image.isThumb symbol.address)) image.dialect
      (image.codeAddress symbol.address) code.view
    by_cases whole : rest = []
    · rw [whole, List.append_nil] at left
      exact .inl ⟨_, (function_eq_ok_iff body).mpr ⟨code, arch, bytesRead, known, left, rfl⟩⟩
    · exact .inr (.inr ⟨_, _, function_of_rest body bytesRead known whole left⟩)

/-- In a file that records no sizes, and unless it is for 32-bit ARM, every function of some size has all of its code,
and has it from the region that its size is taken from, which is the first one that contains its address. The
functions of a PE file all have some size, and those of a Mach-O file do unless their address is in no region. So a
name of the table is resolved unless the architecture is not known or an instruction does not decode. -/
theorem inferred_functions_have_code (fits : bytes.FitsMemory)
    (opened : load format config (.regular bytes) = .ok image) (unsized : image.format = .machO ∨ image.format = .pe)
    (other : image.arch ≠ some .arm) :
    (∀ symbol ∈ image.symbols.entries,
      (0 < symbol.size → ∃ region code, Region.home? image.regions symbol.address = some region ∧
        symbol.address + symbol.size = FunctionSize.stopIn image.starts symbol.address region ∧
        image.regionOf? symbol.address symbol.size = some region ∧
        image.codeBytes symbol.address symbol.size = .ok code ∧ code.size = symbol.size ∧
        code.view = (bytes.view.drop (region.offsetOf symbol.address)).take symbol.size) ∧
      (image.format = .pe → 0 < symbol.size) ∧
      (image.format = .machO →
        (symbol.size = 0 ↔ ∀ region ∈ image.regions, ¬ region.Contains symbol.address))) ∧
    ∀ disassembler name, (∃ symbol ∈ image.symbols.entries, symbol.name = name) →
      ∃ symbol, image.symbols.entries.find? (·.name == name) = some symbol ∧
        ((∃ found, image.resolveBy disassembler name = .ok found) ∨
        (image.arch = none ∧ image.resolveBy disassembler name =
          .error (.badCode symbol.address symbol.size .unknownArch)) ∨
        ∃ address decoded, image.resolveBy disassembler name =
          .error (.badCode symbol.address symbol.size (.undecodable address decoded symbol.size))) := by
  have inferred : image.InfersSizes := by
    refine load_infersSizes opened ?_
    rcases unsized with known | known <;> rw [known] <;> decide
  have plain (address : Nat) : image.codeAddress address = address := codeAddress_of_arch other address
  refine ⟨fun symbol member => ⟨fun body => ?_, fun pe => ?_, fun _ => ?_⟩, fun disassembler name listed => ?_⟩
  · obtain ⟨region, home⟩ := home_of_ne_zero inferred member (Nat.ne_of_gt body)
    have bytesRead := code_of_plain_home fits opened inferred member (plain _) home
    exact ⟨region, _, home, (stop_of_home inferred member home).2, regionOf?_of_home inferred member (plain _) home,
      codeBytes_of_ok bytesRead, size_of_code bytesRead, Bytes.view_part _ _ _⟩
  · obtain ⟨region, present, inside⟩ := load_home_of_pe opened pe member
    apply Nat.pos_of_ne_zero
    intro zero
    exact (size_eq_zero_iff inferred member).mp zero region present inside
  · exact size_eq_zero_iff inferred member
  · obtain ⟨namesake, member, named⟩ := listed
    have found : (image.symbols.entries.find? (·.name == name)).isSome :=
      List.find?_isSome.mpr ⟨namesake, member, beq_iff_eq.mpr named⟩
    obtain ⟨symbol, first⟩ := Option.isSome_iff_exists.mp found
    refine ⟨symbol, first, ?_⟩
    rw [resolveBy_of_named ((named?_of_load opened name).trans first)]
    by_cases empty : symbol.size = 0
    · exact .inl ⟨_, function_of_size_zero empty⟩
    · have present := List.mem_of_find?_eq_some first
      obtain ⟨region, home⟩ := home_of_ne_zero inferred present empty
      exact function_of_code empty (code_of_plain_home fits opened inferred present (plain _) home)

/-- The symbol at the boundary of the two sections has the code of the second one. -/
theorem code_of_adjacentSections : AdjacentSections.bytes.FitsMemory ∧
    load none {} (.regular AdjacentSections.bytes) = .ok AdjacentSections.image ∧
    AdjacentSections.image.format = .machO ∧ AdjacentSections.image.arch ≠ some .arm ∧
    ∃ code, AdjacentSections.image.codeBytes 2 2 = .ok code ∧ code.view = [0x55, 0xc3] := by
  have machO : AdjacentSections.image.format = .machO := rfl
  have other : AdjacentSections.image.arch ≠ some .arm := by decide
  obtain ⟨functions, _⟩ :=
    inferred_functions_have_code AdjacentSections.fits_bytes AdjacentSections.load_bytes (.inl machO) other
  have listed : (⟨"e", 2, 2⟩ : Symbol) ∈ AdjacentSections.image.symbols.entries :=
    List.mem_cons_of_mem _ (List.mem_cons_self ..)
  obtain ⟨body, _⟩ := functions _ listed
  obtain ⟨region, code, home, _, _, read, _, stored⟩ := body (by decide)
  cases home
  refine ⟨AdjacentSections.fits_bytes, AdjacentSections.load_bytes, machO, other, code, read, ?_⟩
  rw [stored]
  decide +kernel

end Image

end ObjectLens

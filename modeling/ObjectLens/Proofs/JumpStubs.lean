import ObjectLens.Proofs.JumpSlots

/-! The stubs of `.plt.got` in an opened image, and a 32-bit file whose entries jump in the two ways that its machine
has. -/

namespace ObjectLens

namespace Image

open Elf (Section FirstJump FirstNamed)

variable {image : Image} {format : Option Format} {config : Config} {bytes : Bytes} {file : Elf.File} {found : Section}

/-- Every whole entry of `.plt.got` makes a stub at its own address if its first jump leads to a slot that a relocation
with a name fills in, and the first such relocation names it. Where there is no jump with all of its four bytes, there
is no stub. -/
theorem jump_stubs_by_target (opened : load format config (.regular bytes) = .ok image) (elf : image.format = .elf)
    (read : Elf.File.read? bytes = some file) (jumps : file.HasJumps)
    (here : file.sectionNamed? ".plt.got" = some found) (present : found.kind ≠ Section.noBits)
    (inside : found.offset + found.size ≤ bytes.size) :
    image.stubs.entries = StubTable.firstClaims (file.pltStubs bytes ++ file.gotStubs bytes) ∧
    (∀ stub ∈ file.gotStubs bytes, ∃ index, (index + 1) * found.jumpSize bytes ≤ found.size ∧
      stub.address = found.jumpAddress bytes index) ∧
    ∀ index, (index + 1) * found.jumpSize bytes ≤ found.size →
      (∀ front mode number rest, number < 0x100000000 →
        FirstJump file.jumpModes (found.jumpEntry bytes index) front mode (littleEndian 4 number ++ rest) →
        (∀ target, file.entryTarget? bytes found index = some target ↔
          file.JumpTarget (found.jumpAddress bytes index) front mode number target) ∧
        ∀ name, ⟨found.jumpAddress bytes index, name⟩ ∈ file.gotStubs bytes ↔ ∃ target,
          file.JumpTarget (found.jumpAddress bytes index) front mode number target ∧
            FirstNamed (file.offsetBindings bytes) target name) ∧
      ((∀ front mode number rest, number < 0x100000000 →
          ¬ FirstJump file.jumpModes (found.jumpEntry bytes index) front mode (littleEndian 4 number ++ rest)) →
        file.entryTarget? bytes found index = none ∧
          ∀ name, ⟨found.jumpAddress bytes index, name⟩ ∉ file.gotStubs bytes) := by
  refine ⟨?_, ?_, fun index whole => ⟨?_, ?_⟩⟩
  · rw [load_elf opened elf read]
    exact StubTable.entries_ofList _
  · intro stub member
    obtain ⟨index, target, whole, place, known, _⟩ := (Elf.File.mem_gotStubs jumps here present inside).mp member
    rw [Elf.File.address_of_entryTarget? read jumps (List.mem_of_find?_eq_some here) whole known] at place
    exact ⟨index, whole, place⟩
  · intro front mode number rest short jump
    have told (target : Nat) : file.entryTarget? bytes found index = some target ↔
        file.JumpTarget (found.jumpAddress bytes index) front mode number target :=
      Elf.File.entryTarget?_eq_some_iff read jumps short jump
    refine ⟨told, fun name => ?_⟩
    rw [Elf.File.mem_gotStubs_at read jumps here present inside whole]
    simp only [told]
  · intro jumpless
    have none := Elf.File.entryTarget?_of_no_jump jumpless
    refine ⟨none, fun name member => ?_⟩
    obtain ⟨target, known, _⟩ := (Elf.File.mem_gotStubs_at read jumps here present inside whole).mp member
    rw [none] at known
    cases known

end Image

/-! A 32-bit file for x86 with three entries in `.plt.got`. The first one jumps through a slot that it tells by its
distance from the global offset table, and the second one through a slot that it tells by its address. The third one
does not jump. -/

namespace NarrowJumps

open Elf

def names : List String := ["f", "g", ".plt.got", ".got.plt", ".rel.dyn"]

def jumps : List UInt8 :=
  [0xff, 0xa3, 0xf8, 0xff, 0xff, 0xff, 0x66, 0x90] ++ [0xff, 0x25, 0x0c, 0xa0, 0x04, 0x08, 0x66, 0x90] ++
    List.replicate 8 0x90

def relocations : List Relocation := [⟨0x3ff8, 1⟩, ⟨0x804a00c, 2⟩]

def symbols : List SymbolEntry := [⟨0, 0, 0, 0, 0⟩, ⟨1, 0x12, 0, 0, 0⟩, ⟨3, 0x12, 0, 0, 0⟩]

def jumpSection : Section := ⟨5, Section.programBits, 6, 0x300, 52, 24, 0, 0, 8, 8⟩

def tableSection : Section := ⟨14, Section.programBits, 3, 0x4000, 76, 0, 0, 0, 4, 4⟩

def relocationSection : Section := ⟨23, Section.relocations, 2, 0, 108, 16, 4, 0, 4, 8⟩

def symbolSection : Section := ⟨0, Section.dynamicSymbolTable, 2, 0, 124, 48, 5, 1, 4, 16⟩

def nameSection : Section := ⟨0, Section.stringTable, 0, 0, 76, 32, 0, 0, 1, 0⟩

def sections : List Section :=
  [⟨0, 0, 0, 0, 0, 0, 0, 0, 0, 0⟩, jumpSection, tableSection, relocationSection, symbolSection, nameSection]

def header : Header := ⟨3, 0, 172, 0, 6, 5⟩

def storedHeader : List UInt8 :=
  [0x7f, 0x45, 0x4c, 0x46, 1, 1, 1, 0, 0, 0, 0, 0, 0, 0, 0, 0] ++ littleEndian 2 3 ++ littleEndian 2 3 ++
    words [1, 0, 0, 172, 0] ++ [52, 32, 0, 40, 6, 5].flatMap (littleEndian 2)

/-- A symbol as 32-bit files have it. -/
def storedSymbol (entry : SymbolEntry) : List UInt8 :=
  words [entry.name, entry.value, entry.size] ++ littleEndian 2 entry.info ++ littleEndian 2 entry.sectionIndex

def storedSection (found : Section) : List UInt8 :=
  words [found.name, found.kind, found.flags, found.address, found.offset, found.size, found.link, found.info,
    found.alignment, found.entrySize]

/-- What stands behind the names. -/
def tables : List UInt8 :=
  relocations.flatMap (fun relocation => words [relocation.offset, 256 * relocation.symbol + 6]) ++
    symbols.flatMap storedSymbol ++ sections.flatMap storedSection

def bytes : Bytes := ⟨⟨storedHeader ++ jumps ++ Fixture.storedNames names ++ tables⟩⟩

def file : File where
  encoding := ⟨false, .little⟩
  machine := 3
  segments := []
  sections := sections
  sectionNames := ⟨.ofList (Fixture.storedNames names)⟩
  symbols := []
  symbolNames := .empty
  dynamic := ⟨[], ⟨.ofList []⟩, [], [], []⟩
  sectionRelocations := [(relocationSection, relocations)]

private theorem size_bytes : bytes.size = 412 := by decide +kernel

private theorem stands_names : StandsAt bytes.view 76 (Fixture.storedNames names) :=
  ⟨storedHeader ++ jumps, tables, by decide, rfl⟩

private theorem sections_bytes : Section.table? file.encoding header bytes = some sections := by
  simp only [Section.table?, Bytes.recordsOneByOne?, Bytes.records?, Bytes.part?, Bytes.part_eq]
  decide +kernel

private theorem read?_bytes : File.read? bytes = some file := by
  have identified : Encoding.ofIdentification? bytes = some file.encoding := by decide +kernel
  have headed : Header.read? file.encoding bytes = some header := by decide +kernel
  have relocated : File.relocationTables? file.encoding bytes sections = some [(relocationSection, relocations)] := by
    decide +kernel
  have segmentsRead : Segment.table? file.encoding header bytes = some [] := by
    simp [Segment.table?, header, Bytes.recordsOneByOne?]
  have strings : sectionStrings? bytes sections 5 = some ⟨.ofList (Fixture.storedNames names)⟩ :=
    sectionStrings?_of_standsAt (by decide) rfl stands_names (by decide) (by decide)
  exact File.read?_of_tables identified headed segmentsRead sections_bytes strings rfl rfl (Dynamic.read?_nil _ _ _ _)
    relocated (by decide)

def image : Image := .ofContents {} bytes (file.contents bytes)

private theorem load_bytes : Image.load none {} (.regular bytes) = .ok image :=
  Image.load_of_elf {} (.inl rfl) read?_bytes

private theorem zeroFree_names : ∀ name ∈ names, ZeroFree name := by decide

private theorem sectionName_file : file.sectionName ⟨0, 0, 0, 0, 0, 0, 0, 0, 0, 0⟩ = "" ∧
    file.sectionName jumpSection = ".plt.got" ∧ file.sectionName tableSection = ".got.plt" ∧
    file.sectionName relocationSection = ".rel.dyn" := by
  have jumps := Fixture.name?_at zeroFree_names (show 2 < names.length by decide) (show _ = 5 by decide)
  have table := Fixture.name?_at zeroFree_names (show 3 < names.length by decide) (show _ = 14 by decide)
  have relocated := Fixture.name?_at zeroFree_names (show 4 < names.length by decide) (show _ = 23 by decide)
  simp only [File.sectionName, file, jumpSection, tableSection, relocationSection, Fixture.name?_storedNames_zero,
    jumps, table, relocated, Option.getD_some]
  decide

private theorem sectionNamed?_file : file.sectionNamed? ".plt.got" = some jumpSection ∧
    file.sectionNamed? ".got.plt" = some tableSection := by
  obtain ⟨none, jumps, table, _⟩ := sectionName_file
  simp only [File.sectionNamed?, show file.sections = sections from rfl, sections, List.find?_cons, none, jumps, table]
  decide

private theorem offsetBindings_file : file.offsetBindings bytes =
    relocations.map (⟨·, symbols, ⟨.ofList (Fixture.storedNames names)⟩⟩) := by
  obtain ⟨_, _, _, name⟩ := sectionName_file
  have symbolsRead : sectionSymbols? file.encoding bytes symbolSection = some symbols := by
    decide +kernel
  have linked : file.linkedSymbols? bytes 4 = some (symbols, ⟨.ofList (Fixture.storedNames names)⟩) :=
    File.linkedSymbols?_of_listed rfl (by decide) rfl symbolsRead (Fixture.read?_storedNames stands_names (by decide))
  simp only [File.offsetBindings, File.linkedRelocations, File.linkedInSections,
    show file.sectionRelocations = [(relocationSection, relocations)] from rfl, List.flatMap_singleton, name,
    show relocationSection.link = 4 from rfl, linked]
  rfl

private theorem names_linked :
    LinkedRelocation.Names ⟨⟨0x3ff8, 1⟩, symbols, ⟨.ofList (Fixture.storedNames names)⟩⟩ "f" ∧
    LinkedRelocation.Names ⟨⟨0x804a00c, 2⟩, symbols, ⟨.ofList (Fixture.storedNames names)⟩⟩ "g" := by
  have first := Fixture.name?_at zeroFree_names (show 0 < names.length by decide) (show _ = 1 by decide)
  have second := Fixture.name?_at zeroFree_names (show 1 < names.length by decide) (show _ = 3 by decide)
  exact ⟨⟨by decide, by decide, _, rfl, first⟩, ⟨by decide, by decide, _, rfl, second⟩⟩

private theorem stored_jumpSection : jumpSection.stored bytes = jumps := by
  have stands : StandsAt bytes.view 52 jumps :=
    ⟨storedHeader, Fixture.storedNames names ++ tables, by decide, by simp only [bytes, Bytes.view, List.append_assoc]⟩
  exact stands.take_drop

private theorem jumpEntry_jumpSection (index : Nat) :
    jumpSection.jumpEntry bytes index = (jumps.drop (index * 8)).take 8 := by
  rw [Section.jumpEntry, stored_jumpSection]
  rfl

end NarrowJumps

namespace Image

open Elf (FirstJump)

private theorem jumpEntry_importedSlots :
    ImportedSlots.jumpSection.jumpEntry ImportedSlots.bytes 0 = ImportedSlots.jump := by
  have stored : ImportedSlots.jumpSection.stored ImportedSlots.bytes = ImportedSlots.jump :=
    ImportedSlots.stands.2.1.take_drop
  rw [Elf.Section.jumpEntry, stored]
  rfl

/-- The entry of the 64-bit file jumps through a slot near itself. Those of the 32-bit file are named by their slots,
and the one that does not jump makes no stub. -/
theorem jump_stubs_of_imports : ⟨0x1000, "f"⟩ ∈ ImportedSlots.file.gotStubs ImportedSlots.bytes ∧
    ⟨0x300, "f"⟩ ∈ NarrowJumps.file.gotStubs NarrowJumps.bytes ∧
    ⟨0x308, "g"⟩ ∈ NarrowJumps.file.gotStubs NarrowJumps.bytes ∧
    ∀ name, ⟨0x310, name⟩ ∉ NarrowJumps.file.gotStubs NarrowJumps.bytes := by
  constructor
  · have inside : ImportedSlots.jumpSection.offset + ImportedSlots.jumpSection.size ≤ ImportedSlots.bytes.size := by
      rw [ImportedSlots.size_bytes]
      decide
    obtain ⟨_, _, told⟩ := jump_stubs_by_target ImportedSlots.load_bytes rfl ImportedSlots.read?_bytes (.inl rfl)
      ImportedSlots.sectionNamed?_file.2 (by decide) inside
    obtain ⟨leads, _⟩ := told 0 (by decide)
    have jump : FirstJump ImportedSlots.file.jumpModes (ImportedSlots.jumpSection.jumpEntry ImportedSlots.bytes 0) []
        0x25 (littleEndian 4 0x1ffa ++ [0x66, 0x90]) := by
      rw [jumpEntry_importedSlots]
      exact ⟨rfl, by decide, fun index front => absurd front (Nat.not_lt_zero index)⟩
    refine ((leads _ _ _ _ (by decide) jump).2 "f").mpr ⟨0x3000, .relative rfl (by decide) (by decide) (by decide), ?_⟩
    rw [show ImportedSlots.file.offsetBindings ImportedSlots.bytes = _ from
      ImportedSlots.linkedInSections_file (by decide)]
    exact ⟨0, _, rfl, rfl, ImportedSlots.names_linked.1, fun earlier front => absurd front (Nat.not_lt_zero earlier)⟩
  · have inside : NarrowJumps.jumpSection.offset + NarrowJumps.jumpSection.size ≤ NarrowJumps.bytes.size := by
      rw [NarrowJumps.size_bytes]
      decide
    obtain ⟨_, _, told⟩ := jump_stubs_by_target NarrowJumps.load_bytes rfl NarrowJumps.read?_bytes (.inr ⟨rfl, rfl⟩)
      NarrowJumps.sectionNamed?_file.1 (by decide) inside
    refine ⟨?_, ?_, ?_⟩
    · obtain ⟨leads, _⟩ := told 0 (by decide)
      have jump : FirstJump NarrowJumps.file.jumpModes (NarrowJumps.jumpSection.jumpEntry NarrowJumps.bytes 0) []
          0xa3 (littleEndian 4 0xfffffff8 ++ [0x66, 0x90]) := by
        rw [NarrowJumps.jumpEntry_jumpSection]
        exact ⟨by decide, by decide, fun index front => absurd front (Nat.not_lt_zero index)⟩
      have base : NarrowJumps.file.GotBase 0x4000 := .jumps NarrowJumps.sectionNamed?_file.2
      refine ((leads _ _ _ _ (by decide) jump).2 "f").mpr ⟨0x3ff8, .based rfl rfl base (by decide), ?_⟩
      rw [NarrowJumps.offsetBindings_file]
      exact ⟨0, _, rfl, rfl, NarrowJumps.names_linked.1, fun earlier front => absurd front (Nat.not_lt_zero earlier)⟩
    · obtain ⟨leads, _⟩ := told 1 (by decide)
      have jump : FirstJump NarrowJumps.file.jumpModes (NarrowJumps.jumpSection.jumpEntry NarrowJumps.bytes 1) []
          0x25 (littleEndian 4 0x804a00c ++ [0x66, 0x90]) := by
        rw [NarrowJumps.jumpEntry_jumpSection]
        exact ⟨by decide, by decide, fun index front => absurd front (Nat.not_lt_zero index)⟩
      refine ((leads _ _ _ _ (by decide) jump).2 "g").mpr ⟨0x804a00c, .absolute rfl rfl, ?_⟩
      rw [NarrowJumps.offsetBindings_file]
      refine ⟨1, _, rfl, rfl, NarrowJumps.names_linked.2, fun earlier front other listed same => ?_⟩
      obtain rfl : earlier = 0 := by omega
      cases listed
      cases same
    · intro name
      obtain ⟨_, jumpless⟩ := told 2 (by decide)
      refine (jumpless fun front mode number rest _ jump => ?_).2 name
      have opcode : 0xff ∈ NarrowJumps.jumpSection.jumpEntry NarrowJumps.bytes 2 := by
        rw [jump.split]
        simp
      rw [NarrowJumps.jumpEntry_jumpSection] at opcode
      revert opcode
      decide

end Image

end ObjectLens

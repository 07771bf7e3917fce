import ObjectLens.Proofs.ElfReading

/-! The relocations that an ELF file names its stubs by, each with the symbols and the names that its table is linked
to. What a relocation names is told by these alone, so the readers for the linkage table and for the global offset
table differ only in which relocations they take. -/

namespace ObjectLens

open Bytes (ofList)

namespace Elf

/-- A relocation beside the symbols and the names that its table is linked to. -/
structure LinkedRelocation where
  relocation : Relocation
  symbols : List SymbolEntry
  names : StringTable

namespace LinkedRelocation

variable {linked : LinkedRelocation} {name : String}

/-- The relocation is for a symbol with a name. The first symbol of a table stands for none. -/
def Names (linked : LinkedRelocation) (name : String) : Prop :=
  linked.relocation.symbol ≠ 0 ∧ name ≠ "" ∧ ∃ entry,
    linked.symbols[linked.relocation.symbol]? = some entry ∧ linked.names.name? entry.name = some name

def named (linked : LinkedRelocation) : NamedRelocation :=
  .ofRelocation linked.symbols linked.names linked.relocation

theorem name_named_eq_some_iff : linked.named.name = some name ↔ linked.Names name := by
  simp only [named, NamedRelocation.ofRelocation, Names]
  by_cases none : linked.relocation.symbol = 0
  · simp [none]
  · simp only [none, ite_false, Option.bind_eq_some_iff, StringTable.properName?, Option.filter_eq_some_iff,
      decide_eq_true_eq, ne_eq, not_false_eq_true, true_and]
    constructor
    · rintro ⟨entry, listed, here, proper⟩
      exact ⟨proper, entry, listed, here⟩
    · rintro ⟨proper, entry, listed, here⟩
      exact ⟨entry, listed, here, proper⟩

theorem isSome_name_named : linked.named.name.isSome ↔ ∃ name, linked.Names name := by
  simp only [Option.isSome_iff_exists, name_named_eq_some_iff]

end LinkedRelocation

namespace File

variable {file : File} {bytes : Bytes}

/-- The relocations in the sections of some names, in file order. A section whose symbols cannot be read has none. -/
def linkedInSections (file : File) (bytes : Bytes) (names : List String) : List LinkedRelocation :=
  file.sectionRelocations.flatMap fun (table, relocations) =>
    if file.sectionName table ∈ names then
      match file.linkedSymbols? bytes table.link with
      | some (symbols, strings) => relocations.map fun relocation => ⟨relocation, symbols, strings⟩
      | none => []
    else []

/-- The relocations of the dynamic segment if there are any, and else those in the sections of some names. -/
def linkedRelocations (file : File) (bytes : Bytes) (dynamic : List Relocation) (names : List String) :
    List LinkedRelocation :=
  if dynamic = [] then file.linkedInSections bytes names
  else dynamic.map fun relocation => ⟨relocation, file.dynamic.symbols, file.dynamic.names⟩

/-- What binds the slots of the procedure linkage table, in order. -/
def slotBindings (file : File) (bytes : Bytes) : List LinkedRelocation :=
  file.linkedRelocations bytes file.dynamic.pltRelocations [".rela.plt", ".rel.plt"]

/-- What binds the slots of the global offset table, in order. -/
def offsetBindings (file : File) (bytes : Bytes) : List LinkedRelocation :=
  file.linkedRelocations bytes
    (file.dynamic.relocationsWithAddends ++ file.dynamic.relocations ++ file.dynamic.pltRelocations)
    [".rela.dyn", ".rel.dyn", ".rela.plt", ".rel.plt"]

/-- The symbols that a section links to are read with the names that their own section links to. -/
theorem linkedSymbols?_of_listed {link : Nat} {table strings : Section} {symbols : List SymbolEntry}
    {names : StringTable} (listed : file.sections[link]? = some table) (some : table.entrySize ≠ 0)
    (linked : file.sections[table.link]? = Option.some strings)
    (entries : sectionSymbols? file.encoding bytes table = Option.some symbols)
    (read : StringTable.read? bytes strings.offset strings.size = Option.some names) :
    file.linkedSymbols? bytes link = Option.some (symbols, names) := by
  simp [linkedSymbols?, *]

theorem map_named_linkedInSections (names : List String) :
    (file.linkedInSections bytes names).map (·.named) = file.namedInSections bytes names := by
  simp only [linkedInSections, namedInSections, List.map_flatMap]
  congr 1
  funext table
  split
  · cases file.linkedSymbols? bytes table.1.link with
    | none => rfl
    | some linked => exact List.map_map
  · rfl

theorem pltRelocations_eq (file : File) (bytes : Bytes) :
    file.pltRelocations bytes = (file.slotBindings bytes).map (·.named) := by
  simp only [pltRelocations, slotBindings, linkedRelocations, List.isEmpty_iff]
  split
  · exact (map_named_linkedInSections _).symm
  · rw [named, List.map_map]
    rfl

theorem gotRelocations_eq (file : File) (bytes : Bytes) :
    file.gotRelocations bytes = (file.offsetBindings bytes).map (·.named) := by
  simp only [gotRelocations, offsetBindings, linkedRelocations, List.isEmpty_iff]
  split
  · exact (map_named_linkedInSections _).symm
  · rw [named, List.map_map]
    rfl

/-- The tables of relocations are the sections of their two kinds, in file order. -/
theorem sectionRelocations_of_read? (read : read? bytes = some file) :
    file.sectionRelocations.map (·.1) = file.sections.filter fun table =>
      table.kind = Section.relocationsWithAddends || table.kind = Section.relocations := by
  simp only [read?, Option.bind_eq_bind, Option.bind_eq_some_iff] at read
  obtain ⟨_, _, _, _, _, _, sections, _, _, _, _, _, _, _, _, _, tables, relocated, rest⟩ := read
  have made : file.sections = sections ∧ file.sectionRelocations = tables := by
    split at rest
    · cases rest
    · cases rest
      exact ⟨rfl, rfl⟩
  rw [made.1, made.2]
  refine map_of_mapM (fun table pair here => ?_) relocated
  split at here
  · cases here
  · obtain ⟨_, _, same⟩ := Option.bind_eq_some_iff.mp here
    cases same
    rfl

end File

end Elf

/-! A file with two relocations for imports, and with two sections of stubs for them. The first of these sections ends
where the address space does. -/

namespace ImportedSlots

open Elf

def names : List String := ["f", "g", ".plt.sec", ".plt.got", ".rela.plt"]

def symbols : List SymbolEntry := [⟨0, 0, 0, 0, 0⟩, ⟨1, 0x12, 0, 0, 0⟩, ⟨3, 0x12, 0, 0, 0⟩]

def relocations : List Relocation := [⟨0x3000, 1⟩, ⟨0x3008, 2⟩]

/-- The slots up to the end of the address space, with room for two. -/
def slotSection : Section := ⟨5, Section.programBits, 6, 0xffffffffffffffe0, 64, 32, 0, 0, 16, 16⟩

def jumpSection : Section := ⟨14, Section.programBits, 6, 0x1000, 96, 8, 0, 0, 8, 8⟩

def relocationSection : Section := ⟨23, Section.relocationsWithAddends, 2, 0, 137, 48, 4, 0, 8, 24⟩

def symbolSection : Section := ⟨0, Section.dynamicSymbolTable, 2, 0, 185, 72, 5, 1, 8, 24⟩

def nameSection : Section := ⟨0, Section.stringTable, 0, 0, 104, 33, 0, 0, 1, 0⟩

def sections : List Section :=
  [⟨0, 0, 0, 0, 0, 0, 0, 0, 0, 0⟩, slotSection, jumpSection, relocationSection, symbolSection, nameSection]

def header : Header := ⟨62, 0, 257, 0, 6, 5⟩

/-- A jump through the place that the first relocation fills in, and two bytes that fill its entry up. -/
def jump : List UInt8 := [0xff, 0x25, 0xfa, 0x1f, 0, 0, 0x66, 0x90]

def bytes : Bytes :=
  ofList (header.store 3 0 ++ (List.replicate 32 0x90 ++ (jump ++ (Fixture.storedNames names ++
    (relocations.flatMap (·.store 7) ++ (symbols.flatMap SymbolEntry.store ++ sections.flatMap Section.store))))))

def file : File where
  encoding := .wideLittle
  machine := 62
  segments := []
  sections := sections
  sectionNames := ⟨ofList (Fixture.storedNames names)⟩
  symbols := []
  symbolNames := .empty
  dynamic := ⟨[], ⟨ofList []⟩, [], [], []⟩
  sectionRelocations := [(relocationSection, relocations)]

theorem size_bytes : bytes.size = 641 := by
  rw [bytes, Bytes.size_ofList]
  simp only [List.length_append, Header.length_store,
    length_flatMap_of_uniform fun listed _ => Section.length_store listed,
    length_flatMap_of_uniform fun listed _ => SymbolEntry.length_store listed,
    length_flatMap_of_uniform fun listed _ => Relocation.length_store listed 7]
  decide

private theorem storable : ∀ listed ∈ sections, listed.Storable := by
  intro listed member
  simp only [sections, List.mem_cons, List.not_mem_nil, or_false] at member
  rcases member with rfl | rfl | rfl | rfl | rfl | rfl <;> constructor <;> decide

theorem stands : StandsAt bytes.view 0 (header.store 3 0) ∧ StandsAt bytes.view 96 jump ∧
    StandsAt bytes.view 104 (Fixture.storedNames names) ∧
    StandsAt bytes.view 137 (relocations.flatMap (·.store 7)) ∧
    StandsAt bytes.view 185 (symbols.flatMap SymbolEntry.store) ∧
    StandsAt bytes.view 257 (sections.flatMap Section.store) := by
  have whole : StandsAt bytes.view 0 (header.store 3 0 ++ (List.replicate 32 0x90 ++ (jump ++
      (Fixture.storedNames names ++ (relocations.flatMap (·.store 7) ++ (symbols.flatMap SymbolEntry.store ++
        sections.flatMap Section.store)))))) := by
    rw [bytes, Bytes.view_ofList]
    exact StandsAt.self _
  have slots := whole.append_right
  rw [Header.length_store] at slots
  have jumps := slots.append_right
  have stored := jumps.append_right
  have relocated := stored.append_right
  rw [show (Fixture.storedNames names).length = 33 by decide] at relocated
  have entries := relocated.append_right
  rw [length_flatMap_of_uniform fun listed _ => Relocation.length_store listed 7] at entries
  have headers := entries.append_right
  rw [length_flatMap_of_uniform fun listed _ => SymbolEntry.length_store listed] at headers
  exact ⟨whole.append_left, jumps.append_left, stored.append_left, relocated.append_left, entries.append_left,
    headers⟩

theorem read?_bytes : File.read? bytes = some file := by
  obtain ⟨front, _, stored, relocated, _, headers⟩ := stands
  have strings : sectionStrings? bytes sections 5 = some ⟨ofList (Fixture.storedNames names)⟩ :=
    sectionStrings?_of_standsAt (by decide) rfl stored (by decide) (by decide)
  have table : Relocation.table? .wideLittle bytes relocationSection.offset relocationSection.size true =
      some relocations :=
    Relocation.table?_of_standsAt (fun listed member => by
      simp only [relocations, List.mem_cons, List.not_mem_nil, or_false] at member
      rcases member with rfl | rfl <;> constructor <;> decide) (by decide) relocated
      (length_flatMap_of_uniform fun listed _ => Relocation.length_store listed 7)
  have fits : relocationSection.fits bytes.size := by
    rw [size_bytes]
    decide
  have relocationsRead : File.relocationTables? .wideLittle bytes sections =
      some [(relocationSection, relocations)] := by
    have tables : sections.filter (fun table => table.kind = Section.relocationsWithAddends ||
      table.kind = Section.relocations) = [relocationSection] := rfl
    have kind : decide (relocationSection.kind = Section.relocationsWithAddends) = true := rfl
    simp only [File.relocationTables?, tables, List.mapM_cons, List.mapM_nil, fits, kind, table]
    rfl
  have segmentsRead : Segment.table? .wideLittle header bytes = some [] := by
    simp [Segment.table?, header, Bytes.recordsOneByOne?]
  exact File.read?_of_tables (Encoding.ofIdentification?_of_standsAt front)
    (Header.read?_of_standsAt (by constructor <;> decide) front)
    segmentsRead (Section.table?_of_standsAt storable (by decide) (by decide) rfl headers) strings rfl rfl
    (Dynamic.read?_nil _ _ _ _) relocationsRead (by decide)

def image : Image := .ofContents {} bytes (file.contents bytes)

theorem load_bytes : Image.load none {} (.regular bytes) = .ok image := Image.load_of_elf {} (.inl rfl) read?_bytes

private theorem zeroFree_names : ∀ name ∈ names, ZeroFree name := by decide

private theorem sectionName_file : file.sectionName ⟨0, 0, 0, 0, 0, 0, 0, 0, 0, 0⟩ = "" ∧
    file.sectionName slotSection = ".plt.sec" ∧ file.sectionName jumpSection = ".plt.got" ∧
    file.sectionName relocationSection = ".rela.plt" := by
  have slots := Fixture.name?_at zeroFree_names (show 2 < names.length by decide) (show _ = 5 by decide)
  have jumps := Fixture.name?_at zeroFree_names (show 3 < names.length by decide) (show _ = 14 by decide)
  have relocated := Fixture.name?_at zeroFree_names (show 4 < names.length by decide) (show _ = 23 by decide)
  simp only [File.sectionName, file, slotSection, jumpSection, relocationSection, Fixture.name?_storedNames_zero, slots,
    jumps, relocated, Option.getD_some]
  decide

theorem sectionNamed?_file : file.sectionNamed? ".plt.sec" = some slotSection ∧
    file.sectionNamed? ".plt.got" = some jumpSection := by
  obtain ⟨none, slots, jumps, _⟩ := sectionName_file
  simp only [File.sectionNamed?, show file.sections = sections from rfl, sections, List.find?_cons, none, slots, jumps]
  decide

/-- Both relocations are linked to the symbols and to their names. -/
theorem linkedInSections_file {wanted : List String} (listed : ".rela.plt" ∈ wanted) :
    file.linkedInSections bytes wanted =
      relocations.map (⟨·, symbols, ⟨ofList (Fixture.storedNames names)⟩⟩) := by
  obtain ⟨_, _, stored, _, entries, _⟩ := stands
  obtain ⟨_, _, _, name⟩ := sectionName_file
  have table : file.sections[4]? = some symbolSection := rfl
  have symbolsRead : sectionSymbols? .wideLittle bytes symbolSection = some (symbols.map SymbolEntry.cut) :=
    sectionSymbols?_of_standsAt entries rfl
  have linked : file.linkedSymbols? bytes 4 = some (symbols, ⟨ofList (Fixture.storedNames names)⟩) :=
    File.linkedSymbols?_of_listed table (by decide) rfl symbolsRead (Fixture.read?_storedNames stored (by decide))
  simp only [File.linkedInSections, show file.sectionRelocations = [(relocationSection, relocations)] from rfl,
    List.flatMap_singleton, name, listed, ite_true, show relocationSection.link = 4 from rfl, linked]

theorem names_linked : LinkedRelocation.Names ⟨⟨0x3000, 1⟩, symbols, ⟨ofList (Fixture.storedNames names)⟩⟩ "f" ∧
    LinkedRelocation.Names ⟨⟨0x3008, 2⟩, symbols, ⟨ofList (Fixture.storedNames names)⟩⟩ "g" := by
  have first := Fixture.name?_at zeroFree_names (show 0 < names.length by decide) (show _ = 1 by decide)
  have second := Fixture.name?_at zeroFree_names (show 1 < names.length by decide) (show _ = 3 by decide)
  exact ⟨⟨by decide, by decide, _, rfl, first⟩, ⟨by decide, by decide, _, rfl, second⟩⟩

end ImportedSlots

end ObjectLens

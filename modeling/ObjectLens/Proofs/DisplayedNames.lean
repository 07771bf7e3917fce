import ObjectLens.Proofs.SectionSizes

/-! Which functions are shown without a name. Every reader leaves out the symbols that have none, but the names of a
Mach-O file are shortened after that, and of a symbol that is called by a lone underscore nothing is left. -/

namespace ObjectLens

/-- The options under which all names are those of the file. -/
def Config.keeping : Config where
  keepUnderscore := true

namespace MachO

variable {config : Config} {name short : String}

/-- The second name is the first one without the underscore in front of it, if it has one. -/
def Stripped (name short : String) : Prop :=
  name = "_" ++ short ∨ name.toList.head? ≠ some '_' ∧ short = name

theorem displayName_of_keeps (keeps : config.keepUnderscore = true) (name : String) :
    displayName config name = name := by
  rw [displayName, keeps]
  exact if_pos rfl

theorem stripped_displayName (strips : config.keepUnderscore = false) (name : String) :
    Stripped name (displayName config name) := by
  rw [displayName, strips, if_neg Bool.false_ne_true]
  split
  next rest same =>
    refine .inl (String.toList_inj.mp ?_)
    simp only [same, String.toList_append, String.toList_ofList]
    rfl
  next other =>
    refine .inr ⟨fun front => ?_, rfl⟩
    obtain ⟨rest, same⟩ := List.head?_eq_some_iff.mp front
    exact other rest same

private theorem Stripped.eq_empty_iff (stripped : Stripped name short) : short = "" ↔ name = "" ∨ name = "_" := by
  rcases stripped with rfl | ⟨front, rfl⟩
  · constructor
    · rintro rfl
      exact .inr rfl
    · rintro (nothing | lone)
      · have length := congrArg String.length nothing
        simp at length
      · have length := congrArg String.length lone
        simpa using length
  · constructor
    · exact .inl
    · rintro (nothing | rfl)
      · exact nothing
      · exact absurd rfl front

/-- The file is a Mach-O file with a function that its symbol table calls by this name. -/
def ListsFunction (bytes : Bytes) (name : String) : Prop :=
  ∃ file sections entries, File.read? bytes = some file ∧ file.sections? bytes = some sections ∧
    file.symbolEntries? bytes = some entries ∧
    ∃ entry ∈ File.functionEntries sections bytes.size entries, entry.name = name

private theorem File.name_ne_of_functionEntries {sections : List Section} {fileSize : Nat} {entries : List SymbolEntry}
    {entry : SymbolEntry} (listed : entry ∈ functionEntries sections fileSize entries) : entry.name ≠ "" := by
  have usable := (List.mem_filter.mp listed).2
  simp only [Bool.and_eq_true, decide_eq_true_eq] at usable
  exact usable.2

end MachO

private theorem StringTable.properName?_ne_empty {table : StringTable} {position : Nat} {name : String}
    (read : table.properName? position = some name) : name ≠ "" := by
  have proper := (Option.filter_eq_some_iff.mp read).2
  exact of_decide_eq_true proper

private theorem Elf.File.name_ne_of_functions {file : File} {symbol : Symbol} (listed : symbol ∈ file.functions) :
    symbol.name ≠ "" := by
  obtain ⟨entry, _, named⟩ := List.mem_filterMap.mp listed
  obtain ⟨name, read, rfl⟩ := Option.map_eq_some_iff.mp named
  exact StringTable.properName?_ne_empty read

private theorem Pe.File.name_ne_of_functions {file : File} {regions : List Region} {symbol : Symbol}
    (listed : symbol ∈ file.functions regions) : symbol.name ≠ "" := by
  obtain ⟨found, _, named⟩ := List.mem_filterMap.mp listed
  obtain ⟨name, read, rfl⟩ := Option.map_eq_some_iff.mp named
  exact of_decide_eq_true (Option.filter_eq_some_iff.mp read).2

namespace Image

open Instruction (Disassembler)
open MachO (ListsFunction)

variable {format : Option Format} {config : Config} {bytes : Bytes} {image : Image}

def NamesFunctions (image : Image) : Prop := ∀ symbol ∈ image.symbols.entries, symbol.name ≠ ""

private theorem format_of_listsFunction {name : String} (opened : load format config (.regular bytes) = .ok image)
    (lists : ListsFunction bytes name) : image.format = .machO := by
  obtain ⟨found, reads, rfl⟩ := load_reads opened
  obtain ⟨file, _, _, read, _⟩ := lists
  have told := reads.detect?
  rw [MachO.File.detect?_of_read? read, Option.some.injEq, Container.binary.injEq] at told
  exact told.symm

theorem namesFunctions_of_format (opened : load format config (.regular bytes) = .ok image)
    (other : image.format ≠ .machO) : image.NamesFunctions := by
  obtain ⟨found, reads, rfl⟩ := load_reads opened
  intro symbol member
  cases reads with
  | elf read => exact Elf.File.name_ne_of_functions member
  | machO read usable => exact absurd (MachO.File.contents?_format usable) other
  | pe read =>
    obtain ⟨bare, listed, rfl⟩ := List.mem_map.mp member
    have named := Pe.File.name_ne_of_functions listed
    exact named

private theorem namesFunctions_iff_of_machO (opened : load format config (.regular bytes) = .ok image)
    (machO : image.format = .machO) :
    image.NamesFunctions ↔ ¬ (config.keepUnderscore = false ∧ ListsFunction bytes "_") := by
  obtain ⟨file, sections, entries, read, sectionsRead, entriesRead, _, symbols⟩ := load_machO opened machO
  have lists (name : String) : ListsFunction bytes name ↔
      ∃ entry ∈ MachO.File.functionEntries sections bytes.size entries, entry.name = name := by
    constructor
    · rintro ⟨_, _, _, reread, sectionsReread, entriesReread, found⟩
      obtain rfl := Option.some.inj (read.symm.trans reread)
      obtain rfl := Option.some.inj (sectionsRead.symm.trans sectionsReread)
      obtain rfl := Option.some.inj (entriesRead.symm.trans entriesReread)
      exact found
    · exact fun found => ⟨file, sections, entries, read, sectionsRead, entriesRead, found⟩
  rw [NamesFunctions, symbols, List.forall_mem_map, lists]
  cases choice : config.keepUnderscore with
  | true =>
    refine iff_of_true (fun entry listed => ?_) (fun strips => Bool.noConfusion strips.1)
    rw [MachO.displayName_of_keeps choice]
    exact MachO.File.name_ne_of_functionEntries listed
  | false =>
    constructor
    · rintro named ⟨_, entry, listed, lone⟩
      exact named entry listed ((MachO.stripped_displayName choice _).eq_empty_iff.mpr (.inr lone))
    · intro none entry listed empty
      rcases (MachO.stripped_displayName choice _).eq_empty_iff.mp empty with nameless | lone
      · exact MachO.File.name_ne_of_functionEntries listed nameless
      · exact none ⟨rfl, entry, listed, lone⟩

private theorem function_ne_unknownSymbol (image : Image) (disassembler : Disassembler) (symbol : Symbol)
    (name : String) :
    image.function disassembler symbol ≠ .error (.unknownSymbol name) := by
  by_cases empty : symbol.size = 0
  · simp [function_of_size_zero empty]
  · cases bytesRead : image.code symbol.address symbol.size with
    | error fault => simp [function, empty, codeBytes_of_error bytesRead, bind, Except.bind]
    | ok code =>
      cases listed : image.instructions disassembler symbol.address symbol.size with
      | error fault =>
        simp [function, empty, codeBytes_of_ok bytesRead, decodeBy_of_error listed, bind, Except.bind]
      | ok instructions =>
        simp [function, empty, codeBytes_of_ok bytesRead, decodeBy_of_ok listed, bind, Except.bind, pure, Except.pure]

theorem resolveBy_eq_unknownSymbol_iff (opened : load format config (.regular bytes) = .ok image)
    (disassembler : Disassembler) (name : String) :
    image.resolveBy disassembler name = .error (.unknownSymbol name) ↔
      ∀ symbol ∈ image.symbols.entries, symbol.name ≠ name := by
  have scanned := named?_of_load opened name
  cases first : image.symbols.named? name with
  | none =>
    rw [first] at scanned
    refine iff_of_true (resolveBy_of_unnamed first) fun symbol member => ?_
    simpa using List.find?_eq_none.mp scanned.symm symbol member
  | some symbol =>
    rw [first] at scanned
    rw [resolveBy_of_named first]
    refine iff_of_false (image.function_ne_unknownSymbol disassembler symbol name) fun others => ?_
    have named : symbol.name = name := by simpa using List.find?_some scanned.symm
    exact others symbol (List.mem_of_find?_eq_some scanned.symm) named

/-- All functions of an opened image have names unless it is opened without the underscores of a Mach-O file that has a
function `_`. The empty name is unknown exactly if all functions have names, and then no address is answered with
it. -/
theorem functions_named_iff (opened : load format config (.regular bytes) = .ok image) :
    (image.NamesFunctions ↔ ¬ (config.keepUnderscore = false ∧ ListsFunction bytes "_")) ∧
    (∀ disassembler, image.resolveBy disassembler "" = .error (.unknownSymbol "") ↔ image.NamesFunctions) ∧
    (image.NamesFunctions → ∀ address, image.nameAt? address ≠ some "") := by
  refine ⟨?_, fun disassembler => resolveBy_eq_unknownSymbol_iff opened disassembler "", fun named address => ?_⟩
  · by_cases machO : image.format = .machO
    · exact namesFunctions_iff_of_machO opened machO
    · refine iff_of_true (namesFunctions_of_format opened machO) fun lone => ?_
      exact machO (format_of_listsFunction opened lone.2)
  · intro empty
    obtain ⟨symbol, first, nameless⟩ := Option.map_eq_some_iff.mp empty
    obtain ⟨found, _, rfl⟩ := load_reads opened
    have scanned : found.symbols.find? (·.address == address) = some symbol :=
      (SymbolTable.startingAt?_ofList found.symbols address).symm.trans first
    exact named symbol (List.mem_of_find?_eq_some scanned) nameless

end Image

/-! A Mach-O file with two functions, `_` and `_f`, which both start with its one section of code. A slot is bound to
`_g`: at the same address if the segment is present that it is said to be in, and nowhere otherwise. -/

namespace BoundSlot

open MachO
open AdjacentSections (storedEntry storedSection)

/-- The file. Its binding program names the symbol, chooses a segment, and binds. -/
def bytes (present : Bool) : Bytes :=
  ⟨⟨words [0xfeedface, 7, 3, 1, 3, 196, 0] ++
    (words [1, 124] ++ paddedName [] ++ words [0, 2, 224, 2, 7, 7, 1, 0]) ++
    storedSection [0x5f, 0x5f, 0x74] 0 224 ++ words [2, 24, 234, 2, 258, 6] ++
    words [0x80000022, 48, 0, 0, 226, 8, 0, 0, 0, 0, 0, 0] ++
    [0x90, 0xc3] ++ [0x40, 0x5f, 0x67, 0, if present then 0x70 else 0x75, 0, 0x90, 0] ++
    storedEntry 1 0 ++ storedEntry 3 0 ++ [0, 0x5f, 0, 0x5f, 0x66, 0]⟩⟩

def file : File where
  encoding := ⟨false, .little⟩
  processor := 7
  segments := [⟨⟨⟨paddedName []⟩⟩, 0, 1, 84⟩]
  symbols := some ⟨234, 2, 258⟩
  libraryCount := 1
  bindings := some (⟨226, 8⟩, ⟨0, 0⟩)

def sections : List Section := [⟨"__t", 0, 2, 224, 0x80000400⟩]

def entries : List SymbolEntry := [⟨"_", 0x0e, 1, 0⟩, ⟨"_f", 0x0e, 1, 0⟩]

def contents (config : Config) : Contents where
  format := .machO
  arch := some .x86
  symbols := [⟨displayName config "_", 0, 2⟩, ⟨displayName config "_f", 0, 2⟩]
  stubs := []
  regions := [⟨"__t", 0, 2, 224⟩]

theorem size_bytes (present : Bool) : (bytes present).size = 264 := by
  rw [← Bytes.length_view]
  simp [bytes, Bytes.view, storedSection, storedEntry, paddedName]

private theorem storable_sections : ∀ found ∈ sections, found.Storable := by decide

/-- The entries, each with the place of its name. -/
def namedEntries : List (SymbolEntry × Nat) := [(⟨"_", 0x0e, 1, 0⟩, 1), (⟨"_f", 0x0e, 1, 0⟩, 3)]

/-- The parts of the file stand one behind the other. -/
private theorem stands_parts (present : Bool) :
    StandsAt (bytes present).view 0 (words [0xfeedface, 7, 3, 1, 3, 196, 0]) ∧
    StandsAt (bytes present).view 28 (words [1, 124] ++ (paddedName [] ++ words [0, 2, 224, 2, 7, 7, 1, 0])) ∧
    StandsAt (bytes present).view 84 (sections.flatMap Section.store) ∧
    StandsAt (bytes present).view 152 (words [2, 24, 234, 2, 258, 6]) ∧
    StandsAt (bytes present).view 176 (words [0x80000022, 48, 0, 0, 226, 8, 0, 0, 0, 0, 0, 0]) ∧
    StandsAt (bytes present).view 234 (namedEntries.flatMap fun pair => pair.1.store pair.2) ∧
    StandsAt (bytes present).view 258 (Fixture.storedNames ["_", "_f"]) := by
  have header : StandsAt (bytes present).view 0 (words [0xfeedface, 7, 3, 1, 3, 196, 0] ++
      ((words [1, 124] ++ (paddedName [] ++ words [0, 2, 224, 2, 7, 7, 1, 0])) ++
        (sections.flatMap Section.store ++ (words [2, 24, 234, 2, 258, 6] ++
          (words [0x80000022, 48, 0, 0, 226, 8, 0, 0, 0, 0, 0, 0] ++
            ([0x90, 0xc3, 0x40, 0x5f, 0x67, 0, if present then 0x70 else 0x75, 0, 0x90, 0] ++
              (namedEntries.flatMap (fun pair => pair.1.store pair.2) ++ Fixture.storedNames ["_", "_f"]))))))) := by
    refine ⟨[], [], rfl, ?_⟩
    simp only [bytes, Bytes.view, List.append_assoc, List.append_nil, List.nil_append]
    rfl
  have segment := header.behind (show _ = 28 by simp)
  have table := segment.behind (show _ = 84 by simp [paddedName])
  have symbols := table.behind (show _ = 152 by rw [Section.length_flatMap_store storable_sections]; rfl)
  have bindings := symbols.behind (show _ = 176 by simp)
  have code := bindings.behind (show _ = 224 by simp)
  have entries := code.behind (show _ = 234 by rfl)
  exact ⟨header.append_left, segment.append_left, table.append_left, symbols.append_left, bindings.append_left,
    entries.append_left, entries.behind rfl⟩

theorem read?_bytes (present : Bool) : File.read? (bytes present) = some file := by
  obtain ⟨header, segment, _, symbols, bindings, _⟩ := stands_parts present
  have commands : Command.readAll? narrow (bytes present) 3 28 =
      some [.segment ⟨.ofList (paddedName []), 0, 1, 84⟩, .symbols ⟨234, 2, 258⟩, .bindings ⟨226, 8⟩ ⟨0, 0⟩] := by
    refine Command.readAll?_cons segment.append_left (by decide) (by rw [size_bytes]; decide) ?_ ?_
    · exact Command.read?_segment segment rfl (by decide) (by rw [size_bytes]; decide)
    refine Command.readAll?_cons symbols (by decide) (by rw [size_bytes]; decide) ?_ ?_
    · exact Command.read?_symbols symbols (by decide) (by decide) (by rw [size_bytes]; decide)
    · refine Command.readAll?_cons bindings (by decide) (by rw [size_bytes]; decide) ?_ rfl
      exact Command.read?_bindings bindings (by decide)
  rw [File.read?_of_commands header (by decide) (by rw [size_bytes]; decide) (by decide) (by rw [size_bytes]; decide)
    commands rfl]
  rfl

theorem sections?_file (present : Bool) : file.sections? (bytes present) = some sections := by
  obtain ⟨_, _, table, _⟩ := stands_parts present
  have read : file.segmentSections? (bytes present) ⟨⟨⟨paddedName []⟩⟩, 0, 1, 84⟩ = some sections :=
    File.segmentSections?_of_standsAt rfl storable_sections table rfl
  simp only [File.sections?, file, List.mapM_cons, List.mapM_nil] at read ⊢
  rw [read]
  rfl

theorem symbolEntries?_file (present : Bool) : file.symbolEntries? (bytes present) = some entries := by
  obtain ⟨_, _, _, _, _, listed, names⟩ := stands_parts present
  exact File.symbolEntries?_of_standsAt rfl rfl (by decide) listed names (by decide)

theorem ofFile_bytes : Binding.ofFile file (bytes true) = .bound [⟨0, 0, 0, "_g"⟩] := by decide +kernel

private theorem contents?_file (config : Config) : file.contents? (bytes true) config =
    .ok { contents config with stubs := [⟨0, displayName config "_g"⟩] } := by
  rw [File.contents?_of_read (sections?_file true) (symbolEntries?_file true), File.stubs?, ofFile_bytes, size_bytes]
  simp only [File.withoutStubs, FunctionSize.infer_eq]
  rfl

def image (config : Config) : Image :=
  .ofContents config (bytes true) { contents config with stubs := [⟨0, displayName config "_g"⟩] }

theorem load_bytes (config : Config) : Image.load none config (.regular (bytes true)) = .ok (image config) :=
  Image.load_detected_eq_ok_iff.mpr ⟨_, .machO (read?_bytes true) (contents?_file config), rfl⟩

end BoundSlot

namespace Image

open MachO (ListsFunction)

private theorem listsFunction_boundSlot : ListsFunction (BoundSlot.bytes true) "_" := by
  refine ⟨_, _, _, BoundSlot.read?_bytes true, BoundSlot.sections?_file true, BoundSlot.symbolEntries?_file true,
    ⟨"_", 0x0e, 1, 0⟩, ?_, rfl⟩
  rw [BoundSlot.size_bytes true]
  decide

theorem functions_of_keptBoundSlot : ∃ image, load none .keeping (.regular (BoundSlot.bytes true)) = .ok image ∧
    ListsFunction (BoundSlot.bytes true) "_" ∧ image.NamesFunctions ∧
    image.resolveBy .tables "" = .error (.unknownSymbol "") ∧ image.nameAt? 0 ≠ some "" := by
  have opened := BoundSlot.load_bytes .keeping
  obtain ⟨named, unknown, nowhere⟩ := functions_named_iff opened
  have kept := named.mpr fun strips => Bool.noConfusion strips.1
  exact ⟨_, opened, listsFunction_boundSlot, kept, (unknown .tables).mpr kept, nowhere kept 0⟩

/-- Without its underscores the same file has a function without a name, which is found by the empty name and is the
answer for its address. -/
theorem functions_of_boundSlot : ∃ image, load none {} (.regular (BoundSlot.bytes true)) = .ok image ∧
    ⟨"", 0, 2⟩ ∈ image.symbols.entries ∧ image.resolveBy .tables "" ≠ .error (.unknownSymbol "") ∧
    image.nameAt? 0 = some "" := by
  have opened := BoundSlot.load_bytes {}
  have listed : ⟨"", 0, 2⟩ ∈ (BoundSlot.image {}).symbols.entries := .head _
  refine ⟨_, opened, listed, fun unknown => ?_, ?_⟩
  · exact (resolveBy_eq_unknownSymbol_iff opened .tables "").mp unknown _ listed rfl
  · have scanned := SymbolTable.startingAt?_ofList (BoundSlot.contents {}).symbols 0
    exact congrArg (Option.map Symbol.name) scanned

end Image

end ObjectLens

import ObjectLens.Elf.Contents
import ObjectLens.Proofs.FixtureRelocations

/-! The functions of a fixture. Its symbol table gives back the functions with names, in the order of the description;
without a symbol table the dynamic symbols give back the exported ones, where the dynamic segment leads to them. -/

namespace ObjectLens

open Elf
open Bytes (ofList)

namespace Elf

/-- The function that an entry stands for, if the file holds it and it has a name. -/
def SymbolEntry.function? (entry : SymbolEntry) (names : StringTable) : Option Symbol :=
  if entry.isDefinedFunction then (names.properName? entry.name).map fun name => ⟨name, entry.value, entry.size⟩
  else none

private theorem File.functions_eq (file : File) : file.functions =
    if file.symbols.isEmpty then file.dynamic.symbols.filterMap (·.function? file.dynamic.names)
    else file.symbols.filterMap (·.function? file.symbolNames) := by
  simp only [functions, List.filterMap_filter]
  split <;> rfl

end Elf

namespace Fixture

variable {fixture : Fixture} {bytes : Bytes}

/-- The function that a symbol describes, if it is one with a name. -/
def Symbol.function? (found : Fixture.Symbol) : Option ObjectLens.Symbol :=
  if found.kind = .function ∧ found.name ≠ "" then some ⟨found.name, found.address, found.size⟩ else none

def functions (fixture : Fixture) : List ObjectLens.Symbol := fixture.symbols.filterMap (·.function?)

def exportedFunctions (fixture : Fixture) : List ObjectLens.Symbol := fixture.exported.filterMap (·.function?)

/-- Each name of the symbol table starts where the four bytes of an entry can tell. -/
def NamesReachable (fixture : Fixture) : Prop :=
  ∀ index < fixture.symbols.length, nameOffset (fixture.symbols.map (·.name)) index < 0x100000000

/-- Every name of a table of no more than four gigabytes can be told. -/
theorem namesReachable_of_length (small : (storedNames (fixture.symbols.map (·.name))).length ≤ 0x100000000) :
    fixture.NamesReachable := by
  intro index short
  have before := nameOffset_lt (show index < (fixture.symbols.map (·.name)).length by simpa using short)
  omega

private theorem sectionIndex_ne_zero (address : Nat) : Symbol.sectionIndex address % 0x10000 ≠ 0 := by
  simp only [Symbol.sectionIndex]
  split
  · decide
  · split <;> decide

private theorem isDefinedFunction_entry (found : Fixture.Symbol) (name : Nat) :
    (found.entry name).cut.isDefinedFunction = decide (found.kind = .function) := by
  have index := sectionIndex_ne_zero found.address
  cases kind : found.kind <;>
    simp [SymbolEntry.isDefinedFunction, SymbolEntry.kind, SymbolEntry.cut, Symbol.entry, SymbolEntry.function,
      SymbolEntry.indirectFunction, kind, index]

theorem function?_entry {found : Fixture.Symbol} {names : List String} {index : Nat}
    (named : names[index]? = some found.name) (free : ZeroFree found.name)
    (reach : nameOffset names index < 0x100000000) (word : found.address < Word.limit ∧ found.size < Word.limit) :
    (found.entry (nameOffset names index)).cut.function? ⟨ofList (storedNames names)⟩ = found.function? := by
  obtain ⟨inside, here⟩ := List.getElem?_eq_some_iff.mp named
  have place : (found.entry (nameOffset names index)).cut.name = nameOffset names index := Nat.mod_eq_of_lt reach
  have address : (found.entry (nameOffset names index)).cut.value = found.address := Nat.mod_eq_of_lt word.1
  have size : (found.entry (nameOffset names index)).cut.size = found.size := Nat.mod_eq_of_lt word.2
  have read : StringTable.name? ⟨ofList (storedNames names)⟩ (nameOffset names index) = some found.name := by
    rw [name?_storedNames inside (by rw [here]; exact free), here]
  simp only [SymbolEntry.function?, isDefinedFunction_entry, place, address, size, StringTable.properName?, read,
    Symbol.function?]
  by_cases kind : found.kind = .function <;> by_cases empty : found.name = "" <;> simp [kind, empty]

/-- The entries of some symbols stand for the functions that these describe, in their order. -/
private theorem filterMap_entries {symbols : List Fixture.Symbol} {names : List String}
    (named : ∀ index < symbols.length, names[index]? = (symbols.map (·.name))[index]?)
    (free : ∀ found ∈ symbols, ZeroFree found.name)
    (reach : ∀ index < symbols.length, nameOffset names index < 0x100000000)
    (words : ∀ found ∈ symbols, found.address < Word.limit ∧ found.size < Word.limit) :
    (symbols.zipIdx.map fun (found, index) => (found.entry (nameOffset names index)).cut).filterMap
      (·.function? ⟨ofList (storedNames names)⟩) = symbols.filterMap (·.function?) := by
  have each : ∀ listed ∈ symbols.zipIdx, (listed.1.entry (nameOffset names listed.2)).cut.function?
      ⟨ofList (storedNames names)⟩ = listed.1.function? := by
    rintro ⟨found, index⟩ member
    have listed := List.mem_zipIdx_iff_getElem?.mp member
    have inside := (List.getElem?_eq_some_iff.mp listed).1
    have member := List.mem_of_getElem? listed
    refine function?_entry ?_ (free found member) (reach index inside) (words found member)
    rw [named index inside, List.getElem?_map, listed]
    rfl
  calc
    _ = symbols.zipIdx.filterMap (fun listed => listed.1.function?) := by
      rw [List.filterMap_map]
      exact List.filterMap_congr each
    _ = (symbols.zipIdx.map Prod.fst).filterMap (·.function?) := by
      rw [List.filterMap_map]
      rfl
    _ = symbols.filterMap (·.function?) := by
      rw [List.zipIdx_map_fst]

private theorem function?_nullEntry (names : StringTable) : nullEntry.cut.function? names = none := rfl

/-- The functions of a file with a symbol table are told by its entries and their names. -/
theorem functions_file_of_kept (kept : fixture.stripped = false) {names : List String}
    (listed : fixture.symbols.map (·.name) = names) : fixture.file.functions =
      (fixture.symbols.zipIdx.map fun (found, index) => (found.entry (nameOffset names index)).cut).filterMap
        (·.function? ⟨ofList (storedNames names)⟩) := by
  subst listed
  have symbols : fixture.file.symbols = fixture.symbolEntries.map SymbolEntry.cut := by
    simp only [file, kept, Bool.false_eq_true, ite_false]
  have names : fixture.file.symbolNames = ⟨ofList (storedNames (fixture.symbols.map (·.name)))⟩ := by
    simp only [file, kept, Bool.false_eq_true, ite_false]
  have some : ¬ (fixture.symbolEntries.map SymbolEntry.cut).isEmpty = true := by simp [symbolEntries]
  rw [File.functions_eq, symbols, names, if_neg some, symbolEntries, List.map_cons, List.filterMap_cons,
    function?_nullEntry, List.map_map]
  rfl

theorem functions_file (numbers : fixture.NumbersFit) (kept : fixture.stripped = false)
    (free : ∀ found ∈ fixture.symbols, ZeroFree found.name) (reach : fixture.NamesReachable) :
    fixture.file.functions = fixture.functions :=
  (functions_file_of_kept kept rfl).trans (filterMap_entries (fun _ _ => rfl) free reach numbers.symbols)

private theorem function?_importEntry (name : Nat) (names : StringTable) :
    (importEntry name).cut.function? names = none := by
  simp [SymbolEntry.function?, SymbolEntry.isDefinedFunction, SymbolEntry.cut, importEntry]

private theorem filterMap_dynamicEntries (made : fixture.Built bytes) (numbers : fixture.NumbersFit)
    (free : ∀ found ∈ fixture.exported, ZeroFree found.name) :
    (fixture.dynamicEntries.map SymbolEntry.cut).filterMap
      (·.function? ⟨ofList (storedNames fixture.dynamicNames)⟩) = fixture.exportedFunctions := by
  have named (index : Nat) (inside : index < fixture.exported.length) :
      fixture.dynamicNames[index]? = (fixture.exported.map (·.name))[index]? := by
    rw [dynamicNames, List.append_assoc, List.getElem?_append_left (by rw [List.length_map]; exact inside)]
  have reach (index : Nat) (inside : index < fixture.exported.length) :
      nameOffset fixture.dynamicNames index < 0x100000000 := by
    refine nameOffset_dynamicNames_lt made ?_
    rw [length_dynamicNames]
    omega
  have words (found : Fixture.Symbol) (member : found ∈ fixture.exported) :
      found.address < Word.limit ∧ found.size < Word.limit :=
    numbers.symbols found (List.mem_filter.mp member).1
  have exports := filterMap_entries named free reach words
  have imports : ((fixture.imports ++ fixture.gotImports).zipIdx.map fun listed =>
      (importEntry (nameOffset fixture.dynamicNames (fixture.exported.length + listed.2))).cut).filterMap
        (·.function? ⟨ofList (storedNames fixture.dynamicNames)⟩) = [] := by
    refine List.filterMap_eq_nil_iff.mpr fun entry member => ?_
    obtain ⟨listed, _, rfl⟩ := List.mem_map.mp member
    exact function?_importEntry _ _
  rw [dynamicEntries, List.map_cons, List.filterMap_cons, function?_nullEntry, List.map_append, List.filterMap_append,
    List.map_map, List.map_map]
  exact (congrArg₂ (· ++ ·) exports imports).trans (List.append_nil _)

/-- The dynamic segment leads to the dynamic symbols, but only by way of the relocations of imports. -/
def FindsDynamicSymbols (fixture : Fixture) : Prop :=
  fixture.dynamicSegment = true ∧ (fixture.imports ≠ [] ∨ fixture.gotImports ≠ [])

instance (fixture : Fixture) : Decidable fixture.FindsDynamicSymbols := inferInstanceAs (Decidable (_ ∧ _))

/-- Without a symbol table the functions are the exported ones where the dynamic symbols are found, and none else. -/
theorem functions_file_of_stripped (made : fixture.Built bytes) (numbers : fixture.NumbersFit)
    (gone : fixture.stripped = true) (free : ∀ found ∈ fixture.exported, ZeroFree found.name) :
    fixture.file.functions = if fixture.FindsDynamicSymbols then fixture.exportedFunctions else [] := by
  have symbols : fixture.file.symbols = [] := by simp only [file, gone, ite_true]
  rw [File.functions_eq, symbols, List.isEmpty_nil, if_pos rfl]
  by_cases finds : fixture.FindsDynamicSymbols
  · have dynamic : fixture.file.dynamic = fixture.linked := if_pos finds.1
    rw [dynamic, if_pos finds]
    show (fixture.linkedSymbols.map SymbolEntry.cut).filterMap _ = _
    rw [linkedSymbols_of_imports finds.2]
    exact filterMap_dynamicEntries made numbers free
  · rw [if_neg finds]
    cases kept : fixture.dynamicSegment with
    | true =>
      have dynamic : fixture.file.dynamic = fixture.linked := if_pos kept
      have none := not_or.mp fun present => finds ⟨kept, present⟩
      rw [dynamic]
      show (fixture.linkedSymbols.map SymbolEntry.cut).filterMap _ = _
      rw [linkedSymbols_of_none (not_not.mp none.1) (not_not.mp none.2)]
      rfl
    | false =>
      have dynamic : fixture.file.dynamic = ⟨[], ⟨ofList []⟩, [], [], []⟩ := if_neg (by simp [kept])
      rw [dynamic]
      rfl

end Fixture

end ObjectLens

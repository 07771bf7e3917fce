import ObjectLens.Proofs.FixtureReading
import ObjectLens.Proofs.LinkedRelocations
import ObjectLens.Proofs.StubSlots

/-! The relocations of a fixture, with the names of their imports. The dynamic segment and the section headers lead to
the same relocations; only the order of the two tables depends on which of them is followed. -/

namespace ObjectLens.Fixture

open Elf
open Bytes (ofList)

variable {fixture : Fixture} {bytes : Bytes}

/-- The name in a list as it is read back: as far as its first zero character, unless nothing is in front of that. -/
def readName? (names : List String) (index : Nat) : Option String :=
  (names[index]?.map beforeZero).filter (· ≠ "")

/-- The relocations of the procedure linkage table with the names of its imports. -/
def pltBindings (fixture : Fixture) : List NamedRelocation :=
  slotRelocations fixture.imports.length gotSlot (readName? fixture.imports)

def gotBindings (fixture : Fixture) : List NamedRelocation :=
  slotRelocations fixture.gotImports.length dataGotSlot (readName? fixture.gotImports)

/-- The name of the import whose slot is also that of an import of `.plt.got`, from the thirty-fifth one on. -/
def sharedName? (fixture : Fixture) (index : Nat) : Option String :=
  if 35 ≤ index then readName? fixture.imports (index - 35) else none

/-- The name that a slot of `.plt.got` is bound to: that of its import, or of the other import whose slot it is. The
dynamic segment tells the former first, and the section headers tell the latter first. -/
def boundName? (fixture : Fixture) (index : Nat) : Option String :=
  if fixture.dynamicSegment then (readName? fixture.gotImports index).or (fixture.sharedName? index)
  else (fixture.sharedName? index).or (readName? fixture.gotImports index)

theorem readName?_of_zeroFree {names : List String} (free : ∀ name ∈ names, ZeroFree name) (index : Nat) :
    readName? names index = names[index]?.filter (· ≠ "") := by
  rw [readName?]
  cases named : names[index]? with
  | none => rfl
  | some name => rw [Option.map_some, beforeZero_of_zeroFree (free name (List.mem_of_getElem? named))]

theorem readName?_of_le {names : List String} {index : Nat} (outside : names.length ≤ index) :
    readName? names index = none := by
  rw [readName?, List.getElem?_eq_none outside]
  rfl

/-! ### Names -/

private theorem getElem?_dynamicNames (index : Nat) :
    fixture.dynamicNames[fixture.exported.length + index]? = (fixture.imports ++ fixture.gotImports)[index]? := by
  rw [dynamicNames, List.append_assoc, List.getElem?_append_right (by simp), List.length_map, Nat.add_sub_cancel_left]

private theorem getElem?_dynamicEntries {index : Nat}
    (inside : index < (fixture.imports ++ fixture.gotImports).length) :
    fixture.dynamicEntries[fixture.firstImport + index]? =
      some (importEntry (nameOffset fixture.dynamicNames (fixture.exported.length + index))) := by
  have place : fixture.firstImport + index = (fixture.exported.length + index) + 1 := by
    simp only [firstImport]
    omega
  rw [place, dynamicEntries, List.getElem?_cons_succ, List.getElem?_append_right (by simp), List.getElem?_map,
    List.getElem?_zipIdx, List.getElem?_eq_getElem (by simpa using inside)]
  simp

private theorem lt_length_dynamicNames {index : Nat} (inside : index < (fixture.imports ++ fixture.gotImports).length) :
    fixture.exported.length + index < fixture.dynamicNames.length := by
  rw [length_dynamicNames]
  rw [List.length_append] at inside
  omega

theorem nameOffset_dynamicNames_lt (made : fixture.Built bytes) {index : Nat}
    (inside : index < fixture.dynamicNames.length) : nameOffset fixture.dynamicNames index < 0x100000000 := by
  have before := nameOffset_lt inside
  have area := stop_dynamicNameBlock_le made
  simp only [Block.stop, dynamicNameBlock, textAddress] at area
  omega

private theorem ofRelocation_import (made : fixture.Built bytes) (offset : Nat) {index : Nat}
    (inside : index < (fixture.imports ++ fixture.gotImports).length) :
    NamedRelocation.ofRelocation (fixture.dynamicEntries.map SymbolEntry.cut)
      ⟨ofList (storedNames fixture.dynamicNames)⟩ ⟨offset, fixture.firstImport + index⟩ =
      ⟨offset, readName? (fixture.imports ++ fixture.gotImports) index⟩ := by
  have listed := lt_length_dynamicNames inside
  have place : (importEntry (nameOffset fixture.dynamicNames (fixture.exported.length + index))).cut.name =
      nameOffset fixture.dynamicNames (fixture.exported.length + index) :=
    Nat.mod_eq_of_lt (nameOffset_dynamicNames_lt made listed)
  have named : fixture.dynamicNames[fixture.exported.length + index] =
      (fixture.imports ++ fixture.gotImports)[index] := by
    have same := fixture.getElem?_dynamicNames index
    rw [List.getElem?_eq_getElem listed, List.getElem?_eq_getElem inside] at same
    exact Option.some.inj same
  have symbol : ¬ fixture.firstImport + index = 0 := by
    simp only [firstImport]
    omega
  rw [NamedRelocation.ofRelocation, if_neg symbol, List.getElem?_map, getElem?_dynamicEntries inside, Option.map_some,
    Option.bind_some, place, StringTable.properName?, name?_beforeZero listed, named, readName?,
    List.getElem?_eq_getElem inside, Option.map_some]

/-- A run of relocations for imports that follow each other has the names of these. -/
private theorem map_importRelocations (made : fixture.Built bytes) {names : List String} {shift : Nat}
    (offset : Nat → Nat)
    (listed : ∀ index < names.length, (fixture.imports ++ fixture.gotImports)[shift + index]? = names[index]?) :
    ((List.range names.length).map fun index =>
        (⟨offset index, fixture.firstImport + (shift + index)⟩ : Relocation)).map
      (.ofRelocation (fixture.dynamicEntries.map SymbolEntry.cut) ⟨ofList (storedNames fixture.dynamicNames)⟩) =
      slotRelocations names.length offset (readName? names) := by
  rw [slotRelocations, List.map_map]
  refine List.map_congr_left fun index member => ?_
  have short := List.mem_range.mp member
  have same := listed index short
  have inside : shift + index < (fixture.imports ++ fixture.gotImports).length := by
    rw [List.getElem?_eq_getElem short] at same
    exact (List.getElem?_eq_some_iff.mp same).1
  rw [Function.comp_apply, ofRelocation_import made _ inside, readName?, same, readName?]

private theorem map_pltRelocations (made : fixture.Built bytes) :
    fixture.pltRelocations.map (.ofRelocation (fixture.dynamicEntries.map SymbolEntry.cut)
      ⟨ofList (storedNames fixture.dynamicNames)⟩) = fixture.pltBindings := by
  have front (index : Nat) (short : index < fixture.imports.length) :
      (fixture.imports ++ fixture.gotImports)[0 + index]? = fixture.imports[index]? := by
    rw [Nat.zero_add, List.getElem?_append_left short]
  have named := map_importRelocations made gotSlot front
  simp only [Nat.zero_add] at named
  exact named

private theorem map_gotRelocations (made : fixture.Built bytes) :
    fixture.gotRelocations.map (.ofRelocation (fixture.dynamicEntries.map SymbolEntry.cut)
      ⟨ofList (storedNames fixture.dynamicNames)⟩) = fixture.gotBindings := by
  have back (index : Nat) (_ : index < fixture.gotImports.length) :
      (fixture.imports ++ fixture.gotImports)[fixture.imports.length + index]? = fixture.gotImports[index]? := by
    rw [List.getElem?_append_right (Nat.le_add_right _ _), Nat.add_sub_cancel_left]
  have named := map_importRelocations made dataGotSlot back
  simp only [← Nat.add_assoc] at named
  exact named

/-! ### The dynamic segment -/

theorem linkedSymbols_of_imports (present : fixture.imports ≠ [] ∨ fixture.gotImports ≠ []) :
    fixture.linkedSymbols = fixture.dynamicEntries := by
  refine if_neg ?_
  rw [Bool.and_eq_true, List.isEmpty_iff, List.isEmpty_iff]
  rintro ⟨first, second⟩
  rcases present with present | present
  · exact present first
  · exact present second

theorem linkedSymbols_of_none (none : fixture.imports = []) (nothing : fixture.gotImports = []) :
    fixture.linkedSymbols = [] := by
  simp [linkedSymbols, none, nothing]

/-- Where there are imports, the dynamic segment leads to all of the dynamic symbols. -/
private theorem named_of_imports (made : fixture.Built bytes) (kept : fixture.dynamicSegment = true)
    (present : fixture.imports ≠ [] ∨ fixture.gotImports ≠ []) :
    fixture.file.named fixture.pltRelocations = fixture.pltBindings ∧
      fixture.file.named fixture.gotRelocations = fixture.gotBindings := by
  have dynamic : fixture.file.dynamic = fixture.linked := if_pos kept
  have symbols : fixture.linked.symbols = fixture.dynamicEntries.map SymbolEntry.cut := by
    show fixture.linkedSymbols.map _ = _
    rw [linkedSymbols_of_imports present]
  constructor
  · rw [File.named, dynamic, symbols]
    exact map_pltRelocations made
  · rw [File.named, dynamic, symbols]
    exact map_gotRelocations made

/-! ### The section headers -/

private theorem sectionName_pltRelocationHeader (fixture : Fixture) :
    fixture.file.sectionName fixture.pltRelocationHeader = ".rela.plt" := by
  refine sectionName_headerOf rfl ?_
  simp [listedSections, namedSections, fixedSections]

private theorem sectionName_gotRelocationHeader (some : fixture.gotImports.isEmpty = false) :
    fixture.file.sectionName fixture.gotRelocationHeader = ".rela.dyn" := by
  refine sectionName_headerOf rfl ?_
  simp [listedSections, namedSections, fixedSections, stubSections, some]

private theorem linkedSymbols?_file (made : fixture.Built bytes) : fixture.file.linkedSymbols? bytes 1 =
    some (fixture.dynamicEntries.map SymbolEntry.cut, ⟨ofList (storedNames fixture.dynamicNames)⟩) := by
  have symbols : fixture.listedSections[0]? =
      some (".dynsym", mappedSection fixture.dynamicSymbolBlock Section.dynamicSymbolTable 2 2 1 8 24) := by
    simp [listedSections, namedSections, fixedSections]
  have strings : fixture.listedSections[1]? =
      some (".dynstr", mappedSection fixture.dynamicNameBlock Section.stringTable 2 0 0 1 0) := by
    simp [listedSections, namedSections, fixedSections]
  have length : fixture.dynamicSymbolBlock.content.length = 24 * fixture.dynamicEntries.length :=
    length_flatMap_of_uniform fun entry _ => entry.length_store
  refine File.linkedSymbols?_of_listed (getElem?_sectionHeaders symbols) (show 24 ≠ 0 by decide)
    (getElem?_sectionHeaders strings) ?_ (read?_storedNames (made.standsAt (by simp [blocks, bodyBlocks])) rfl)
  refine sectionSymbols?_of_standsAt (made.standsAt (by simp [blocks, bodyBlocks])) ?_
  show fixture.dynamicSymbolBlock.content.length / 24 = _
  omega

/-- Through the section headers both tables are found, that of the procedure linkage table in front. -/
theorem namedInSections_file (made : fixture.Built bytes) (names : List String) :
    fixture.file.namedInSections bytes names =
      (if ".rela.plt" ∈ names then fixture.pltBindings else []) ++
        (if ".rela.dyn" ∈ names then fixture.gotBindings else []) := by
  have linked := linkedSymbols?_file made
  have plt : fixture.file.linkedSymbols? bytes fixture.pltRelocationHeader.link = _ := linked
  have got : fixture.file.linkedSymbols? bytes fixture.gotRelocationHeader.link = _ := linked
  have front := fixture.sectionName_pltRelocationHeader
  cases none : fixture.gotImports.isEmpty with
  | true =>
    have nothing : fixture.gotBindings = [] := by
      rw [gotBindings, List.isEmpty_iff.mp none]
      rfl
    have tables : fixture.file.sectionRelocations = [(fixture.pltRelocationHeader, fixture.pltRelocations)] := by
      simp only [file, none, ite_true]
    rw [File.namedInSections, tables, nothing, ite_self, List.append_nil, List.flatMap_singleton]
    simp only [front, plt, map_pltRelocations made]
  | false =>
    have tables : fixture.file.sectionRelocations = [(fixture.pltRelocationHeader, fixture.pltRelocations),
        (fixture.gotRelocationHeader, fixture.gotRelocations)] := by
      simp only [file, none, Bool.false_eq_true, ite_false]
    have back := sectionName_gotRelocationHeader none
    rw [File.namedInSections, tables, List.flatMap_cons, List.flatMap_singleton]
    simp only [front, back, plt, got, map_pltRelocations made, map_gotRelocations made]

/-! ### Both -/

/-- The slots of the procedure linkage table are bound to its imports, whichever way leads there. -/
theorem pltRelocations_file (made : fixture.Built bytes) :
    fixture.file.pltRelocations bytes = fixture.pltBindings := by
  have sections : fixture.file.namedInSections bytes [".rela.plt", ".rel.plt"] = fixture.pltBindings := by
    rw [namedInSections_file made, if_pos (by decide), if_neg (by decide), List.append_nil]
  rw [File.pltRelocations]
  split
  · exact sections
  next some =>
    have kept : fixture.dynamicSegment = true := by
      by_contra gone
      apply some
      simp only [file, gone]
      rfl
    have dynamic : fixture.file.dynamic = fixture.linked := if_pos kept
    have present : fixture.imports ≠ [] := by
      intro none
      apply some
      rw [dynamic]
      simp [linked, pltRelocations, none]
    rw [dynamic]
    exact (named_of_imports made kept (.inl present)).1

/-- The dynamic segment tells the relocations of `.plt.got` first, and the section headers tell them last. -/
theorem gotRelocations_file (made : fixture.Built bytes) (present : fixture.gotImports ≠ []) :
    fixture.file.gotRelocations bytes =
      if fixture.dynamicSegment then fixture.gotBindings ++ fixture.pltBindings
      else fixture.pltBindings ++ fixture.gotBindings := by
  cases kept : fixture.dynamicSegment with
  | true =>
    have dynamic : fixture.file.dynamic = fixture.linked := if_pos kept
    have some : (fixture.gotRelocations ++ fixture.pltRelocations).isEmpty = false := by
      simp [gotRelocations, present]
    obtain ⟨plt, got⟩ := named_of_imports made kept (.inr present)
    simp only [File.gotRelocations, dynamic, linked, List.append_nil, some, Bool.false_eq_true, ite_false, ite_true]
    rw [← plt, ← got]
    exact List.map_append
  | false =>
    have dynamic : fixture.file.dynamic = ⟨[], ⟨ofList []⟩, [], [], []⟩ := by
      simp only [file, kept, Bool.false_eq_true, ite_false]
    simp only [File.gotRelocations, dynamic, List.append_nil, List.isEmpty_nil, ite_true, Bool.false_eq_true, ite_false]
    rw [namedInSections_file made, if_pos (by decide), if_pos (by decide)]

end ObjectLens.Fixture

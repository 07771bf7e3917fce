import ObjectLens.Proofs.InferredBodies

/-! Which section of a Mach-O file the size of a function comes from. The symbols name their sections, but only their
addresses are kept, so the first section of code that contains the address decides. It need not be the symbol's own:
a symbol at the end of its section has the address at which another section may start. -/

namespace ObjectLens

namespace FunctionSize

variable {starts : List Nat} {regions : List Region} {region : Region} {address : Nat}

/-- The distance of an address to the next start of a function in a region, or to the region's end, and zero outside of
the region. -/
def sizeIn (starts : List Nat) (region : Region) (address : Nat) : Nat :=
  if region.Contains address then (nextStartIn? starts region address).getD region.stop - address else 0

private theorem sizeIn_of_contains (inside : region.Contains address) :
    sizeIn starts region address = stopIn starts address region - address := by
  rw [sizeIn, if_pos inside, stopIn_eq inside.1]

private theorem sizeIn_of_not_contains (outside : ¬ region.Contains address) : sizeIn starts region address = 0 :=
  if_neg outside

theorem sizeAt_eq_sizeIn_of_home (home : Region.home? regions address = some region) :
    sizeAt starts regions address = sizeIn starts region address := by
  rw [sizeIn_of_contains (Region.home?_contains home), ← (sizeAt_of_home starts home).2, Nat.add_sub_cancel_left]

/-- Inside of a region that contains the address, the first one that does tells the same size exactly if it tells the
same end. -/
theorem sizeAt_eq_sizeIn_iff_of_contains (present : region ∈ regions) (inside : region.Contains address) :
    sizeAt starts regions address = sizeIn starts region address ↔
      ∃ home, Region.home? regions address = some home ∧
        stopIn starts address home = stopIn starts address region := by
  obtain ⟨home, first⟩ := Region.exists_home? present inside
  have later := lt_stopIn starts inside
  have laterFirst := lt_stopIn starts (Region.home?_contains first)
  rw [sizeAt_eq_sizeIn_of_home first, sizeIn_of_contains inside, sizeIn_of_contains (Region.home?_contains first)]
  constructor
  · intro same
    exact ⟨home, first, by omega⟩
  · rintro ⟨other, again, same⟩
    obtain rfl := Option.some.inj (first.symm.trans again)
    rw [same]

private theorem sizeAt_eq_sizeIn_iff_of_not_contains (outside : ¬ region.Contains address) :
    sizeAt starts regions address = sizeIn starts region address ↔ ∀ other ∈ regions, ¬ other.Contains address := by
  rw [sizeIn_of_not_contains outside, sizeAt_eq_zero_iff]

end FunctionSize

namespace MachO.File

variable {sections : List Section} {fileSize index address : Nat} {entry : SymbolEntry} {own : Section}

/-- The symbols that are listed as functions: those that name a section of code and have a name themselves. -/
def functionEntries (sections : List Section) (fileSize : Nat) (entries : List SymbolEntry) : List SymbolEntry :=
  entries.filter fun entry =>
    !entry.isDebugging && entry.isDefined &&
      ((codeSections sections fileSize).map (·.2)).contains entry.sectionOrdinal && entry.name ≠ ""

theorem mem_codeSections : (own, index) ∈ codeSections sections fileSize ↔
    1 ≤ index ∧ sections[index - 1]? = some own ∧ own.isCode fileSize := by
  simp only [codeSections, List.mem_filter, List.mk_mem_zipIdx_iff_le_and_getElem?_sub, and_assoc]

/-- The ordinal of a listed symbol leads to a section of code. -/
private theorem ownSection_of_functionEntries {entries : List SymbolEntry}
    (listed : entry ∈ functionEntries sections fileSize entries) :
    ∃ own, (own, entry.sectionOrdinal) ∈ codeSections sections fileSize := by
  have usable := (List.mem_filter.mp listed).2
  simp only [Bool.and_eq_true, List.contains_iff_mem, List.mem_map] at usable
  obtain ⟨⟨_, ⟨own, _⟩, member, rfl⟩, _⟩ := usable
  exact ⟨own, member⟩

private theorem codeSections_ascending (sections : List Section) (fileSize : Nat) :
    (codeSections sections fileSize).Pairwise fun first second => first.2 < second.2 := by
  apply List.Pairwise.filter
  have ordinals : ((sections.zipIdx 1).map Prod.snd).Pairwise (· < ·) := by
    rw [List.zipIdx_map_snd]
    exact List.pairwise_lt_range'
  exact List.pairwise_map.mp ordinals

/-- A section of code that contains an address is the address's home if no section of code in front of it contains the
address. -/
private theorem home?_of_none_before (present : (own, index) ∈ codeSections sections fileSize)
    (inside : own.region.Contains address)
    (before : ∀ earlier other, earlier < index → (other, earlier) ∈ codeSections sections fileSize →
      ¬ other.region.Contains address) :
    Region.home? ((codeSections sections fileSize).map (·.1.region)) address = some own.region := by
  have ascending := codeSections_ascending sections fileSize
  obtain ⟨front, back, split⟩ := List.append_of_mem present
  rw [split, List.pairwise_append] at ascending
  rw [Region.home?, List.find?_map]
  have first : (codeSections sections fileSize).find? (fun found => found.1.region.Contains address) =
      some (own, index) := by
    refine List.find?_eq_some_iff_append.mpr ⟨decide_eq_true inside, front, back, split, ?_⟩
    rintro ⟨other, earlier⟩ member
    have listed : (other, earlier) ∈ codeSections sections fileSize := split ▸ List.mem_append_left _ member
    have smaller : earlier < index := ascending.2.2 _ member _ (List.mem_cons_self ..)
    simpa using before earlier other smaller listed
  simp only [Function.comp_def, first, Option.map_some]

end MachO.File

namespace Image

open FunctionSize (sizeAt sizeIn stopIn)
open MachO (Section SymbolEntry displayName)
open MachO.File (codeSections functionEntries)

variable {format : Option Format} {config : Config} {bytes : Bytes} {image : Image} {index : Nat} {symbol : Symbol}

/-- The tables of an image from a Mach-O file. Only the address of a symbol has a part in its size. -/
theorem load_machO (opened : load format config (.regular bytes) = .ok image) (machO : image.format = .machO) :
    ∃ file sections entries, MachO.File.read? bytes = some file ∧ file.sections? bytes = some sections ∧
      file.symbolEntries? bytes = some entries ∧
      image.regions = (codeSections sections bytes.size).map (·.1.region) ∧
      image.symbols.entries = (functionEntries sections bytes.size entries).map fun entry =>
        ⟨displayName config entry.name, entry.value, sizeAt image.starts image.regions entry.value⟩ := by
  obtain ⟨found, reads, rfl⟩ := load_reads opened
  cases reads with
  | elf read => cases machO
  | pe read => cases machO
  | @machO file _ read usable =>
    obtain ⟨sections, entries, sectionsRead, entriesRead, _, regions, symbols⟩ := MachO.File.contents?_eq_ok usable
    refine ⟨file, sections, entries, read, sectionsRead, entriesRead, regions, ?_⟩
    have addresses := FunctionSize.map_address_infer
      (MachO.File.functions config ((codeSections sections bytes.size).map (·.2)) entries) found.regions
    rw [← symbols] at addresses
    have starts : (ofContents config bytes found).starts =
        ((functionEntries sections bytes.size entries).map (·.value)) := by
      rw [starts]
      refine addresses.trans ?_
      simp only [MachO.File.functions, List.map_map]
      rfl
    rw [starts]
    refine symbols.trans ?_
    simp only [FunctionSize.infer_eq, MachO.File.functions, List.map_map]
    rfl

/-- A Mach-O symbol tells its section, but its size is that of the first section of code that contains its address. So
the size is the one in the symbol's own section exactly if this section contains the address and lets the function end
where the first one does, or if no section of code contains the address at all. For a symbol inside of its own section
that is certain where no section of code in front of the own one contains the address. -/
theorem function_size_of_section (opened : load format config (.regular bytes) = .ok image)
    (machO : image.format = .machO) :
    ∃ file sections entries, MachO.File.read? bytes = some file ∧ file.sections? bytes = some sections ∧
      file.symbolEntries? bytes = some entries ∧
      ∀ (index : Nat) (symbol : Symbol), image.symbols.entries[index]? = some symbol →
        ∃ (entry : SymbolEntry) (own : Section), (functionEntries sections bytes.size entries)[index]? = some entry ∧
          symbol.name = displayName config entry.name ∧ symbol.address = entry.value ∧
          1 ≤ entry.sectionOrdinal ∧ sections[entry.sectionOrdinal - 1]? = some own ∧ own.isCode bytes.size ∧
          own.region ∈ image.regions ∧
          (symbol.size = sizeIn image.starts own.region symbol.address ↔
            (own.region.Contains symbol.address ∧ ∃ home, Region.home? image.regions symbol.address = some home ∧
              stopIn image.starts symbol.address home = stopIn image.starts symbol.address own.region) ∨
            ∀ region ∈ image.regions, ¬ region.Contains symbol.address) ∧
          (own.region.Contains symbol.address →
            (∀ earlier other, earlier < entry.sectionOrdinal - 1 → sections[earlier]? = some other →
              other.isCode bytes.size → ¬ other.region.Contains symbol.address) →
            symbol.size = sizeIn image.starts own.region symbol.address) := by
  obtain ⟨file, sections, entries, read, sectionsRead, entriesRead, regions, symbols⟩ := load_machO opened machO
  refine ⟨file, sections, entries, read, sectionsRead, entriesRead, fun index symbol here => ?_⟩
  rw [symbols, List.getElem?_map, Option.map_eq_some_iff] at here
  obtain ⟨entry, listed, rfl⟩ := here
  -- That the symbol is listed means that its ordinal is one of a section of code.
  obtain ⟨own, member⟩ := MachO.File.ownSection_of_functionEntries (List.mem_of_getElem? listed)
  obtain ⟨positive, named, code⟩ := MachO.File.mem_codeSections.mp member
  have present : own.region ∈ image.regions := regions ▸ List.mem_map.mpr ⟨_, member, rfl⟩
  refine ⟨entry, own, listed, rfl, rfl, positive, named, code, present, ?_, fun inside before => ?_⟩
  · dsimp only
    by_cases inside : own.region.Contains entry.value
    · have somewhere : ¬ ∀ region ∈ image.regions, ¬ region.Contains entry.value :=
        fun nowhere => nowhere own.region present inside
      rw [FunctionSize.sizeAt_eq_sizeIn_iff_of_contains present inside]
      simp only [inside, somewhere, true_and, or_false]
    · rw [FunctionSize.sizeAt_eq_sizeIn_iff_of_not_contains inside]
      simp only [inside, false_and, false_or]
  · apply FunctionSize.sizeAt_eq_sizeIn_of_home
    rw [regions]
    refine MachO.File.home?_of_none_before member inside fun earlier other smaller here => ?_
    obtain ⟨counted, otherNamed, otherCode⟩ := MachO.File.mem_codeSections.mp here
    exact before (earlier - 1) other (by omega) otherNamed otherCode

private theorem functionEntries_adjacentSections :
    functionEntries AdjacentSections.sections AdjacentSections.bytes.size AdjacentSections.entries =
      [⟨"_f", 0x0e, 1, 0⟩, ⟨"_e", 0x0e, 1, 2⟩] := by
  rw [AdjacentSections.size_bytes]
  decide

/-- The first symbol of the two is inside of its section and has its size from there. -/
theorem first_size_of_adjacentSections : load none {} (.regular AdjacentSections.bytes) = .ok AdjacentSections.image ∧
    AdjacentSections.image.format = .machO ∧
    ∃ entry own, (functionEntries AdjacentSections.sections AdjacentSections.bytes.size AdjacentSections.entries)[0]? =
        some entry ∧
      AdjacentSections.image.symbols.entries[0]? = some ⟨"f", 0, 2⟩ ∧
      AdjacentSections.sections[entry.sectionOrdinal - 1]? = some own ∧
      2 = sizeIn AdjacentSections.image.starts own.region 0 := by
  refine ⟨AdjacentSections.load_bytes, rfl, ?_⟩
  obtain ⟨file, sections, entries, read, sectionsRead, entriesRead, sizes⟩ :=
    function_size_of_section AdjacentSections.load_bytes rfl
  obtain rfl := Option.some.inj (AdjacentSections.read?_bytes.symm.trans read)
  obtain rfl := Option.some.inj (AdjacentSections.sections?_file.symm.trans sectionsRead)
  obtain rfl := Option.some.inj (AdjacentSections.symbolEntries?_file.symm.trans entriesRead)
  obtain ⟨entry, own, listed, _, _, _, named, _, _, _, certain⟩ := sizes 0 ⟨"f", 0, 2⟩ rfl
  refine ⟨entry, own, listed, rfl, named, ?_⟩
  rw [functionEntries_adjacentSections] at listed
  cases listed
  cases named
  apply certain (by decide)
  intro earlier _ front
  exact absurd front (Nat.not_lt_zero earlier)

/-- The second symbol of the two is at the end of its section, but its size is that of the section that starts there. -/
theorem second_size_of_adjacentSections : ∃ entry own,
    load none {} (.regular AdjacentSections.bytes) = .ok AdjacentSections.image ∧
      AdjacentSections.image.format = .machO ∧
      MachO.File.read? AdjacentSections.bytes = some AdjacentSections.file ∧
      AdjacentSections.file.sections? AdjacentSections.bytes = some AdjacentSections.sections ∧
      AdjacentSections.file.symbolEntries? AdjacentSections.bytes = some AdjacentSections.entries ∧
      (functionEntries AdjacentSections.sections AdjacentSections.bytes.size AdjacentSections.entries)[1]? =
        some entry ∧
      AdjacentSections.image.symbols.entries[1]? = some ⟨"e", 2, 2⟩ ∧ entry.value = 2 ∧
      AdjacentSections.sections[entry.sectionOrdinal - 1]? = some own ∧ own.region.stop = 2 ∧
      ¬ own.region.Contains 2 ∧ sizeIn AdjacentSections.image.starts own.region 2 = 0 := by
  refine ⟨⟨"_e", 0x0e, 1, 2⟩, ⟨"__a", 0, 2, 244, 0x80000400⟩, AdjacentSections.load_bytes, rfl,
    AdjacentSections.read?_bytes, AdjacentSections.sections?_file, AdjacentSections.symbolEntries?_file, ?_, rfl, rfl,
    rfl, by decide, by decide, by decide⟩
  rw [functionEntries_adjacentSections]
  rfl

end Image

end ObjectLens

import ObjectLens.Proofs.LinkedRelocations
import ObjectLens.Proofs.SectionBodies
import ObjectLens.Proofs.StubSlots

/-! The stubs of the procedure linkage table, which are named by position. Slots follow each other, so a table that has
room for one slot has room for every slot in front of it, and the first slot without room ends them all. -/

namespace ObjectLens

namespace Elf

namespace SlotLayout

variable {layout : SlotLayout} {start : Nat} {relocations : List NamedRelocation} {stub : Stub}

/-- Every relocation that has both a name and a slot makes a stub, wherever the first slot is missing. -/
private theorem mem_stubs : stub ∈ layout.stubs start relocations ↔ ∃ index relocation,
    relocations[index]? = some relocation ∧ relocation.name = some stub.name ∧
      layout.address? (start + index) = some stub.address := by
  induction relocations generalizing start with
  | nil => simp [stubs]
  | cons relocation rest ih =>
    -- The stub of the first relocation is at the first slot, and the stubs of the others are at the slots behind it.
    have split : (∃ index other, (relocation :: rest)[index]? = some other ∧ other.name = some stub.name ∧
        layout.address? (start + index) = some stub.address) ↔
        (relocation.name = some stub.name ∧ layout.address? start = some stub.address) ∨
          stub ∈ layout.stubs (start + 1) rest := by
      rw [ih]
      constructor
      · rintro ⟨index, other, listed, named, here⟩
        cases index with
        | zero =>
          cases listed
          exact .inl ⟨named, here⟩
        | succ index =>
          rw [← Nat.add_assoc, Nat.add_right_comm] at here
          exact .inr ⟨index, other, listed, named, here⟩
      · rintro (⟨named, here⟩ | ⟨index, other, listed, named, here⟩)
        · exact ⟨0, relocation, rfl, named, here⟩
        · rw [Nat.add_right_comm, Nat.add_assoc] at here
          exact ⟨index + 1, other, listed, named, here⟩
    rw [split, stubs]
    cases here : layout.address? start with
    | none =>
      have later : stub ∉ layout.stubs (start + 1) rest := by
        rw [ih]
        rintro ⟨index, _, _, _, found⟩
        have first := address?_of_later (by omega : start ≤ start + 1 + index) found
        rw [here] at first
        cases first
      simp [later]
    | some found =>
      cases named : relocation.name with
      | none => simp
      | some name =>
        obtain ⟨address, known⟩ := stub
        simp [and_comm, eq_comm]

/-- The stubs have ascending addresses, so no two of them have the same one. -/
private theorem pairwise_stubs (some : 0 < layout.entry) : (layout.stubs start relocations).Pairwise fun first second =>
    first.address < second.address := by
  induction relocations generalizing start with
  | nil => exact .nil
  | cons relocation rest ih =>
    rw [stubs]
    cases here : layout.address? start with
    | none => exact .nil
    | some found =>
      cases relocation.name with
      | none => exact ih
      | some name =>
        refine List.pairwise_cons.mpr ⟨?_, ih⟩
        intro stub member
        obtain ⟨index, _, _, _, there⟩ := mem_stubs.mp member
        obtain ⟨_, _, rfl⟩ := address?_eq_some_iff.mp here
        obtain ⟨_, _, same⟩ := address?_eq_some_iff.mp there
        have next := layout.slot_succ start
        have after := layout.slot_mono (by omega : start + 1 ≤ start + 1 + index)
        show layout.slot start < stub.address
        omega

end SlotLayout

namespace File

variable {file : File} {bytes : Bytes} {stub : Stub}

/-- The sizes of the header and of an entry of `.plt` on each architecture. -/
inductive TableSizes : Arch → Nat → Nat → Prop where
  | x86 : TableSizes .x86 16 16
  | x86_64 : TableSizes .x86_64 16 16
  | arm : TableSizes .arm 20 12
  | arm64 : TableSizes .arm64 32 16
  | riscv32 : TableSizes .riscv32 32 16
  | riscv64 : TableSizes .riscv64 32 16

theorem tableSizes_iff {arch : Arch} {header entry : Nat} :
    TableSizes arch header entry ↔ SlotLayout.sizes arch = (header, entry) := by
  constructor
  · intro told
    cases told <;> rfl
  · intro told
    cases arch <;> cases told <;> constructor

/-- The section whose slots are called, and the sizes of its header and of an entry. -/
inductive SlotsIn (file : File) : Section → Nat → Nat → Prop where
  | called {found : Section} (here : file.sectionNamed? ".plt.sec" = some found) : SlotsIn file found 0 16
  | bound {found : Section} {arch : Arch} {header entry : Nat} (absent : file.sectionNamed? ".plt.sec" = none)
      (here : file.sectionNamed? ".plt" = some found) (known : file.arch? = some arch)
      (sized : TableSizes arch header entry) : SlotsIn file found header entry

theorem ofFile?_eq_some_iff {layout : SlotLayout} : SlotLayout.ofFile? file = some layout ↔
    ∃ found header entry, file.SlotsIn found header entry ∧
      layout = ⟨found.address, header, entry, Word.addCapped found.address found.size⟩ := by
  rw [SlotLayout.ofFile?]
  constructor
  · intro made
    split at made
    next found here =>
      cases made
      exact ⟨found, 0, 16, .called here, rfl⟩
    next absent =>
      simp only [Option.bind_eq_bind, Option.bind_eq_some_iff] at made
      obtain ⟨found, here, arch, known, same⟩ := made
      cases same
      exact ⟨found, _, _, .bound absent here known (tableSizes_iff.mpr rfl), rfl⟩
  · rintro ⟨found, header, entry, place, rfl⟩
    cases place with
    | called here => rw [here]
    | bound absent here known sized =>
      rw [absent, here, known]
      simp only [Option.bind_eq_bind, Option.bind_some, tableSizes_iff.mp sized]
      rfl

private theorem SlotsIn.entry_pos {found : Section} {header entry : Nat} (place : file.SlotsIn found header entry) :
    0 < entry := by
  cases place with
  | called => decide
  | bound _ _ _ sized => cases sized <;> decide

private theorem pairwise_pltStubs (file : File) (bytes : Bytes) :
    (file.pltStubs bytes).Pairwise fun first second => first.address < second.address := by
  rw [pltStubs]
  cases made : SlotLayout.ofFile? file with
  | none => exact .nil
  | some layout =>
    obtain ⟨_, _, _, place, rfl⟩ := ofFile?_eq_some_iff.mp made
    exact SlotLayout.pairwise_stubs place.entry_pos

private theorem mem_pltStubs : stub ∈ file.pltStubs bytes ↔ ∃ found header entry index linked,
    file.SlotsIn found header entry ∧ (file.slotBindings bytes)[index]? = some linked ∧ linked.Names stub.name ∧
      stub.address = found.address + header + index * entry ∧
      found.address + header + (index + 1) * entry ≤ found.address + found.size ∧
      found.address + header + (index + 1) * entry < Word.limit := by
  have told {found : Section} {header entry index : Nat} :
      (SlotLayout.mk found.address header entry (Word.addCapped found.address found.size)).address? index =
          some stub.address ↔ stub.address = found.address + header + index * entry ∧
        found.address + header + (index + 1) * entry ≤ found.address + found.size ∧
        found.address + header + (index + 1) * entry < Word.limit := by
    rw [SlotLayout.address?_eq_some_iff]
    simp only [SlotLayout.slot, Word.addCapped, Word.last, Nat.le_min]
    constructor
    · rintro ⟨⟨room, _⟩, short, same⟩
      exact ⟨same, room, short⟩
    · rintro ⟨same, room, short⟩
      exact ⟨⟨room, Nat.le_pred_of_lt short⟩, short, same⟩
  rw [pltStubs, pltRelocations_eq]
  constructor
  · intro member
    cases made : SlotLayout.ofFile? file with
    | none => simp [made] at member
    | some layout =>
      rw [made] at member
      obtain ⟨found, header, entry, place, rfl⟩ := ofFile?_eq_some_iff.mp made
      obtain ⟨index, _, listed, named, here⟩ := SlotLayout.mem_stubs.mp member
      rw [List.getElem?_map, Option.map_eq_some_iff] at listed
      obtain ⟨linked, listed, rfl⟩ := listed
      rw [Nat.zero_add] at here
      exact ⟨found, header, entry, index, linked, place, listed, LinkedRelocation.name_named_eq_some_iff.mp named,
        told.mp here⟩
  · rintro ⟨found, header, entry, index, linked, place, listed, named, here⟩
    rw [ofFile?_eq_some_iff.mpr ⟨found, header, entry, place, rfl⟩]
    refine SlotLayout.mem_stubs.mpr ⟨index, linked.named, ?_, LinkedRelocation.name_named_eq_some_iff.mpr named, ?_⟩
    · rw [List.getElem?_map, listed, Option.map_some]
    · rw [Nat.zero_add]
      exact told.mpr here

end File

end Elf

namespace Image

variable {image : Image} {format : Option Format} {config : Config} {bytes : Bytes}

/-- The stubs of the linkage table are those of the relocations with a name, each at the slot of its own number, as far
as the slots end inside of the section and of the address space. They stand in front of all other stubs, with ascending
addresses, and the table of stubs keeps each of them. -/
theorem linkage_stubs_by_position (opened : load format config (.regular bytes) = .ok image)
    (elf : image.format = .elf) : ∃ file, Elf.File.read? bytes = some file ∧
      (∀ stub, stub ∈ file.pltStubs bytes ↔ ∃ found header entry index linked,
        file.SlotsIn found header entry ∧ (file.slotBindings bytes)[index]? = some linked ∧ linked.Names stub.name ∧
          stub.address = found.address + header + index * entry ∧
          found.address + header + (index + 1) * entry ≤ found.address + found.size ∧
          found.address + header + (index + 1) * entry < Word.limit) ∧
      (file.pltStubs bytes).Pairwise (fun first second => first.address < second.address) ∧
      file.pltStubs bytes <+: image.stubs.entries ∧
      file.sectionRelocations.map (·.1) = file.sections.filter fun table =>
        table.kind = Elf.Section.relocationsWithAddends || table.kind = Elf.Section.relocations := by
  obtain ⟨file, read, rfl⟩ := elf_of_load opened elf
  have ascending := file.pairwise_pltStubs bytes
  have distinct : ((file.pltStubs bytes).map (·.address)).Nodup :=
    List.pairwise_map.mpr (ascending.imp Nat.ne_of_lt)
  refine ⟨file, read, fun stub => Elf.File.mem_pltStubs, ascending, ?_, Elf.File.sectionRelocations_of_read? read⟩
  have kept : (ofContents config bytes (file.contents bytes)).stubs.entries =
      StubTable.firstClaims (file.pltStubs bytes ++ file.gotStubs bytes) := StubTable.entries_ofList _
  rw [kept]
  exact StubTable.prefix_firstClaims_append distinct _

private theorem slotBindings_importedSlots : ImportedSlots.file.slotBindings ImportedSlots.bytes =
    ImportedSlots.relocations.map
      (⟨·, ImportedSlots.symbols, ⟨.ofList (Fixture.storedNames ImportedSlots.names)⟩⟩) :=
  ImportedSlots.linkedInSections_file (by decide)

/-- The first of the two slots makes a stub. -/
theorem linkage_stubs_of_importedSlots : ∃ file, Elf.File.read? ImportedSlots.bytes = some file ∧
    ⟨0xffffffffffffffe0, "f"⟩ ∈ file.pltStubs ImportedSlots.bytes ∧
    file.pltStubs ImportedSlots.bytes <+: ImportedSlots.image.stubs.entries := by
  obtain ⟨file, read, told, _, kept, _⟩ := linkage_stubs_by_position ImportedSlots.load_bytes rfl
  refine ⟨file, read, (told _).mpr ?_, kept⟩
  rw [ImportedSlots.read?_bytes] at read
  cases read
  exact ⟨_, _, _, 0, _, .called ImportedSlots.sectionNamed?_file.1,
    by rw [slotBindings_importedSlots]; rfl, ImportedSlots.names_linked.1, by decide, by decide, by decide⟩

/-- The second slot ends where its section ends and its relocation has a name, but the address space ends there too, so
the slot makes no stub. -/
theorem last_slot_of_importedSlots : ∃ found linked,
    Image.load none {} (.regular ImportedSlots.bytes) = .ok ImportedSlots.image ∧
      ImportedSlots.image.format = .elf ∧
      Elf.File.read? ImportedSlots.bytes = some ImportedSlots.file ∧
      ImportedSlots.file.SlotsIn found 0 16 ∧
      (ImportedSlots.file.slotBindings ImportedSlots.bytes)[1]? = some linked ∧ linked.Names "g" ∧
      found.address + 0 + (1 + 1) * 16 ≤ found.address + found.size ∧
      ⟨found.address + 0 + 1 * 16, "g"⟩ ∉ ImportedSlots.file.pltStubs ImportedSlots.bytes := by
  have slots := ImportedSlots.sectionNamed?_file.1
  refine ⟨_, _, ImportedSlots.load_bytes, rfl, ImportedSlots.read?_bytes, .called slots,
    by rw [slotBindings_importedSlots]; rfl, ImportedSlots.names_linked.2, by decide, ?_⟩
  intro member
  obtain ⟨found, header, entry, index, _, place, _, _, here, _, short⟩ := Elf.File.mem_pltStubs.mp member
  cases place with
  | called same =>
    rw [slots] at same
    cases same
    simp only [ImportedSlots.slotSection, Word.limit] at here short
    omega
  | bound absent =>
    rw [slots] at absent
    cases absent

end Image

end ObjectLens

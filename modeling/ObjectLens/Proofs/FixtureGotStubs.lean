import ObjectLens.Proofs.FixtureStubs

/-! The stubs of `.plt.got` of a fixture. Each entry is found to jump through the slot it was made for, and the slot has
the name of the import that is bound there. -/

namespace ObjectLens.Fixture

open Elf

variable {fixture : Fixture} {bytes : Bytes}

private theorem value_displacement {start target : Nat} (forward : start ≤ target)
    (near : target < start + 0x80000000) :
    ByteOrder.value .little (displacement start target) = target - start := by
  rw [displacement, value_littleEndian, show Nat.pow 256 4 = 0x100000000 from rfl]
  simp only [Word.limit]
  omega

/-- A distance forward that an instruction holds leads to where it was taken from. -/
private theorem move?_displacement {start target : Nat} (forward : start ≤ target) (near : target < start + 0x80000000)
    (word : target < Word.limit) :
    Word.move? start (Word.signed 32 (ByteOrder.value .little (displacement start target))) = some target := by
  have stored := value_displacement forward near
  have count : Word.count 32 = 0x100000000 := rfl
  have small : (target - start) % Word.count 32 = target - start := Nat.mod_eq_of_lt (by omega)
  have distance : Word.signed 32 (target - start) = ((target - start : Nat) : Int) := by
    simp only [Word.signed, small]
    rw [if_pos (by omega)]
  have arrived : (start : Int) + ((target - start : Nat) : Int) = target := by omega
  rw [stored, distance]
  exact Word.move?_eq_some_iff.mpr ⟨arrived.symm, word⟩

private theorem take_displacement (start target : Nat) (rest : List UInt8) :
    ¬ (displacement start target ++ rest).length < 4 ∧
      (displacement start target ++ rest).take 4 = displacement start target := by
  have length : (displacement start target).length = 4 := length_littleEndian _ _
  constructor
  · rw [List.length_append]
    omega
  · rw [← length, List.take_left]

/-- On 64-bit x86 the slot is told from the end of the jump. -/
private theorem jumpTarget?_wide (address : Nat) (entry : List UInt8) (base : Option Nat) :
    jumpTarget? true address entry base = (indirectJump? [0x25] 0 entry).bind fun (position, _, rest) =>
      if rest.length < 4 then none
      else (Word.add? address (position + 6)).bind fun next =>
        Word.move? next (Word.signed 32 (ByteOrder.value .little (rest.take 4))) := by
  rw [jumpTarget?]
  rfl

/-- A jump leads to its slot, wherever it stands in the entry. -/
private theorem jumpTarget?_of_indirectJump {address slot position : Nat} {entry rest : List UInt8} (base : Option Nat)
    (jump : indirectJump? [0x25] 0 entry = some (position, 0x25, displacement (address + (position + 6)) slot ++ rest))
    (forward : address + (position + 6) ≤ slot) (near : slot < 0x80000000) :
    jumpTarget? true address entry base = some slot := by
  have limit : Word.limit = 0x10000000000000000 := rfl
  obtain ⟨enough, stored⟩ := take_displacement (address + (position + 6)) slot rest
  have next : Word.add? address (position + 6) = some (address + (position + 6)) :=
    Word.add?_eq_some_iff.mpr ⟨by omega, rfl⟩
  rw [jumpTarget?_wide, jump, Option.bind_some]
  -- The rewriting is step by step, since simplification would work the displacement out.
  simp only []
  rw [if_neg enough, stored, next, Option.bind_some]
  exact move?_displacement forward (by omega) (by omega)

/-- On 32-bit x86 the jump holds an address, so the distance is taken for one. -/
private theorem jumpTarget?_narrow {address next slot position : Nat} {entry rest : List UInt8} (base : Option Nat)
    (jump : indirectJump? [0x25, 0xa3] 0 entry = some (position, 0x25, displacement next slot ++ rest))
    (forward : next ≤ slot) (near : slot < 0x80000000) :
    jumpTarget? false address entry base = some (slot - next) := by
  obtain ⟨enough, stored⟩ := take_displacement next slot rest
  rw [jumpTarget?]
  simp only [Bool.false_eq_true, ite_false, jump, Option.bind_eq_bind, Option.bind_some, enough, stored, ite_true]
  rw [value_displacement forward (by omega)]
  rfl

/-- The jump of an entry stands at its front or behind a landing pad, and either x86 finds it there. -/
private theorem indirectJump?_pltGotEntry (landingPads : Bool) (index : Nat) : ∃ position rest, position ≤ 5 ∧
    ∀ modes ∈ [[0x25], [0x25, 0xa3]], indirectJump? modes 0 (pltGotEntry landingPads index) =
      some (position, 0x25,
        displacement (pltGotSlot index landingPads + (position + 6)) (dataGotSlot index) ++ rest) := by
  cases landingPads with
  | false =>
    refine ⟨0, [0x66, 0x90], by decide, fun modes listed => ?_⟩
    simp only [List.mem_cons, List.not_mem_nil, or_false] at listed
    rcases listed with rfl | rfl <;> rfl
  | true =>
    refine ⟨5, [0x0f, 0x1f, 0x44, 0x00, 0x00], by decide, fun modes listed => ?_⟩
    simp only [List.mem_cons, List.not_mem_nil, or_false] at listed
    rcases listed with rfl | rfl <;> rfl

/-- The slots are behind all of the jumps, and not further away than where they start. -/
private theorem jump_before_dataGotSlot {landingPads : Bool} {index position : Nat} (short : position ≤ 5)
    (room : pltGotEntrySize landingPads * (index + 1) ≤ 0x700) :
    pltGotSlot index landingPads + (position + 6) ≤ dataGotSlot index ∧ dataGotSlot index < 0x80000000 ∧
      dataGotSlot index - (pltGotSlot index landingPads + (position + 6)) < dataGotAddress := by
  simp only [pltGotSlot, pltGotAddress, dataGotSlot, dataGotAddress, pltGotEntrySize] at room ⊢
  cases landingPads <;> simp only [Bool.false_eq_true, ite_false, ite_true] at room ⊢ <;> omega

private theorem jumpTarget?_pltGotEntry {landingPads : Bool} {index : Nat} (base : Option Nat)
    (room : pltGotEntrySize landingPads * (index + 1) ≤ 0x700) :
    jumpTarget? true (pltGotSlot index landingPads) (pltGotEntry landingPads index) base =
      some (dataGotSlot index) := by
  obtain ⟨position, rest, short, jump⟩ := indirectJump?_pltGotEntry landingPads index
  obtain ⟨forward, near, _⟩ := jump_before_dataGotSlot short room
  exact jumpTarget?_of_indirectJump base (jump _ (by simp)) forward near

private theorem jumpTarget?_pltGotEntry_narrow {landingPads : Bool} {index : Nat} (base : Option Nat)
    (room : pltGotEntrySize landingPads * (index + 1) ≤ 0x700) :
    ∃ target < dataGotAddress,
      jumpTarget? false (pltGotSlot index landingPads) (pltGotEntry landingPads index) base = some target := by
  obtain ⟨position, rest, short, jump⟩ := indirectJump?_pltGotEntry landingPads index
  obtain ⟨forward, near, front⟩ := jump_before_dataGotSlot short room
  exact ⟨_, front, jumpTarget?_narrow base (jump _ (by simp)) forward near⟩

/-! ### Names of the slots -/

private theorem gotSlot_eq (index : Nat) : gotSlot index = dataGotSlot (35 + index) := by
  simp only [gotSlot, gotAddress, dataGotSlot, dataGotAddress]
  omega

private theorem dataGotSlot_inj {first second : Nat} (same : dataGotSlot first = dataGotSlot second) :
    first = second := by
  simp only [dataGotSlot] at same
  omega

theorem gotSlot_inj {first second : Nat} (same : gotSlot first = gotSlot second) : first = second := by
  rw [gotSlot_eq, gotSlot_eq] at same
  have shifted := dataGotSlot_inj same
  omega

private theorem slotName?_gotBindings {index : Nat} (inside : index < fixture.gotImports.length) :
    File.slotName? fixture.gotBindings (dataGotSlot index) = readName? fixture.gotImports index :=
  File.slotName?_slotRelocations inside fun _ _ => dataGotSlot_inj

/-- From the thirty-fifth one on, the slots of `.plt.got` are those of the imports of the other kind, too. -/
private theorem slotName?_pltBindings (fixture : Fixture) (index : Nat) :
    File.slotName? fixture.pltBindings (dataGotSlot index) = fixture.sharedName? index := by
  rw [sharedName?]
  split
  next shared =>
    obtain ⟨other, rfl⟩ := Nat.exists_eq_add_of_le shared
    rw [← gotSlot_eq, Nat.add_sub_cancel_left]
    by_cases bound : other < fixture.imports.length
    · exact File.slotName?_slotRelocations bound fun _ _ => gotSlot_inj
    · rw [readName?_of_le (Nat.le_of_not_lt bound)]
      refine File.slotName?_of_absent fun earlier before same => ?_
      exact bound (gotSlot_inj same ▸ before)
  next apart =>
    refine File.slotName?_of_absent fun other _ same => ?_
    rw [gotSlot_eq] at same
    have shifted := dataGotSlot_inj same
    omega

private theorem slotName?_gotRelocations (made : fixture.Built bytes) {index : Nat}
    (inside : index < fixture.gotImports.length) :
    File.slotName? (fixture.file.gotRelocations bytes) (dataGotSlot index) = fixture.boundName? index := by
  have some : fixture.gotImports ≠ [] := List.length_pos_iff.mp (Nat.zero_lt_of_lt inside)
  rw [gotRelocations_file made some, boundName?]
  split
  · rw [File.slotName?_append, slotName?_gotBindings inside, slotName?_pltBindings]
  · rw [File.slotName?_append, slotName?_gotBindings inside, slotName?_pltBindings]

private theorem slotName?_of_lt (made : fixture.Built bytes) (some : fixture.gotImports ≠ []) {target : Nat}
    (front : target < dataGotAddress) : File.slotName? (fixture.file.gotRelocations bytes) target = none := by
  have got : File.slotName? fixture.gotBindings target = none := by
    refine File.slotName?_of_absent fun index _ => ?_
    simp only [dataGotSlot]
    omega
  have plt : File.slotName? fixture.pltBindings target = none := by
    refine File.slotName?_of_absent fun index _ => ?_
    simp only [gotSlot_eq, dataGotSlot]
    omega
  rw [gotRelocations_file made some]
  split <;> rw [File.slotName?_append, got, plt] <;> rfl

/-! ### Stubs -/

private theorem zipIdx_map_range {α : Type} (entry : Nat → α) (count : Nat) :
    ((List.range count).map entry).zipIdx = (List.range count).map fun index => (entry index, index) := by
  refine List.ext_getElem (by simp) fun index _ _ => ?_
  simp

/-- The section of `.plt.got` is cut into the entries it was made of. -/
private theorem entries_pltGotBlock (made : fixture.Built bytes) (some : fixture.gotImports ≠ []) :
    ∃ found content, fixture.file.sectionNamed? ".plt.got" = Option.some found ∧ found.address = pltGotAddress ∧
      File.sectionContent? bytes found = Option.some content ∧
      gotEntrySize found.entrySize content.view = pltGotEntrySize fixture.landingPads ∧
      wholeEntries (pltGotEntrySize fixture.landingPads) content.view.length content.view =
        (List.range fixture.gotImports.length).map (pltGotEntry fixture.landingPads) := by
  have present : fixture.gotImports.isEmpty = false := by simpa using some
  have member : (".plt.got", mappedSection fixture.pltGotBlock Section.programBits 6 0 0 8
      (pltGotEntrySize fixture.landingPads)) ∈ fixture.listedSections := by
    simp [listedSections, namedSections, stubSections, present]
  obtain ⟨position, _, found⟩ : ∃ index, _ ∧ fixture.file.sectionNamed? ".plt.got" = _ :=
    sectionNamed?_of_mem rfl rfl member
  have stands := made.standsAt (show fixture.pltGotBlock ∈ _ by simp [blocks, bodyBlocks, stubBlocks, present])
  have content := Bytes.part?_of_standsAt stands rfl
  have positive : 0 < pltGotEntrySize fixture.landingPads := by
    cases fixture.landingPads <;> decide
  have enough : (List.range fixture.gotImports.length).length ≤ fixture.pltGotBlock.content.length := by
    rw [List.length_range, length_pltGotBlock]
    exact Nat.le_mul_of_pos_left _ positive
  refine ⟨_, _, found, rfl, content, ?_, ?_⟩
  · cases pads : fixture.landingPads <;> simp [headerOf, mappedSection, gotEntrySize, pltGotEntrySize]
  · rw [Bytes.view_ofList]
    exact wholeEntries_flatMap (fun index _ => length_pltGotEntry fixture.landingPads index) enough positive

private theorem sectionNamed?_pltGot_of_none (none : fixture.gotImports = []) :
    fixture.file.sectionNamed? ".plt.got" = Option.none := by
  refine sectionNamed?_of_not_mem rfl rfl ?_ (by decide)
  simp only [sectionNames_eq, none, List.isEmpty_nil, ite_true]
  cases fixture.landingPads && !fixture.imports.isEmpty <;> cases fixture.stripped <;> decide

private theorem room_of_lt (buildable : fixture.Buildable) {index : Nat} (inside : index < fixture.gotImports.length) :
    pltGotEntrySize fixture.landingPads * (index + 1) ≤ 0x700 :=
  Nat.le_trans (Nat.mul_le_mul_left _ inside) (length_gotImports_le buildable)

/-- On either x86 an entry of `.plt.got` has a stub if it jumps through a slot that has a name. -/
theorem gotStubs_of_arch (made : fixture.Built bytes) {wide : Bool}
    (arch : fixture.file.arch? = some (if wide then .x86_64 else .x86)) :
    fixture.file.gotStubs bytes = (List.range fixture.gotImports.length).filterMap fun index =>
      ((jumpTarget? wide (pltGotSlot index fixture.landingPads) (pltGotEntry fixture.landingPads index)
        fixture.file.gotBase?).bind (File.slotName? (fixture.file.gotRelocations bytes))).map fun name =>
          ⟨pltGotSlot index fixture.landingPads, name⟩ := by
  by_cases none : fixture.gotImports = []
  · cases wide <;> simp [File.gotStubs, arch, sectionNamed?_pltGot_of_none none, none]
  · obtain ⟨found, content, named, address, read, size, entries⟩ := entries_pltGotBlock made none
    have cut : fixture.file.gotStubs bytes = (List.range fixture.gotImports.length).filterMap fun index =>
        (jumpTarget? wide (Word.addCapped pltGotAddress (index * pltGotEntrySize fixture.landingPads))
          (pltGotEntry fixture.landingPads index) fixture.file.gotBase?).bind fun slot =>
            (File.slotName? (fixture.file.gotRelocations bytes) slot).bind fun name =>
              some ⟨Word.addCapped pltGotAddress (index * pltGotEntrySize fixture.landingPads), name⟩ := by
      cases wide <;>
        simp only [File.gotStubs, arch, named, read, Option.bind_eq_bind, Option.bind_some, Option.pure_def, size,
          entries, address, zipIdx_map_range, List.filterMap_map, Bool.false_eq_true, ite_false, ite_true] <;>
        rfl
    rw [cut]
    refine List.filterMap_congr fun index member => ?_
    have room := room_of_lt made.buildable (List.mem_range.mp member)
    have place : Word.addCapped pltGotAddress (index * pltGotEntrySize fixture.landingPads) =
        pltGotSlot index fixture.landingPads := by
      rw [Nat.mul_comm, pltGotSlot]
      refine Word.addCapped_of_lt ?_
      simp only [pltGotAddress, Word.limit]
      rw [Nat.mul_add] at room
      omega
    rw [place]
    cases jumpTarget? wide _ _ _ with
    | none => rfl
    | some slot =>
      rw [Option.bind_some, Option.bind_some]
      cases File.slotName? _ slot <;> rfl

theorem gotStubs_file (made : fixture.Built bytes) (machine : fixture.machine = 62) :
    fixture.file.gotStubs bytes =
      stubsAt fixture.gotImports.length (pltGotSlot · fixture.landingPads) fixture.boundName? := by
  have wide : fixture.file.arch? = some (if true then .x86_64 else .x86) := by simp [File.arch?, file, machine]
  rw [gotStubs_of_arch made wide, stubsAt]
  refine List.filterMap_congr fun index member => ?_
  have inside := List.mem_range.mp member
  rw [jumpTarget?_pltGotEntry _ (room_of_lt made.buildable inside), Option.bind_some,
    slotName?_gotRelocations made inside]

/-- On no other machine the entries of `.plt.got` have stubs: the jumps are made for 64-bit x86. -/
theorem gotStubs_of_machine_ne (made : fixture.Built bytes) (machine : fixture.machine ≠ 62) :
    fixture.file.gotStubs bytes = [] := by
  by_cases narrow : fixture.machine = 3
  · have arch : fixture.file.arch? = some (if false then .x86_64 else .x86) := by simp [File.arch?, file, narrow]
    rw [gotStubs_of_arch made arch]
    refine List.filterMap_eq_nil_iff.mpr fun index member => ?_
    have inside := List.mem_range.mp member
    have some : fixture.gotImports ≠ [] := List.length_pos_iff.mp (Nat.zero_lt_of_lt inside)
    obtain ⟨target, front, jump⟩ :=
      jumpTarget?_pltGotEntry_narrow fixture.file.gotBase? (room_of_lt made.buildable inside)
    rw [jump, Option.bind_some, slotName?_of_lt made some front]
    rfl
  · have others : ∀ arch, fixture.file.arch? = some arch → arch ≠ .x86_64 ∧ arch ≠ .x86 := by
      intro arch known
      simp only [File.arch?, show fixture.file.machine = fixture.machine from rfl,
        show fixture.file.encoding.wide = true from rfl, ite_true] at known
      split at known <;> cases known <;> first | contradiction | exact ⟨by decide, by decide⟩
    cases known : fixture.file.arch? with
    | none => simp [File.gotStubs, known]
    | some arch =>
      obtain ⟨wide, narrow⟩ := others arch known
      cases arch <;> first | contradiction | simp [File.gotStubs, known]

end ObjectLens.Fixture

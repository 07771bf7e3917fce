import ObjectLens.Proofs.LinkedRelocations
import ObjectLens.Proofs.SectionBodies

/-! The stubs of `.plt.got`. Every entry is read by itself: its first jump tells a slot of the global offset table, and
the first relocation that fills the slot in tells the name. No entry has a part in where the others are. -/

namespace ObjectLens

namespace Elf

/-! ### Jumps -/

/-- How far four bytes lead. Those whose upper bit is set lead back. -/
def jumpDistance (number : Nat) : Int := if number < 0x80000000 then number else number - 0x100000000

private theorem signed_eq_jumpDistance {number : Nat} (short : number < 0x100000000) :
    Word.signed 32 number = jumpDistance number := by
  simp only [Word.signed, jumpDistance, show Word.count 32 = 0x100000000 from rfl, Nat.mod_eq_of_lt short]
  split <;> split <;> omega

private theorem jumpDistance_lt {number : Nat} (short : number < 0x100000000) : jumpDistance number < 0x80000000 := by
  simp only [jumpDistance]
  split <;> omega

/-- The first jump of some code, with what is in front of it and behind its addressing byte. -/
structure FirstJump (modes : List UInt8) (code front : List UInt8) (mode : UInt8) (rest : List UInt8) : Prop where
  split : code = front ++ 0xff :: mode :: rest
  accepted : mode ∈ modes
  first : ∀ index < front.length, ∀ other ∈ modes, ¬ [0xff, other] <+: code.drop index

section

variable {modes code front rest : List UInt8} {opcode mode second : UInt8} {start position : Nat}

private theorem FirstJump.two_le_length (jump : FirstJump modes code front mode rest) : 2 ≤ code.length := by
  rw [jump.split]
  simp only [List.length_append, List.length_cons]
  omega

/-- In front of a jump there may be a byte that is not the start of one. -/
private theorem firstJump_cons_iff (other : ¬ (opcode = 0xff ∧ second ∈ modes)) :
    FirstJump modes (opcode :: second :: code) front mode rest ↔
      ∃ later, front = opcode :: later ∧ FirstJump modes (second :: code) later mode rest := by
  constructor
  · rintro ⟨split, accepted, first⟩
    cases front with
    | nil =>
      cases split
      exact absurd ⟨rfl, accepted⟩ other
    | cons byte later =>
      obtain ⟨rfl, behind⟩ := List.cons_eq_cons.mp split
      refine ⟨later, rfl, behind, accepted, fun index inside => ?_⟩
      exact first (index + 1) (Nat.succ_lt_succ inside)
  · rintro ⟨later, rfl, split, accepted, first⟩
    refine ⟨congrArg (opcode :: ·) split, accepted, fun index inside mode listed here => ?_⟩
    cases index with
    | zero =>
      obtain ⟨same, behind⟩ := List.cons_prefix_cons.mp here
      obtain ⟨rfl, _⟩ := List.cons_prefix_cons.mp behind
      exact other ⟨same.symm, listed⟩
    | succ index => exact first index (Nat.lt_of_succ_lt_succ inside) mode listed here

/-- The search finds the first jump, and says how far it is behind the place where the search starts. -/
theorem indirectJump?_eq_some_iff : indirectJump? modes start code = some (position, mode, rest) ↔
    ∃ front, FirstJump modes code front mode rest ∧ position = start + front.length := by
  induction code generalizing start with
  | nil =>
    refine iff_of_false (fun found => by cases found) ?_
    rintro ⟨front, jump, _⟩
    exact absurd jump.two_le_length (by decide)
  | cons opcode code ih =>
    cases code with
    | nil =>
      refine iff_of_false (fun found => by cases found) ?_
      rintro ⟨front, jump, _⟩
      exact absurd jump.two_le_length (by simp)
    | cons second code =>
      rw [indirectJump?]
      split
      next here =>
        obtain ⟨rfl, listed⟩ := here
        constructor
        · intro found
          cases found
          exact ⟨[], ⟨rfl, listed, fun index inside => absurd inside (Nat.not_lt_zero index)⟩, rfl⟩
        · rintro ⟨front, jump, rfl⟩
          cases front with
          | nil =>
            cases jump.split
            rfl
          | cons byte later => exact absurd ⟨code, rfl⟩ (jump.first 0 (Nat.succ_pos _) second listed)
      next other =>
        rw [ih]
        constructor
        · rintro ⟨later, jump, rfl⟩
          refine ⟨opcode :: later, (firstJump_cons_iff other).mpr ⟨later, rfl, jump⟩, ?_⟩
          rw [List.length_cons]
          omega
        · rintro ⟨front, jump, rfl⟩
          obtain ⟨later, rfl, behind⟩ := (firstJump_cons_iff other).mp jump
          refine ⟨later, behind, ?_⟩
          rw [List.length_cons]
          omega

private theorem FirstJump.indirectJump? (jump : FirstJump modes code front mode rest) :
    Elf.indirectJump? modes 0 code = some (front.length, mode, rest) :=
  indirectJump?_eq_some_iff.mpr ⟨front, jump, (Nat.zero_add _).symm⟩

end

section

variable {size left index : Nat} {content entry : List UInt8}

/-- The entries follow each other, as far as they are complete. -/
private theorem getElem?_wholeEntries (some : 0 < size) (enough : content.length ≤ left) :
    (wholeEntries size left content)[index]? = Option.some entry ↔
      (index + 1) * size ≤ content.length ∧ entry = (content.drop (index * size)).take size := by
  induction left generalizing content index with
  | zero =>
    have positive : 0 < (index + 1) * size := Nat.mul_pos (Nat.succ_pos index) some
    simp only [wholeEntries, List.getElem?_nil, reduceCtorEq, false_iff]
    omega
  | succ left ih =>
    have more : size ≤ (index + 1) * size := Nat.le_mul_of_pos_left size (Nat.succ_pos index)
    rw [wholeEntries]
    split
    next short =>
      simp only [List.getElem?_nil, reduceCtorEq, false_iff]
      omega
    next whole =>
      cases index with
      | zero =>
        simp only [List.getElem?_cons_zero, Option.some.injEq, Nat.zero_mul, List.drop_zero, Nat.zero_add, Nat.one_mul]
        constructor
        · rintro rfl
          exact ⟨by omega, rfl⟩
        · rintro ⟨_, rfl⟩
          rfl
      | succ index =>
        have room : (index + 1) * size ≤ content.length - size ↔ (index + 1 + 1) * size ≤ content.length := by
          rw [Nat.succ_mul (index + 1) size]
          omega
        rw [List.getElem?_cons_succ, ih (by rw [List.length_drop]; omega), List.length_drop, List.drop_drop, room,
          Nat.succ_mul index size, Nat.add_comm (index * size) size]

end

/-! ### Names -/

/-- The first relocation that fills a slot in and has a name has this name. -/
def FirstNamed (bindings : List LinkedRelocation) (slot : Nat) (name : String) : Prop :=
  ∃ (index : Nat) (linked : LinkedRelocation),
    bindings[index]? = some linked ∧ linked.relocation.offset = slot ∧ linked.Names name ∧
      ∀ earlier < index, ∀ other : LinkedRelocation, bindings[earlier]? = some other →
        other.relocation.offset = slot → ∀ unbound, ¬ other.Names unbound

namespace File

variable {file : File} {bytes : Bytes} {slot : Nat} {name : String}

theorem slotName?_eq_some_iff {bindings : List LinkedRelocation} :
    slotName? (bindings.map (·.named)) slot = some name ↔ FirstNamed bindings slot name := by
  simp only [slotName?, List.find?_map, Option.bind_map, Option.bind_eq_some_iff, Function.comp_def,
    LinkedRelocation.name_named_eq_some_iff, List.find?_eq_some_iff_getElem, LinkedRelocation.isSome_name_named,
    decide_eq_true_eq, Bool.not_eq_true', decide_eq_false_iff_not]
  constructor
  · rintro ⟨linked, ⟨⟨here, _⟩, index, inside, rfl, before⟩, named⟩
    refine ⟨index, _, List.getElem?_eq_getElem inside, here, named, fun earlier front other listed same unbound => ?_⟩
    obtain ⟨_, rfl⟩ := List.getElem?_eq_some_iff.mp listed
    exact fun known => before earlier front ⟨same, unbound, known⟩
  · rintro ⟨index, linked, listed, here, named, before⟩
    obtain ⟨inside, rfl⟩ := List.getElem?_eq_some_iff.mp listed
    refine ⟨_, ⟨⟨here, name, named⟩, index, inside, rfl, fun earlier front => ?_⟩, named⟩
    rintro ⟨same, unbound, known⟩
    exact before earlier front _ (List.getElem?_eq_getElem _) same unbound known

end File

/-! ### Entries -/

namespace Encoding

private theorem field_lt_of_narrow {encoding : Encoding} (narrow : encoding.wide = false) (record : Bytes)
    {place other : Nat × Nat} (short : place.2 = 4) : encoding.field record place other < 0x100000000 := by
  have bound := record.number_lt encoding.order place.1 place.2
  rw [short] at bound
  simpa only [field, narrow, Bool.false_eq_true, ite_false, short] using bound

end Encoding

namespace Section

/-- The bytes of a section in its file. -/
def stored (found : Section) (bytes : Bytes) : List UInt8 := (bytes.view.drop found.offset).take found.size

/-- The size of the entries of a section of jumps: the one that the section records if it is eight or sixteen, and else
sixteen if the section starts with a landing pad, and eight if it does not. -/
def jumpSize (found : Section) (bytes : Bytes) : Nat :=
  if found.entrySize = 8 then 8
  else if found.entrySize = 16 then 16
  else if [0xf3, 0x0f, 0x1e, 0xfa] <+: found.stored bytes ∨ [0xf3, 0x0f, 0x1e, 0xfb] <+: found.stored bytes then 16
  else 8

/-- The bytes of an entry of a section of jumps. -/
def jumpEntry (found : Section) (bytes : Bytes) (index : Nat) : List UInt8 :=
  ((found.stored bytes).drop (index * found.jumpSize bytes)).take (found.jumpSize bytes)

/-- Where an entry is, whether or not there are addresses as great. -/
def jumpAddress (found : Section) (bytes : Bytes) (index : Nat) : Nat :=
  found.address + index * found.jumpSize bytes

private theorem gotEntrySize_eq (found : Section) (bytes : Bytes) :
    gotEntrySize found.entrySize (bytes.part found.offset found.size).view = found.jumpSize bytes := by
  rw [Bytes.view_part, ← stored, gotEntrySize, jumpSize]
  by_cases eight : found.entrySize = 8
  · simp [eight]
  · by_cases sixteen : found.entrySize = 16
    · simp [sixteen]
    · simp [eight, sixteen, landingPads]

private theorem jumpSize_pos (found : Section) (bytes : Bytes) : 0 < found.jumpSize bytes := by
  rw [jumpSize]
  split
  · decide
  · split
    · decide
    · split <;> decide

private theorem jumpAddress_inj {found : Section} {bytes : Bytes} {first second : Nat}
    (same : found.jumpAddress bytes first = found.jumpAddress bytes second) : first = second :=
  Nat.eq_of_mul_eq_mul_right (found.jumpSize_pos bytes) (Nat.add_left_cancel same)

end Section

namespace File

variable {file : File} {bytes : Bytes} {found : Section} {index target number : Nat}
  {front rest : List UInt8} {mode : UInt8} {stub : Stub}

/-- The machine is an x86 whose jumps are known, and a 32-bit one has 32-bit addresses. -/
def HasJumps (file : File) : Prop := file.machine = 62 ∨ file.machine = 3 ∧ file.encoding.wide = false

/-- The addressing bytes of the jumps that count. Only a 32-bit machine has the one with a register. -/
def jumpModes (file : File) : List UInt8 := if file.machine = 62 then [0x25] else [0x25, 0xa3]

/-- Where the global offset table starts: at the address of `.got.plt`, or of `.got` in a file without `.got.plt`. -/
inductive GotBase (file : File) : Nat → Prop where
  | jumps {found : Section} (here : file.sectionNamed? ".got.plt" = some found) : GotBase file found.address
  | data {found : Section} (missing : file.sectionNamed? ".got.plt" = none)
      (here : file.sectionNamed? ".got" = some found) : GotBase file found.address

/-- The slot that a jump goes through, as the number behind it tells. -/
inductive JumpTarget (file : File) (address : Nat) (front : List UInt8) (mode : UInt8) (number : Nat) : Nat → Prop where
  | relative {target : Nat} (machine : file.machine = 62) (next : address + front.length + 6 < Word.limit)
      (inside : target < Word.limit) (here : (target : Int) = address + front.length + 6 + jumpDistance number) :
      JumpTarget file address front mode number target
  | absolute (machine : file.machine = 3) (plain : mode = 0x25) : JumpTarget file address front mode number number
  | based {base target : Nat} (machine : file.machine = 3) (indexed : mode = 0xa3) (known : file.GotBase base)
      (here : (target : Int) = base + jumpDistance number) : JumpTarget file address front mode number target

/-- The slot that an entry is read to jump through. -/
def entryTarget? (file : File) (bytes : Bytes) (found : Section) (index : Nat) : Option Nat :=
  jumpTarget? (file.machine = 62) (Word.addCapped found.address (index * found.jumpSize bytes))
    (found.jumpEntry bytes index) file.gotBase?

private theorem lt_of_narrow (read : read? bytes = some file) (narrow : file.encoding.wide = false)
    (listed : found ∈ file.sections) : found.address < 0x100000000 ∧ found.size < 0x100000000 := by
  obtain ⟨header, _, sectionsRead⟩ := read?_tables read
  obtain ⟨record, rfl⟩ := Section.table?_records sectionsRead found listed
  exact ⟨Encoding.field_lt_of_narrow narrow record rfl, Encoding.field_lt_of_narrow narrow record rfl⟩

theorem gotBase?_eq_some_iff {base : Nat} : file.gotBase? = some base ↔ file.GotBase base := by
  rw [gotBase?]
  constructor
  · intro known
    obtain ⟨found, here, rfl⟩ := Option.map_eq_some_iff.mp known
    rcases Option.or_eq_some_iff.mp here with here | ⟨missing, here⟩
    · exact .jumps here
    · exact .data missing here
  · intro known
    cases known with
    | jumps here => rw [here, Option.some_or, Option.map_some]
    | data missing here => rw [missing, Option.none_or, here, Option.map_some]

private theorem GotBase.lt_of_narrow {base : Nat} (known : file.GotBase base) (read : read? bytes = some file)
    (narrow : file.encoding.wide = false) : base < 0x100000000 := by
  cases known with
  | jumps here => exact (File.lt_of_narrow read narrow (List.mem_of_find?_eq_some here)).1
  | data _ here => exact (File.lt_of_narrow read narrow (List.mem_of_find?_eq_some here)).1

/-- The four bytes behind a jump are read as their number. -/
private theorem read_displacement (short : number < 0x100000000) (rest : List UInt8) :
    ¬ (littleEndian 4 number ++ rest).length < 4 ∧
    ByteOrder.value .little ((littleEndian 4 number ++ rest).take 4) = number := by
  constructor
  · rw [List.length_append, length_littleEndian]
    omega
  · rw [List.take_left' (length_littleEndian 4 number), value_littleEndian]
    exact Nat.mod_eq_of_lt short

/-- On a 64-bit machine the slot is told from the end of the jump. An address that is capped is the greatest word, and
no jump ends at a word behind that one. -/
private theorem entryTarget?_eq_some_iff_of_wide (machine : file.machine = 62) (short : number < 0x100000000)
    (jump : FirstJump file.jumpModes (found.jumpEntry bytes index) front mode (littleEndian 4 number ++ rest)) :
    file.entryTarget? bytes found index = some target ↔
      file.JumpTarget (found.jumpAddress bytes index) front mode number target := by
  have front? := jump.indirectJump?
  obtain ⟨long, taken⟩ := read_displacement short rest
  simp only [jumpModes, machine, ite_true] at front?
  simp only [entryTarget?, jumpTarget?, machine, decide_true, ite_true, front?, Option.bind_eq_bind, Option.bind_some,
    long, ite_false, taken, signed_eq_jumpDistance short, Option.bind_eq_some_iff, Word.add?_eq_some_iff,
    Word.move?_eq_some_iff]
  constructor
  · rintro ⟨next, ⟨word, rfl⟩, here, inside⟩
    rw [Word.addCapped_add_lt_iff (Nat.succ_pos _)] at word
    rw [Word.addCapped_of_lt (by omega)] at here
    exact .relative machine (by simp only [Section.jumpAddress]; omega) inside
      (by simp only [Section.jumpAddress]; omega)
  · intro leads
    cases leads with
    | relative _ next inside here =>
      simp only [Section.jumpAddress] at next here
      rw [Word.addCapped_of_lt (by omega)]
      exact ⟨_, ⟨by omega, rfl⟩, by omega, inside⟩
    | absolute other => omega
    | based other => omega

/-- On a 32-bit machine the address of an entry has no part in its slot, and the base is too low for a sum to be no
word. -/
private theorem entryTarget?_eq_some_iff_of_narrow (read : read? bytes = some file) (machine : file.machine = 3)
    (narrow : file.encoding.wide = false) (short : number < 0x100000000)
    (jump : FirstJump file.jumpModes (found.jumpEntry bytes index) front mode (littleEndian 4 number ++ rest)) :
    file.entryTarget? bytes found index = some target ↔
      file.JumpTarget (found.jumpAddress bytes index) front mode number target := by
  have front? := jump.indirectJump?
  obtain ⟨long, taken⟩ := read_displacement short rest
  have other : ¬ file.machine = 62 := by omega
  simp only [jumpModes, other, ite_false] at front?
  simp only [entryTarget?, jumpTarget?, other, decide_false, Bool.false_eq_true, front?, Option.bind_eq_bind,
    Option.bind_some, long, ite_false, taken, signed_eq_jumpDistance short]
  have known := jump.accepted
  simp only [jumpModes, other, ite_false, List.mem_cons, List.not_mem_nil, or_false] at known
  rcases known with rfl | rfl
  · simp only [ite_true, Option.pure_def, Option.some.injEq]
    constructor
    · rintro rfl
      exact .absolute machine rfl
    · intro leads
      cases leads with
      | relative wide => exact absurd wide other
      | absolute => rfl
      | based _ indexed => cases indexed
  · rw [if_neg (by decide)]
    simp only [Option.bind_eq_some_iff, gotBase?_eq_some_iff, Word.move?_eq_some_iff]
    constructor
    · rintro ⟨base, present, here, _⟩
      exact .based machine rfl present here
    · intro leads
      cases leads with
      | relative wide => exact absurd wide other
      | absolute _ plain => cases plain
      | based _ _ present here =>
        have low := present.lt_of_narrow read narrow
        have near := jumpDistance_lt short
        refine ⟨_, present, here, ?_⟩
        simp only [Word.limit]
        omega

/-- An entry with a jump has the slot that its four bytes tell, in each of the three ways of addressing. -/
theorem entryTarget?_eq_some_iff (read : read? bytes = some file) (jumps : file.HasJumps) (short : number < 0x100000000)
    (jump : FirstJump file.jumpModes (found.jumpEntry bytes index) front mode (littleEndian 4 number ++ rest)) :
    file.entryTarget? bytes found index = some target ↔
      file.JumpTarget (found.jumpAddress bytes index) front mode number target := by
  rcases jumps with machine | ⟨machine, narrow⟩
  · exact entryTarget?_eq_some_iff_of_wide machine short jump
  · exact entryTarget?_eq_some_iff_of_narrow read machine narrow short jump

theorem entryTarget?_of_no_jump
    (none : ∀ front mode number rest, number < 0x100000000 →
      ¬ FirstJump file.jumpModes (found.jumpEntry bytes index) front mode (littleEndian 4 number ++ rest)) :
    file.entryTarget? bytes found index = Option.none := by
  have modes : (if decide (file.machine = 62) = true then [0x25] else [0x25, 0xa3]) = file.jumpModes := by
    simp only [jumpModes, decide_eq_true_eq]
  rw [entryTarget?, jumpTarget?, modes]
  cases jump : indirectJump? file.jumpModes 0 (found.jumpEntry bytes index) with
  | none => rfl
  | some told =>
    obtain ⟨position, mode, rest⟩ := told
    obtain ⟨front, first, _⟩ := indirectJump?_eq_some_iff.mp jump
    have short : rest.length < 4 := by
      refine Nat.lt_of_not_le fun long => ?_
      have four : (rest.take 4).length = 4 := List.length_take_of_le long
      have small : ByteOrder.value .little (rest.take 4) < 0x100000000 := by
        have bound := ByteOrder.value_lt .little (rest.take 4)
        rwa [four] at bound
      have again := ByteOrder.littleEndian_value (rest.take 4)
      rw [four] at again
      refine none front mode _ (rest.drop 4) small ?_
      rwa [again, List.take_append_drop]
    simp only [Option.bind_eq_bind, Option.bind_some, short, ite_true, Option.bind_none]

/-- The address of an entry with a target is told exactly. -/
theorem address_of_entryTarget? (read : read? bytes = some file) (jumps : file.HasJumps)
    (listed : found ∈ file.sections) (whole : (index + 1) * found.jumpSize bytes ≤ found.size)
    (known : file.entryTarget? bytes found index = some target) :
    Word.addCapped found.address (index * found.jumpSize bytes) = found.jumpAddress bytes index := by
  refine Word.addCapped_of_lt ?_
  rcases jumps with machine | ⟨_, narrow⟩
  · simp only [entryTarget?, machine, decide_true, jumpTarget?, ite_true, Option.bind_eq_bind,
      Option.bind_eq_some_iff] at known
    obtain ⟨⟨position, _, _⟩, _, known⟩ := known
    simp only at known
    split at known
    · cases known
    · obtain ⟨_, next, _⟩ := Option.bind_eq_some_iff.mp known
      have short := (Word.add?_eq_some_iff.mp next).1
      rw [Word.addCapped_add_lt_iff (Nat.succ_pos _)] at short
      omega
  · obtain ⟨address, size⟩ := lt_of_narrow read narrow listed
    have inside : index * found.jumpSize bytes ≤ (index + 1) * found.jumpSize bytes :=
      Nat.mul_le_mul_right _ (Nat.le_succ index)
    simp only [Word.limit]
    omega

theorem gotStubs_eq (jumps : file.HasJumps) (here : file.sectionNamed? ".plt.got" = some found)
    (present : found.kind ≠ Section.noBits) (inside : found.offset + found.size ≤ bytes.size) :
    file.gotStubs bytes = (wholeEntries (found.jumpSize bytes) (found.stored bytes).length
        (found.stored bytes)).zipIdx.filterMap fun listed => do
      let address := Word.addCapped found.address (listed.2 * found.jumpSize bytes)
      let slot ← jumpTarget? (file.machine = 62) address listed.1 file.gotBase?
      let name ← slotName? ((file.offsetBindings bytes).map (·.named)) slot
      return ⟨address, name⟩ := by
  have content : sectionContent? bytes found = some (bytes.part found.offset found.size) := by
    rw [sectionContent?, if_neg present]
    exact Bytes.part?_eq_some_iff.mpr ⟨inside, rfl⟩
  rw [gotStubs, ← gotRelocations_eq, ← found.gotEntrySize_eq, Section.stored, ← Bytes.view_part]
  rcases jumps with machine | ⟨machine, _⟩
  all_goals
    simp only [arch?, machine, here, Option.bind_eq_bind, Option.bind_some, content]
    rfl

/-- Every whole entry whose target is named makes a stub, and there are no others. -/
theorem mem_gotStubs (jumps : file.HasJumps) (here : file.sectionNamed? ".plt.got" = some found)
    (present : found.kind ≠ Section.noBits) (inside : found.offset + found.size ≤ bytes.size) :
    stub ∈ file.gotStubs bytes ↔ ∃ index target, (index + 1) * found.jumpSize bytes ≤ found.size ∧
      stub.address = Word.addCapped found.address (index * found.jumpSize bytes) ∧
      file.entryTarget? bytes found index = some target ∧ FirstNamed (file.offsetBindings bytes) target stub.name := by
  have length : (found.stored bytes).length = found.size := by
    rw [Section.stored, List.length_take, List.length_drop, Bytes.length_view]
    omega
  have listed (entry : List UInt8) (index : Nat) :
      (entry, index) ∈ (wholeEntries (found.jumpSize bytes) (found.stored bytes).length
        (found.stored bytes)).zipIdx ↔
      (index + 1) * found.jumpSize bytes ≤ found.size ∧ entry = found.jumpEntry bytes index := by
    rw [List.mem_zipIdx_iff_getElem?, getElem?_wholeEntries (found.jumpSize_pos bytes) (Nat.le_refl _), length]
    rfl
  simp only [gotStubs_eq jumps here present inside, List.mem_filterMap, Prod.exists, listed, Option.bind_eq_bind,
    Option.bind_eq_some_iff, slotName?_eq_some_iff, Option.pure_def, Option.some.injEq]
  constructor
  · rintro ⟨_, index, ⟨whole, rfl⟩, target, leads, name, named, rfl⟩
    exact ⟨index, target, whole, rfl, leads, named⟩
  · rintro ⟨index, target, whole, place, leads, named⟩
    exact ⟨_, index, ⟨whole, rfl⟩, target, leads, stub.name, named, by rw [← place]⟩

/-- What an entry contributes depends on nothing but its own target. -/
theorem mem_gotStubs_at {name : String} (read : read? bytes = some file) (jumps : file.HasJumps)
    (here : file.sectionNamed? ".plt.got" = some found) (present : found.kind ≠ Section.noBits)
    (inside : found.offset + found.size ≤ bytes.size) (whole : (index + 1) * found.jumpSize bytes ≤ found.size) :
    ⟨found.jumpAddress bytes index, name⟩ ∈ file.gotStubs bytes ↔ ∃ target,
      file.entryTarget? bytes found index = some target ∧ FirstNamed (file.offsetBindings bytes) target name := by
  have listed : found ∈ file.sections := List.mem_of_find?_eq_some here
  rw [mem_gotStubs jumps here present inside]
  constructor
  · rintro ⟨other, target, otherWhole, place, known, named⟩
    rw [address_of_entryTarget? read jumps listed otherWhole known] at place
    -- No two entries are at one address, so it is this entry that made the stub.
    obtain rfl := found.jumpAddress_inj place
    exact ⟨target, known, named⟩
  · rintro ⟨target, known, named⟩
    exact ⟨index, target, whole, (address_of_entryTarget? read jumps listed whole known).symm, known, named⟩

end File

end Elf

end ObjectLens

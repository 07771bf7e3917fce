import ObjectLens.Fixture.Block
import ObjectLens.Proofs.StoredBytes
import ObjectLens.StringTable

/-! Names in string tables. A table of stored names is text as a whole, and each name is found where it starts: all of
it if it has no zero byte of its own, and the text in front of its first zero character otherwise. -/

namespace ObjectLens

/-- No byte of a name is zero, so the name does not end early where a zero byte ends it. -/
def ZeroFree (name : String) : Prop := 0 ∉ Bytes.view name.toUTF8

instance (name : String) : Decidable (ZeroFree name) := inferInstanceAs (Decidable (_ ∉ _))

/-- The text in front of the first zero character of a name, which is as far as a reader of names comes. -/
def beforeZero (name : String) : String := String.ofList (name.toList.takeWhile (· ≠ '\x00'))

theorem view_toUTF8_ofList (chars : List Char) :
    Bytes.view (String.ofList chars).toUTF8 = chars.flatMap String.utf8EncodeChar := by
  simp [Bytes.view, List.utf8Encode]

private theorem view_toUTF8 (name : String) : Bytes.view name.toUTF8 = name.toList.flatMap String.utf8EncodeChar := by
  rw [← view_toUTF8_ofList, String.ofList_toList]

/-- The zero character is the only one with a zero byte. -/
theorem eq_zero_of_mem_utf8EncodeChar {char : Char} (zero : 0 ∈ String.utf8EncodeChar char) : char = '\x00' := by
  have low (number : Nat) (same : (0 : UInt8) = UInt8.ofNat number) : number % 256 = 0 := by
    have numbers := congrArg UInt8.toNat same
    rw [UInt8.toNat_ofNat'] at numbers
    exact numbers.symm
  -- In encodings of more than one byte each byte has its highest bit set.
  have value : char.val.toNat = 0 := by
    unfold String.utf8EncodeChar at zero
    generalize char.val.toNat = number at zero ⊢
    simp only at zero
    split at zero
    · have small := low _ (List.mem_singleton.mp zero)
      omega
    split at zero
    · simp only [List.mem_cons, List.not_mem_nil, or_false] at zero
      rcases zero with zero | zero <;> have small := low _ zero <;> omega
    split at zero
    · simp only [List.mem_cons, List.not_mem_nil, or_false] at zero
      rcases zero with zero | zero | zero <;> have small := low _ zero <;> omega
    · simp only [List.mem_cons, List.not_mem_nil, or_false] at zero
      rcases zero with zero | zero | zero | zero <;> have small := low _ zero <;> omega
  exact Char.ext (UInt32.toNat_inj.mp value)

private theorem zeroFree_beforeZero (name : String) : ZeroFree (beforeZero name) := by
  rw [ZeroFree, beforeZero, view_toUTF8_ofList]
  induction name.toList with
  | nil => simp
  | cons char others ih =>
    rw [List.takeWhile_cons]
    split
    next kept =>
      rw [List.flatMap_cons, List.mem_append]
      rintro (zero | later)
      · rw [eq_zero_of_mem_utf8EncodeChar zero] at kept
        cases kept
      · exact ih later
    next => simp

/-- A name without a zero byte is read as a whole. -/
theorem beforeZero_of_zeroFree {name : String} (free : ZeroFree name) : beforeZero name = name := by
  have all : name.toList.takeWhile (· ≠ '\x00') = name.toList := by
    rw [ZeroFree, view_toUTF8] at free
    generalize name.toList = chars at free
    induction chars with
    | nil => rfl
    | cons char others ih =>
      rw [List.flatMap_cons, List.mem_append, not_or] at free
      have other : char ≠ '\x00' := by
        rintro rfl
        exact free.1 (by decide)
      rw [List.takeWhile_cons, if_pos (by simpa using other), ih free.2]
  rw [beforeZero, all, String.ofList_toList]

/-- The part of a name that is read is followed by a zero byte, since the whole name is. -/
private theorem view_beforeZero (name : String) : ∃ rest,
    Bytes.view name.toUTF8 ++ [0] = Bytes.view (beforeZero name).toUTF8 ++ [0] ++ rest := by
  rw [view_toUTF8, beforeZero, view_toUTF8_ofList]
  induction name.toList with
  | nil => exact ⟨[], rfl⟩
  | cons char others ih =>
    rw [List.takeWhile_cons]
    split
    next =>
      obtain ⟨rest, same⟩ := ih
      refine ⟨rest, ?_⟩
      rw [List.flatMap_cons, List.flatMap_cons, List.append_assoc, same]
      simp only [List.append_assoc]
    next stopped =>
      have zero : char = '\x00' := by simpa using stopped
      refine ⟨others.flatMap String.utf8EncodeChar ++ [0], ?_⟩
      rw [zero, List.flatMap_cons, List.append_assoc]
      rfl

namespace StandsAt

variable {file rest : List UInt8} {start : Nat} {byte : UInt8}

private theorem head (stands : StandsAt file start (byte :: rest)) : file[start]? = some byte := by
  obtain ⟨front, back, rfl, rfl⟩ := stands
  simp

theorem tail (stands : StandsAt file start (byte :: rest)) : StandsAt file (start + 1) rest := by
  rw [← List.singleton_append] at stands
  exact stands.append_right

end StandsAt

namespace Bytes

variable {bytes : Bytes} {content : List UInt8} {start : Nat}

@[simp] theorem view_append (front back : Bytes) : view (front ++ back) = front.view ++ back.view := by
  simp [view]

private theorem byte?_eq (bytes : Bytes) (position : Nat) : bytes.byte? position = bytes.view[position]? := by
  unfold byte?
  split
  next inside =>
    have listed : position < bytes.view.length := inside
    rw [List.getElem?_eq_getElem listed]
    rfl
  next outside =>
    rw [List.getElem?_eq_none (by rw [length_view]; omega)]

/-- Counting goes on to the first zero byte, if it may look that far. -/
private theorem count_of_standsAt {left : Nat} (stands : StandsAt bytes.view start (content ++ [0]))
    (nonzero : 0 ∉ content) (enough : content.length < left) :
    lengthToZero.count bytes left start = content.length := by
  induction content generalizing left start with
  | nil =>
    cases left with
    | zero => cases enough
    | succ left => simp [lengthToZero.count, byte?_eq, stands.head]
  | cons byte rest ih =>
    cases left with
    | zero => cases enough
    | succ left =>
      obtain ⟨here, later⟩ : ¬ 0 = byte ∧ 0 ∉ rest := by simpa using nonzero
      have counted := ih stands.tail later (Nat.lt_of_succ_lt_succ enough)
      simp [lengthToZero.count, byte?_eq, stands.head, Ne.symm here, counted]

theorem toZero_of_standsAt (stands : StandsAt bytes.view start (content ++ [0])) (nonzero : 0 ∉ content) :
    bytes.toZero start = ofList content := by
  have inside := stands.inside
  rw [List.length_append, List.length_singleton, length_view] at inside
  have counted : bytes.lengthToZero start = content.length := count_of_standsAt stands nonzero (by omega)
  rw [toZero, counted]
  exact part_of_standsAt stands.append_left rfl

end Bytes

private theorem StringTable.name?_of_standsAt {table : StringTable} {name : String} {position : Nat}
    (free : ZeroFree name) (stands : StandsAt table.bytes.view position (Bytes.view name.toUTF8 ++ [0])) :
    table.name? position = some name := by
  have inside := stands.inside
  rw [List.length_append, List.length_singleton, Bytes.length_view table.bytes] at inside
  rw [name?, if_pos (by omega), Bytes.toZero_of_standsAt stands free, Bytes.ofList_view]
  exact Bytes.text?_toUTF8 name

namespace Fixture

variable {names : List String}

private theorem view_zero : Bytes.view "\x00".toUTF8 = [0] := by decide

private theorem text_of_names (names : List String) :
    ∃ text : String, Bytes.view text.toUTF8 = names.flatMap fun name => Bytes.view name.toUTF8 ++ [0] := by
  induction names with
  | nil => exact ⟨"", rfl⟩
  | cons name others ih =>
    obtain ⟨text, rest⟩ := ih
    refine ⟨name ++ "\x00" ++ text, ?_⟩
    rw [List.flatMap_cons, ← rest, ← view_zero]
    simp only [String.toUTF8_eq_toByteArray, String.toByteArray_append, Bytes.view_append]

/-- Stored names are text: that of the names with zero characters between them. -/
theorem text?_storedNames (names : List String) : ∃ text, (Bytes.ofList (storedNames names)).text? = some text := by
  obtain ⟨text, same⟩ := text_of_names names
  refine ⟨"\x00" ++ text, ?_⟩
  have stored : Bytes.ofList (storedNames names) = ("\x00" ++ text).toUTF8 := by
    apply Bytes.ext_view
    rw [Bytes.view_ofList, storedNames, ← same]
    simp only [String.toUTF8_eq_toByteArray, String.toByteArray_append, Bytes.view_append]
    rfl
  rw [stored]
  exact Bytes.text?_toUTF8 _

theorem read?_storedNames {file : Bytes} {offset size : Nat} (stands : StandsAt file.view offset (storedNames names))
    (length : (storedNames names).length = size) :
    StringTable.read? file offset size = some ⟨Bytes.ofList (storedNames names)⟩ := by
  obtain ⟨text, valid⟩ := text?_storedNames names
  simp only [StringTable.read?, Option.bind_eq_bind, Bytes.part?_of_standsAt stands length, Option.bind_some, valid]
  rfl

/-- Each name stands where the names before it end, and a zero byte follows it. -/
theorem standsAt_storedNames {index : Nat} (inside : index < names.length) :
    StandsAt (storedNames names) (nameOffset names index) (Bytes.view names[index].toUTF8 ++ [0]) := by
  have split : names = names.take index ++ names[index] :: names.drop (index + 1) := by
    rw [List.getElem_cons_drop, List.take_append_drop]
  refine ⟨storedNames (names.take index),
    (names.drop (index + 1)).flatMap fun name => Bytes.view name.toUTF8 ++ [0], rfl, ?_⟩
  have same := congrArg storedNames split
  rw [same]
  simp only [storedNames, List.flatMap_append, List.flatMap_cons, List.cons_append, List.append_assoc]

theorem nameOffset_lt {index : Nat} (inside : index < names.length) :
    nameOffset names index < (storedNames names).length := by
  have held := (standsAt_storedNames inside).inside
  rw [List.length_append, List.length_singleton] at held
  omega

/-- A stored name is found up to its first zero character. -/
theorem name?_beforeZero {index : Nat} (inside : index < names.length) :
    StringTable.name? ⟨Bytes.ofList (storedNames names)⟩ (nameOffset names index) = some (beforeZero names[index]) := by
  obtain ⟨rest, same⟩ := view_beforeZero names[index]
  have stands := standsAt_storedNames inside
  rw [same] at stands
  apply StringTable.name?_of_standsAt (zeroFree_beforeZero names[index])
  rw [Bytes.view_ofList]
  exact stands.append_left

theorem name?_storedNames {index : Nat} (inside : index < names.length) (free : ZeroFree names[index]) :
    StringTable.name? ⟨Bytes.ofList (storedNames names)⟩ (nameOffset names index) = some names[index] := by
  rw [name?_beforeZero inside, beforeZero_of_zeroFree free]

/-- The name that starts at a place is found there. -/
theorem name?_at {index place : Nat} (free : ∀ name ∈ names, ZeroFree name) (inside : index < names.length)
    (starts : nameOffset names index = place) :
    StringTable.name? ⟨Bytes.ofList (storedNames names)⟩ place = some names[index] := by
  rw [← starts]
  exact name?_storedNames inside (free _ (List.getElem_mem inside))

theorem name?_storedNames_zero (names : List String) :
    StringTable.name? ⟨Bytes.ofList (storedNames names)⟩ 0 = some "" := by
  apply StringTable.name?_of_standsAt (by decide)
  rw [Bytes.view_ofList]
  exact ⟨[], names.flatMap fun name => Bytes.view name.toUTF8 ++ [0], rfl, rfl⟩

end Fixture

end ObjectLens

import ObjectLens.Bytes
import ObjectLens.Word

/-! What readers of bytes answer, stated on the list of the bytes. A number never exceeds the width that it is read
with, and a part of a part is a part. -/

namespace ObjectLens

/-! Reading the items of a list one after the other, where each of them may fail. -/

section

variable {α β : Type} {read : α → Option β} {items : List α} {results : List β}

theorem getElem?_of_mapM (all : items.mapM read = some results) (index : Nat) :
    results[index]? = items[index]?.bind read := by
  induction items generalizing results index with
  | nil =>
    cases all
    rfl
  | cons item others ih =>
    simp only [List.mapM_cons, Option.bind_eq_bind, Option.bind_eq_some_iff, Option.pure_def, Option.some.injEq] at all
    obtain ⟨first, firstRead, rest, restRead, rfl⟩ := all
    cases index with
    | zero => exact firstRead.symm
    | succ index => exact ih restRead index

theorem length_of_mapM (all : items.mapM read = some results) : results.length = items.length := by
  induction items generalizing results with
  | nil =>
    cases all
    rfl
  | cons item others ih =>
    simp only [List.mapM_cons, Option.bind_eq_bind, Option.bind_eq_some_iff, Option.pure_def, Option.some.injEq] at all
    obtain ⟨first, _, rest, restRead, rfl⟩ := all
    rw [List.length_cons, List.length_cons, ih restRead]

/-- Where every result tells the item that it was read from, the results tell all of the items. -/
theorem map_of_mapM {source : β → α} (told : ∀ item result, read item = some result → source result = item)
    (all : items.mapM read = some results) : results.map source = items := by
  induction items generalizing results with
  | nil =>
    cases all
    rfl
  | cons item others ih =>
    simp only [List.mapM_cons, Option.bind_eq_bind, Option.bind_eq_some_iff, Option.pure_def, Option.some.injEq] at all
    obtain ⟨first, firstRead, rest, restRead, rfl⟩ := all
    rw [List.map_cons, told item first firstRead, ih restRead]

theorem mem_of_mapM (all : items.mapM read = some results) :
    ∀ result ∈ results, ∃ item ∈ items, read item = some result := by
  intro result member
  obtain ⟨index, here⟩ := List.mem_iff_getElem?.mp member
  rw [getElem?_of_mapM all] at here
  obtain ⟨item, listed, itemRead⟩ := Option.bind_eq_some_iff.mp here
  exact ⟨item, List.mem_of_getElem? listed, itemRead⟩

/-- One item that cannot be read spoils all. -/
theorem mapM_eq_none_iff : items.mapM read = none ↔ ∃ item ∈ items, read item = none := by
  induction items with
  | nil => simp
  | cons item others ih =>
    simp only [List.mapM_cons, List.mem_cons, exists_eq_or_imp, ← ih]
    cases read item <;> cases others.mapM read <;> simp

theorem mapM_of_forall {found : α → β} (all : ∀ item ∈ items, read item = some (found item)) :
    items.mapM read = some (items.map found) := by
  induction items with
  | nil => rfl
  | cons item others ih =>
    rw [List.mapM_cons, all item (by simp), ih fun other member => all other (by simp [member])]
    rfl

/-- Two passes that read on from what the first one finds are one pass. -/
theorem bind_mapM {γ : Type} (next : β → Option γ) :
    ((items.mapM read).bind fun found => found.mapM next) = items.mapM fun item => (read item).bind next := by
  induction items with
  | nil => rfl
  | cons item others ih =>
    rw [List.mapM_cons, List.mapM_cons, ← ih]
    cases read item with
    | none => rfl
    | some first =>
      cases others.mapM read with
      | none => cases next first <;> simp
      | some rest =>
        simp only [Option.bind_eq_bind, Option.bind_some, Option.pure_def, List.mapM_cons]

theorem map_mapM {γ : Type} (made : β → γ) :
    (items.mapM read).map (·.map made) = items.mapM fun item => (read item).map made := by
  have pass (found : List β) : found.mapM (fun result => some (made result)) = some (found.map made) :=
    mapM_of_forall fun _ _ => rfl
  simp only [Option.map_eq_bind, Function.comp_def, ← pass, bind_mapM]

end

/-- Numbers of four bytes, one after the other. -/
def words (numbers : List Nat) : List UInt8 := numbers.flatMap (littleEndian 4)

namespace ByteOrder

private theorem foldl_lt (bytes : List UInt8) (front : Nat) :
    bytes.foldl (fun front byte => 256 * front + byte.toNat) front < (front + 1) * Nat.pow 256 bytes.length := by
  induction bytes generalizing front with
  | nil => simp
  | cons byte rest ih =>
    have small := byte.toNat_lt
    have step := ih (256 * front + byte.toNat)
    have grown : (256 * front + byte.toNat + 1) * Nat.pow 256 rest.length ≤
        (front + 1) * 256 * Nat.pow 256 rest.length :=
      Nat.mul_le_mul_right _ (by omega)
    rw [List.foldl_cons]
    calc _ < _ := step
      _ ≤ _ := grown
      _ = (front + 1) * (Nat.pow 256 rest.length * 256) := by rw [Nat.mul_assoc, Nat.mul_comm 256]

private theorem foldr_lt (bytes : List UInt8) :
    bytes.foldr (fun byte rest => byte.toNat + 256 * rest) 0 < Nat.pow 256 bytes.length := by
  induction bytes with
  | nil => simp
  | cons byte rest ih =>
    have small := byte.toNat_lt
    have power : Nat.pow 256 (byte :: rest).length = Nat.pow 256 rest.length * 256 := rfl
    rw [List.foldr_cons, power]
    omega

theorem value_lt (order : ByteOrder) (bytes : List UInt8) : order.value bytes < Nat.pow 256 bytes.length := by
  cases order with
  | little => exact foldr_lt bytes
  | big => simpa [value] using foldl_lt bytes 0

/-- Storing what was read from some bytes gives these bytes again. -/
theorem littleEndian_value (bytes : List UInt8) : littleEndian bytes.length (value .little bytes) = bytes := by
  induction bytes with
  | nil => rfl
  | cons byte rest same =>
    have low : (byte.toNat + 256 * value .little rest) % 256 = byte.toNat := by
      rw [Nat.add_mul_mod_self_left]
      exact Nat.mod_eq_of_lt byte.toNat_lt
    have high : (byte.toNat + 256 * value .little rest) / 256 = value .little rest := by
      have bound := byte.toNat_lt
      omega
    rw [show value .little (byte :: rest) = byte.toNat + 256 * value .little rest from rfl, List.length_cons,
      littleEndian, low, high, same, UInt8.ofNat_toNat]

end ByteOrder

namespace Bytes

theorem ext_view {bytes others : Bytes} (same : bytes.view = others.view) : bytes = others :=
  ByteArray.ext (Array.toList_inj.mp same)

@[simp] theorem ofList_view (bytes : Bytes) : ofList bytes.view = bytes := ext_view (view_ofList _)

@[simp] theorem size_ofList (bytes : List UInt8) : (ofList bytes).size = bytes.length := by
  rw [← length_view, view_ofList]

theorem part_ofList (bytes : List UInt8) (start count : Nat) :
    (ofList bytes).part start count = ofList ((bytes.drop start).take count) := by
  apply ext_view
  rw [view_part, view_ofList, view_ofList]

/-- A part of a file, made of the list of its bytes. Reading it is then a matter of lists, in closed files too. -/
theorem part_eq (bytes : Bytes) (start count : Nat) :
    bytes.part start count = ⟨⟨(bytes.view.drop start).take count⟩⟩ :=
  ext_view (bytes.view_part start count)

theorem part?_eq_some_iff {bytes found : Bytes} {start count : Nat} :
    bytes.part? start count = some found ↔ start + count ≤ bytes.size ∧ bytes.part start count = found := by
  unfold part?
  split
  · next inside => simp [inside]
  · next outside => simp [outside]

/-- A table lies in the file if each of its records does. -/
theorem recordsOneByOne?_eq_mapM (bytes : Bytes) (start width count : Nat) :
    bytes.recordsOneByOne? start width count =
      (List.range count).mapM fun index => bytes.part? (start + width * index) width := by
  rw [recordsOneByOne?]
  split
  next nothing =>
    rw [nothing]
    rfl
  next some =>
    rw [records?]
    split
    next fits =>
      refine (mapM_of_forall fun index member => ?_).symm
      have whole : width * (index + 1) ≤ width * count := Nat.mul_le_mul_left width (List.mem_range.mp member)
      rw [Nat.mul_succ] at whole
      exact part?_eq_some_iff.mpr ⟨by omega, rfl⟩
    next long =>
      -- The last record is the one that reaches furthest.
      refine (mapM_eq_none_iff.mpr ⟨count - 1, List.mem_range.mpr (by omega), ?_⟩).symm
      have whole : width * (count - 1) + width = width * count := by
        rw [← Nat.mul_succ, Nat.succ_eq_add_one, Nat.sub_add_cancel (by omega)]
      rw [part?, if_neg (by omega)]

theorem number_ofList (bytes : List UInt8) (order : ByteOrder) (start width : Nat) :
    (ofList bytes).number order start width = order.value ((bytes.drop start).take width) := by
  rw [number, part_ofList, view_ofList]

/-- A number that is read from so many bytes fits into them, even where the file has fewer. -/
theorem number_lt (bytes : Bytes) (order : ByteOrder) (start width : Nat) :
    bytes.number order start width < Nat.pow 256 width := by
  have bound := order.value_lt (bytes.part start width).view
  have short : (bytes.part start width).view.length ≤ width := by
    rw [view_part]
    exact List.length_take_le _ _
  exact Nat.lt_of_lt_of_le bound (Nat.pow_le_pow_right (by decide) short)

theorem number_lt_limit (bytes : Bytes) (order : ByteOrder) (start : Nat) {width : Nat} (narrow : width ≤ 8) :
    bytes.number order start width < Word.limit :=
  Nat.lt_of_lt_of_le (bytes.number_lt order start width) (Nat.pow_le_pow_right (by decide) narrow)

/-- A byte string that a program can hold: its length is a signed word that is not negative. -/
def FitsMemory (bytes : Bytes) : Prop := bytes.size < Word.count 63

instance (bytes : Bytes) : Decidable bytes.FitsMemory := inferInstanceAs (Decidable (_ < _))

theorem FitsMemory.size_lt_last {bytes : Bytes} (fits : bytes.FitsMemory) : bytes.size < Word.last :=
  Nat.lt_of_lt_of_le fits (by decide)

end Bytes

end ObjectLens

import ObjectLens.Proofs.ByteReading

/-! Bytes that stand in a file at a known position. They are read back as they were stored, whatever is around them, and
a table of records is read back record by record. -/

namespace ObjectLens

/-- All of some bytes stand in a file, from a position on. -/
def StandsAt (file : List UInt8) (start : Nat) (content : List UInt8) : Prop :=
  ∃ front back, front.length = start ∧ file = front ++ content ++ back

theorem length_flatMap_of_uniform {α : Type} {store : α → List UInt8} {width : Nat} {items : List α}
    (uniform : ∀ item ∈ items, (store item).length = width) : (items.flatMap store).length = width * items.length := by
  rw [List.length_flatMap, List.map_congr_left uniform, List.map_const', List.sum_replicate_nat, Nat.mul_comm]

namespace StandsAt

variable {file content rest : List UInt8} {start : Nat}

theorem self (file : List UInt8) : StandsAt file 0 file := ⟨[], [], rfl, by simp⟩

theorem inside (stands : StandsAt file start content) : start + content.length ≤ file.length := by
  obtain ⟨front, back, rfl, rfl⟩ := stands
  simp only [List.length_append]
  omega

theorem take_drop (stands : StandsAt file start content) : (file.drop start).take content.length = content := by
  obtain ⟨front, back, rfl, rfl⟩ := stands
  rw [List.append_assoc, List.drop_left, List.take_left]

theorem append_left (stands : StandsAt file start (content ++ rest)) : StandsAt file start content := by
  obtain ⟨front, back, here, rfl⟩ := stands
  exact ⟨front, rest ++ back, here, by simp only [List.append_assoc]⟩

theorem append_right (stands : StandsAt file start (content ++ rest)) :
    StandsAt file (start + content.length) rest := by
  obtain ⟨front, back, rfl, rfl⟩ := stands
  exact ⟨front ++ content, back, List.length_append, by simp only [List.append_assoc]⟩

theorem behind {next : Nat} (stands : StandsAt file start (content ++ rest)) (here : start + content.length = next) :
    StandsAt file next rest := by
  rw [← here]
  exact stands.append_right

theorem trans {part : List UInt8} {offset : Nat} (outer : StandsAt file start content)
    (inner : StandsAt content offset part) : StandsAt file (start + offset) part := by
  obtain ⟨front, back, rfl, rfl⟩ := outer
  obtain ⟨before, after, rfl, rfl⟩ := inner
  exact ⟨front ++ before, after ++ back, List.length_append, by simp only [List.append_assoc]⟩

theorem slice (stands : StandsAt file start content) {skip : Nat} (inside : skip ≤ content.length) (count : Nat) :
    StandsAt file (start + skip) ((content.drop skip).take count) := by
  rw [← List.take_append_drop skip content] at stands
  have later := stands.append_right
  rw [List.length_take_of_le inside, ← List.take_append_drop count (content.drop skip)] at later
  exact later.append_left

/-- Bytes stand at a position exactly if each of them is where it should be. -/
theorem iff_getElem? : StandsAt file start content ↔ start + content.length ≤ file.length ∧
    ∀ index < content.length, file[start + index]? = content[index]? := by
  constructor
  · intro stands
    refine ⟨stands.inside, fun index short => ?_⟩
    obtain ⟨front, back, rfl, rfl⟩ := stands
    rw [List.append_assoc, List.getElem?_append_right (by omega), Nat.add_sub_cancel_left,
      List.getElem?_append_left short]
  · rintro ⟨inside, same⟩
    refine ⟨file.take start, file.drop (start + content.length), by rw [List.length_take]; omega, ?_⟩
    have part : (file.drop start).take content.length = content := by
      apply List.ext_getElem?
      intro index
      by_cases short : index < content.length
      · rw [List.getElem?_take_of_lt short, List.getElem?_drop, same index short]
      · rw [List.getElem?_eq_none (by rw [List.length_take]; omega), List.getElem?_eq_none (by omega)]
    have split := List.take_append_drop content.length (file.drop start)
    rw [part, List.drop_drop] at split
    rw [List.append_assoc, split, List.take_append_drop]

/-- In a table of records of one size, each record stands behind those in front of it. -/
theorem flatMap {α : Type} {store : α → List UInt8} {width : Nat} {items : List α}
    (uniform : ∀ item ∈ items, (store item).length = width) (index : Nat) (inside : index < items.length) :
    StandsAt (items.flatMap store) (width * index) (store items[index]) := by
  have front : ((items.take index).flatMap store).length = width * index := by
    rw [length_flatMap_of_uniform fun item member => uniform item (List.mem_of_mem_take member), List.length_take,
      Nat.min_eq_left (Nat.le_of_lt inside)]
  have split : items = items.take index ++ items[index] :: items.drop (index + 1) := by
    rw [List.getElem_cons_drop, List.take_append_drop]
  refine ⟨(items.take index).flatMap store, (items.drop (index + 1)).flatMap store, front, ?_⟩
  calc items.flatMap store = (items.take index ++ items[index] :: items.drop (index + 1)).flatMap store :=
        congrArg (List.flatMap store) split
    _ = _ := by rw [List.flatMap_append, List.flatMap_cons, ← List.append_assoc]

end StandsAt

namespace Bytes

variable {bytes : Bytes} {content : List UInt8} {start count : Nat}

theorem part_of_standsAt (stands : StandsAt bytes.view start content) (length : content.length = count) :
    bytes.part start count = ofList content := by
  apply ext_view
  rw [view_part, view_ofList, ← length]
  exact stands.take_drop

theorem part?_of_standsAt (stands : StandsAt bytes.view start content) (length : content.length = count) :
    bytes.part? start count = some (ofList content) := by
  refine part?_eq_some_iff.mpr ⟨?_, part_of_standsAt stands length⟩
  rw [← length]
  exact stands.inside

theorem records?_of_standsAt {α : Type} {store : α → List UInt8} {width : Nat} {items : List α}
    (uniform : ∀ item ∈ items, (store item).length = width)
    (stands : StandsAt bytes.view start (items.flatMap store)) (length : items.length = count) :
    bytes.records? start width count = some (items.map fun item => ofList (store item)) := by
  have inside : start + width * count ≤ bytes.size := by
    have held := stands.inside
    rw [length_flatMap_of_uniform uniform, length] at held
    exact held
  rw [records?, if_pos inside, Option.some.injEq]
  apply List.ext_getElem
  · simp [length]
  intro index _ within
  have listed : index < items.length := by simpa using within
  rw [List.getElem_map, List.getElem_map, List.getElem_range]
  exact part_of_standsAt (stands.trans (StandsAt.flatMap uniform index listed)) (uniform _ (List.getElem_mem listed))

theorem recordsOneByOne?_of_standsAt {α : Type} {store : α → List UInt8} {width : Nat} {items : List α}
    (uniform : ∀ item ∈ items, (store item).length = width)
    (stands : StandsAt bytes.view start (items.flatMap store)) (length : items.length = count) :
    bytes.recordsOneByOne? start width count = some (items.map fun item => ofList (store item)) := by
  rw [recordsOneByOne?]
  split
  next none => rw [List.eq_nil_of_length_eq_zero (length.trans none), List.map_nil]
  next => exact records?_of_standsAt uniform stands length

theorem records?_flatMap {α : Type} {store : α → List UInt8} {width : Nat} {items : List α}
    (uniform : ∀ item ∈ items, (store item).length = width) :
    (ofList (items.flatMap store)).records? 0 width items.length =
      some (items.map fun item => ofList (store item)) := by
  apply records?_of_standsAt uniform ?_ rfl
  rw [view_ofList]
  exact StandsAt.self _

end Bytes

end ObjectLens

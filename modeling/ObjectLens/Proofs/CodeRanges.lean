import ObjectLens.Proofs.ByteReading
import ObjectLens.Image

/-! What asking for a range of code answers, case by case. The range has to end before the end of the address space,
lie inside of a region, and the first such region has to have its bytes in the file. -/

namespace ObjectLens.Image

variable {image : Image} {address size : Nat} {found : Bytes}

def regionOf? (image : Image) (address size : Nat) : Option Region :=
  image.regions.find? fun region =>
    region.Encloses (image.codeAddress address) (image.codeAddress address + size)

/-- Only on 32-bit ARM an address can be that of Thumb code. -/
theorem codeAddress_of_arch (other : image.arch ≠ some .arm) (address : Nat) : image.codeAddress address = address := by
  have wide : ¬ image.isThumb address = true := by simp [isThumb, other]
  rw [codeAddress, if_neg wide]

theorem codeAddress_of_plain (plain : image.isThumb address = false) : image.codeAddress address = address := by
  rw [codeAddress, plain]
  exact if_neg Bool.false_ne_true

theorem codeAddress_of_thumb (thumb : image.isThumb address = true) : image.codeAddress address + 1 = address := by
  have odd : address % 2 = 1 := (of_decide_eq_true thumb).2
  rw [codeAddress, if_pos thumb]
  omega

theorem regionOf?_encloses {region : Region} (first : image.regionOf? address size = some region) :
    region.Encloses (image.codeAddress address) (image.codeAddress address + size) := by
  simpa using List.find?_some first

theorem regionOf?_mem {region : Region} (first : image.regionOf? address size = some region) :
    region ∈ image.regions :=
  List.mem_of_find?_eq_some first

theorem regionOf?_isSome_iff : (image.regionOf? address size).isSome ↔ ∃ region ∈ image.regions,
    region.Encloses (image.codeAddress address) (image.codeAddress address + size) := by
  simp [regionOf?]

theorem code_overflow (large : ¬ image.codeAddress address + size < Word.limit) :
    image.code address size = .error .overflow := by
  simp only [code, Word.add?, large, ite_false]
  rfl

theorem code_outside (word : image.codeAddress address + size < Word.limit)
    (outside : image.regionOf? address size = none) : image.code address size = .error .outside := by
  unfold regionOf? at outside
  simp only [code, Word.add?, word, ite_true, outside]
  rfl

theorem code_inside {region : Region} (word : image.codeAddress address + size < Word.limit)
    (first : image.regionOf? address size = some region) :
    image.code address size =
      match image.bytes.part? (region.offsetOf (image.codeAddress address)) size with
      | none => .error .pastEndOfFile
      | some found => .ok found := by
  unfold regionOf? at first
  simp only [code, Word.add?, word, ite_true, first]
  cases image.bytes.part? (region.offsetOf (image.codeAddress address)) size <;> rfl

/-- There are bytes for a range exactly if it ends below the greatest address, a region encloses it, and the file
reaches far enough for the first such region. -/
theorem code_eq_ok_iff : image.code address size = .ok found ↔
    image.codeAddress address + size < Word.limit ∧ ∃ region, image.regionOf? address size = some region ∧
      image.bytes.part? (region.offsetOf (image.codeAddress address)) size = some found := by
  by_cases word : image.codeAddress address + size < Word.limit
  · cases first : image.regionOf? address size with
    | none => simp [code_outside word first]
    | some region =>
      rw [code_inside word first]
      cases part : image.bytes.part? (region.offsetOf (image.codeAddress address)) size with
      | none => simp [part]
      | some held => simp [word, part]
  · simp [code_overflow word, word]

theorem size_of_code (here : image.code address size = .ok found) : found.size = size := by
  obtain ⟨_, region, _, part⟩ := code_eq_ok_iff.mp here
  exact Bytes.size_of_part? part

theorem codeBytes_of_ok (here : image.code address size = .ok found) : image.codeBytes address size = .ok found := by
  rw [codeBytes, here]
  rfl

theorem codeBytes_of_error {fault : CodeFault} (here : image.code address size = .error fault) :
    image.codeBytes address size = .error (.badCode address size fault) := by
  rw [codeBytes, here]
  rfl

theorem codeBytes_eq_ok_iff : image.codeBytes address size = .ok found ↔ image.code address size = .ok found := by
  cases answer : image.code address size with
  | ok bytes => simp [codeBytes_of_ok answer]
  | error fault => simp [codeBytes_of_error answer]

end ObjectLens.Image

/-! File contents and what is read out of them. Every reader states in its result whether the bytes it needs
are there, so no caller ever computes a length of its own. Numbers are natural numbers: a field of `width` bytes
is below 256 to that power, and no sum of two fields can wrap unless the rule that adds them says so. -/

namespace ObjectLens

abbrev Bytes := ByteArray

inductive ByteOrder where
  | little
  | big
  deriving DecidableEq, Repr, Inhabited

namespace ByteOrder

def value : ByteOrder → List UInt8 → Nat
  | .little, bytes => bytes.foldr (fun byte rest => byte.toNat + 256 * rest) 0
  | .big, bytes => bytes.foldl (fun front byte => 256 * front + byte.toNat) 0

end ByteOrder

/-- The `width` bytes that store a number with its low end first. Higher digits than fit are dropped. -/
def littleEndian : Nat → Nat → List UInt8
  | 0, _ => []
  | width + 1, number => UInt8.ofNat (number % 256) :: littleEndian width (number / 256)

@[simp] theorem length_littleEndian (width number : Nat) : (littleEndian width number).length = width := by
  induction width generalizing number with
  | zero => rfl
  | succ width shorter => simp [littleEndian, shorter]

/-- Reading back what was stored gives the number again, up to the digits that were dropped. -/
theorem value_littleEndian (width number : Nat) :
    ByteOrder.value .little (littleEndian width number) = number % Nat.pow 256 width := by
  induction width generalizing number with
  | zero => exact (Nat.mod_one number).symm
  | succ width shorter =>
    have rest := shorter (number / 256)
    simp only [ByteOrder.value] at rest
    simp only [littleEndian, ByteOrder.value, List.foldr_cons, rest]
    rw [show Nat.pow 256 (width + 1) = 256 * Nat.pow 256 width from Nat.mul_comm _ _, Nat.mod_mul]
    simp

namespace Bytes

def ofList (bytes : List UInt8) : Bytes := bytes.toByteArray

/-- The view of a byte string through which its parts are compared. -/
def view (bytes : Bytes) : List UInt8 := bytes.data.toList

/-- Whether two byte strings are the same is a matter of their views. -/
instance : DecidableEq Bytes := fun first second =>
  decidable_of_iff (first.view = second.view) ⟨fun same => ByteArray.ext (Array.toList_inj.mp same), congrArg view⟩

@[simp] theorem view_ofList (bytes : List UInt8) : (ofList bytes).view = bytes := by
  simp [ofList, view]

@[simp] theorem length_view (bytes : Bytes) : bytes.view.length = bytes.size := by
  rfl

/-- The part of `count` bytes from `start` on, shorter where the file ends first. -/
def part (bytes : Bytes) (start count : Nat) : Bytes :=
  bytes.extract start (start + count)

theorem view_part (bytes : Bytes) (start count : Nat) :
    (bytes.part start count).view = (bytes.view.drop start).take count := by
  simp [part, view, List.take_drop]

/-- The part of exactly `count` bytes from `start` on, if the file holds all of it. -/
def part? (bytes : Bytes) (start count : Nat) : Option Bytes :=
  if start + count ≤ bytes.size then some (bytes.part start count) else none

/-- A part that is there has the length that was asked for. -/
theorem size_of_part? {bytes found : Bytes} {start count : Nat} (here : bytes.part? start count = some found) :
    found.size = count := by
  unfold part? at here
  split at here
  · next inside =>
    cases here
    simp only [part, ByteArray.size_extract]
    omega
  · cases here

def byte? (bytes : Bytes) (position : Nat) : Option UInt8 :=
  if inside : position < bytes.size then some bytes[position] else none

/-- The number stored in `width` bytes from `start` on. Bytes past the end of the file count as absent. -/
def number (bytes : Bytes) (order : ByteOrder) (start width : Nat) : Nat :=
  order.value (bytes.part start width).view

/-- The number stored in `width` bytes from `start` on, if the file holds all of them. -/
def number? (bytes : Bytes) (order : ByteOrder) (start width : Nat) : Option Nat :=
  (bytes.part? start width).map fun field => order.value field.view

/-- A table of `count` records of `width` bytes, back to back from `start`, if the file holds all of it. -/
def records? (bytes : Bytes) (start width count : Nat) : Option (List Bytes) :=
  if start + width * count ≤ bytes.size then
    some ((List.range count).map fun index => bytes.part (start + width * index) width)
  else none

/-- A table has the number of records that was asked for. -/
theorem length_of_records? {bytes : Bytes} {start width count : Nat} {table : List Bytes}
    (here : bytes.records? start width count = some table) : table.length = count := by
  unfold records? at here
  split at here <;> cases here
  simp

/-- The records of a table one after the other: an empty table needs no place in the file. -/
def recordsOneByOne? (bytes : Bytes) (start width count : Nat) : Option (List Bytes) :=
  if count = 0 then some [] else bytes.records? start width count

/-- The number of bytes from `start` to the next zero byte, or to the end of the file. -/
def lengthToZero (bytes : Bytes) (start : Nat) : Nat :=
  count (bytes.size - start) start
where
  /-- Counts nonzero bytes, looking at `left` positions at most. -/
  count : Nat → Nat → Nat
    | 0, _ => 0
    | left + 1, position =>
      match bytes.byte? position with
      | none => 0
      | some byte => if byte = 0 then 0 else count left (position + 1) + 1

/-- The bytes from `start` to the next zero byte, or to the end of the file. -/
def toZero (bytes : Bytes) (start : Nat) : Bytes :=
  bytes.part start (bytes.lengthToZero start)

def text? (bytes : Bytes) : Option String := String.fromUTF8? bytes

theorem text?_toUTF8 (text : String) : text? text.toUTF8 = some text := by
  simp [text?, String.fromUTF8?, String.fromUTF8, text.isValidUTF8]

/-- A zero-terminated string. It also ends with the file, and it may start right at the end of the file. -/
def cString? (bytes : Bytes) (start : Nat) : Option String :=
  if start ≤ bytes.size then text? (bytes.toZero start) else none

/-- A name in a field of fixed width, padded with zero bytes. A name that is not text counts as empty. -/
def paddedName (field : Bytes) : String := (text? (field.toZero 0)).getD ""

end Bytes

end ObjectLens

import ObjectLens.Arch
import ObjectLens.Bytes
import ObjectLens.Hex
import ObjectLens.Instruction.Row
import ObjectLens.Word

/-! Jumps and calls that name their target by its distance. Their bytes hold the distance and their text the
target, so what is listed depends on where the instruction stands. -/

namespace ObjectLens.Instruction

/-- The instruction encodings a decoder can be set to. A 32-bit ARM function has one of two. -/
inductive Encoding where
  | x86
  | x86_64
  | arm
  | thumb
  | arm64
  | riscv32
  | riscv64
  deriving DecidableEq, Repr, Inhabited

/-- The encoding of a function, which on 32-bit ARM is Thumb if its address says so. -/
def Encoding.ofArch (arch : Arch) (isThumb : Bool) : Encoding :=
  match arch with
  | .x86 => .x86
  | .x86_64 => .x86_64
  | .arm => if isThumb then .thumb else .arm
  | .arm64 => .arm64
  | .riscv32 => .riscv32
  | .riscv64 => .riscv64

/-- What was recognised at the front of some code: so many bytes, listed as the phrase. -/
structure Recognised where
  length : Nat
  phrase : Phrase
  length_pos : 0 < length

namespace Jump

/-- A target as an operand: hexadecimal, but plain decimal below ten. -/
def operand (target : Nat) : String := if target < 10 then toString target else Hex.word target

/-- A jump of x86: an opcode byte and a signed distance of `width` bytes from the instruction's end. -/
private def x86Jump (bits address width : Nat) (mnemonic : String) (distance : List UInt8) : Option Recognised :=
  if width ≤ distance.length then
    let moved := Word.signed (8 * width) (ByteOrder.value .little (distance.take width))
    some ⟨1 + width, ⟨mnemonic, operand (Word.moveWrapped bits (address + 1 + width) moved)⟩, by omega⟩
  else none

/-- The jumps of x86. Only the name of the call depends on the dialect and, in one dialect, on the width. -/
private def x86? (wide : Bool) (dialect : Dialect) (address : Nat) : List UInt8 → Option Recognised
  | [] => none
  | opcode :: distance =>
    let bits := if wide then 64 else 32
    let call := match dialect with
      | .intel => "call"
      | .att => if wide then "callq" else "calll"
    if opcode = 0x74 then x86Jump bits address 1 "je" distance
    else if opcode = 0x75 then x86Jump bits address 1 "jne" distance
    else if opcode = 0xeb then x86Jump bits address 1 "jmp" distance
    else if opcode = 0xe8 then x86Jump bits address 4 call distance
    else if opcode = 0xe9 then x86Jump bits address 4 "jmp" distance
    else none

/-- A jump of one of the ARM encodings: its target is printed as an immediate. -/
private def armJump (length bits address : Nat) (mnemonic : String) (distance : Int) (nonempty : 0 < length) :
    Recognised :=
  ⟨length, ⟨mnemonic, "#" ++ operand (Word.moveWrapped bits address distance)⟩, nonempty⟩

/-- The four-byte jumps of ARM: the top byte is the opcode, the low 24 bits count words from two words ahead. -/
private def arm? (address : Nat) : List UInt8 → Option Recognised
  | b0 :: b1 :: b2 :: b3 :: _ =>
    let distance := 4 * Word.signed 24 (ByteOrder.value .little [b0, b1, b2])
    if b3 = 0xea then some (armJump 4 32 (address + 8) "b" distance (by decide))
    else if b3 = 0xeb then some (armJump 4 32 (address + 8) "bl" distance (by decide))
    else none
  | _ => none

/-- The jumps of Thumb: two half-words of a call, or one half-word with a distance of eleven or eight bits, always
counted from four bytes ahead. -/
private def thumb? (address : Nat) : List UInt8 → Option Recognised
  | b0 :: b1 :: rest =>
    let half := ByteOrder.value .little [b0, b1]
    if half / 0x800 = 0b11100 then some (armJump 2 32 (address + 4) "b" (2 * Word.signed 11 half) (by decide))
    else if half / 0x100 = 0xd0 then some (armJump 2 32 (address + 4) "beq" (2 * Word.signed 8 half) (by decide))
    else if half / 0x800 = 0b11110 then
      match rest with
      | b2 :: b3 :: _ =>
        let second := ByteOrder.value .little [b2, b3]
        if second / 0x4000 = 0b11 ∧ second / 0x1000 % 2 = 1 then
          let sign := half / 0x400 % 2
          let bit13 := second / 0x2000 % 2
          let bit11 := second / 0x800 % 2
          let first := if bit13 = sign then 1 else 0
          let next := if bit11 = sign then 1 else 0
          let distance :=
            0x1000000 * sign + 0x800000 * first + 0x400000 * next + 0x1000 * (half % 0x400) + 2 * (second % 0x800)
          some (armJump 4 32 (address + 4) "bl" (Word.signed 25 distance) (by decide))
        else none
      | _ => none
    else none
  | _ => none

/-- The jumps of 64-bit ARM, which count words from the instruction itself. -/
private def arm64? (address : Nat) : List UInt8 → Option Recognised
  | b0 :: b1 :: b2 :: b3 :: _ =>
    let word := ByteOrder.value .little [b0, b1, b2, b3]
    if word / 0x4000000 = 0b000101 then some (armJump 4 64 address "b" (4 * Word.signed 26 word) (by decide))
    else if word / 0x4000000 = 0b100101 then some (armJump 4 64 address "bl" (4 * Word.signed 26 word) (by decide))
    else if word / 0x1000000 = 0x54 ∧ word % 0x10 = 0 then
      some (armJump 4 64 address "b.eq" (4 * Word.signed 19 (word / 0x20)) (by decide))
    else none
  | _ => none

/-- The jump at the front of some code that is mapped at an address. -/
def recognise? (encoding : Encoding) (dialect : Dialect) (address : Nat) (code : List UInt8) : Option Recognised :=
  match encoding with
  | .x86 => x86? false dialect address code
  | .x86_64 => x86? true dialect address code
  | .arm => arm? address code
  | .thumb => thumb? address code
  | .arm64 => arm64? address code
  | .riscv32 | .riscv64 => none

private theorem x86Jump_length_le {bits address width : Nat} {mnemonic : String} {opcode : UInt8}
    {distance : List UInt8} {found : Recognised}
    (here : x86Jump bits address width mnemonic distance = some found) :
    found.length ≤ (opcode :: distance).length := by
  unfold x86Jump at here
  split at here
  · cases here
    simp only [List.length_cons]
    omega
  · cases here

theorem recognise?_length_le {encoding : Encoding} {dialect : Dialect} {address : Nat} {code : List UInt8}
    {found : Recognised} (here : recognise? encoding dialect address code = some found) :
    found.length ≤ code.length := by
  cases encoding with
  | x86 | x86_64 =>
    cases code with
    | nil => cases here
    | cons opcode distance =>
      simp only [recognise?, x86?] at here
      repeat' split at here
      all_goals first | exact x86Jump_length_le here | cases here
  | arm =>
    simp only [recognise?, arm?] at here
    repeat' split at here
    all_goals cases here
    all_goals simp [armJump]
  | thumb =>
    simp only [recognise?, thumb?] at here
    repeat' split at here
    all_goals cases here
    all_goals simp [armJump]
  | arm64 =>
    simp only [recognise?, arm64?] at here
    repeat' split at here
    all_goals cases here
    all_goals simp [armJump]
  | riscv32 | riscv64 => cases here

end Jump

end ObjectLens.Instruction

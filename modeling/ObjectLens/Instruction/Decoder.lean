import ObjectLens.Instruction.Basic
import ObjectLens.Instruction.Jump
import ObjectLens.Instruction.Table.Arm
import ObjectLens.Instruction.Table.Arm64
import ObjectLens.Instruction.Table.RiscV
import ObjectLens.Instruction.Table.X86
import ObjectLens.Instruction.Table.X8664

/-! Decoding: code is split into instructions from its front, each the longest one that fits there. Either all of
the code is split, or the first place where nothing fits is told. Which instructions there are is up to the
disassembler. -/

namespace ObjectLens.Instruction

def rows : Encoding → Dialect → List Row
  | .x86, .intel => Table.x86Intel
  | .x86, .att => Table.x86Att
  | .x86_64, .intel => Table.x8664Intel
  | .x86_64, .att => Table.x8664Att
  | .arm, _ => Table.armWords
  | .thumb, _ => Table.thumb
  | .arm64, _ => Table.arm64
  | .riscv32, _ => Table.riscv32
  | .riscv64, _ => Table.riscv64

def Row.recognised (row : Row) : Recognised :=
  ⟨row.bytes.length, row.phrase, List.length_pos_iff.2 row.bytes_ne_nil⟩

/-- Everything that the front of the code can be read as. -/
def readings (encoding : Encoding) (dialect : Dialect) (address : Nat) (code : List UInt8) : List Recognised :=
  ((rows encoding dialect).filter fun row => row.bytes.isPrefixOf code).map Row.recognised ++
    (Jump.recognise? encoding dialect address code).toList

/-- The longer one of two readings, the first one if they are equally long. -/
def longer (best : Option Recognised) (next : Recognised) : Option Recognised :=
  match best with
  | none => some next
  | some found => if found.length < next.length then some next else some found

def recognise? (encoding : Encoding) (dialect : Dialect) (address : Nat) (code : List UInt8) : Option Recognised :=
  (readings encoding dialect address code).foldl longer none

/-- Splits code into instructions, `left` at most, and tells how much of the code they cover. -/
def split (encoding : Encoding) (dialect : Dialect) : Nat → Nat → List UInt8 → List Instruction × List UInt8
  | 0, _, code => ([], code)
  | left + 1, address, code =>
    match recognise? encoding dialect address code with
    | none => ([], code)
    | some found =>
      let bytes := code.take found.length
      let (others, rest) := split encoding dialect left (address + found.length) (code.drop found.length)
      (⟨address, bytes, found.phrase.mnemonic, found.phrase.operands⟩ :: others, rest)

/-- Where decoding stopped: after `decoded` bytes, which end at `address`. -/
structure Undecodable where
  address : Nat
  decoded : Nat
  deriving DecidableEq, Repr, Inhabited

private theorem foldl_longer_mem (readings : List Recognised) (best : Option Recognised) {found : Recognised}
    (longest : readings.foldl longer best = some found) : some found = best ∨ found ∈ readings := by
  induction readings generalizing best with
  | nil => exact Or.inl longest.symm
  | cons next others ih =>
    have kept : longer best next = best ∨ longer best next = some next := by
      unfold longer
      split
      · exact Or.inr rfl
      · split
        · exact Or.inr rfl
        · exact Or.inl rfl
    rcases ih _ longest with same | member
    · rcases kept with kept | kept
      · exact Or.inl (same.trans kept)
      · exact Or.inr (List.mem_cons.mpr (Or.inl (Option.some.inj (same.trans kept))))
    · exact Or.inr (List.mem_cons_of_mem _ member)

/-- What is recognised is there: no instruction is read past the end of the code. -/
theorem recognise?_length_le {encoding : Encoding} {dialect : Dialect} {address : Nat} {code : List UInt8}
    {found : Recognised} (here : recognise? encoding dialect address code = some found) :
    found.length ≤ code.length := by
  rcases foldl_longer_mem _ none here with impossible | member
  · cases impossible
  rcases List.mem_append.mp member with fixed | jump
  · obtain ⟨row, listed, rfl⟩ := List.mem_map.mp fixed
    have inside := (List.mem_filter.mp listed).2
    exact (List.isPrefixOf_iff_prefix.mp inside).length_le
  · exact Jump.recognise?_length_le (Option.mem_toList.mp jump)

/-- Splitting loses no byte: the instructions and the rest make up the code. -/
theorem split_bytes (encoding : Encoding) (dialect : Dialect) (left address : Nat) (code : List UInt8) :
    (split encoding dialect left address code).1.flatMap (·.bytes) ++ (split encoding dialect left address code).2 =
      code := by
  induction left generalizing address code with
  | zero => rfl
  | succ left ih =>
    simp only [split]
    split
    · rfl
    next found here =>
      simp only [List.flatMap_cons, List.append_assoc, ih]
      exact List.take_append_drop found.length code

theorem split_backToBack (encoding : Encoding) (dialect : Dialect) (left address : Nat) (code : List UInt8) :
    BackToBack address (split encoding dialect left address code).1 := by
  induction left generalizing address code with
  | zero => trivial
  | succ left ih =>
    simp only [split]
    split
    · trivial
    next found here =>
      have inside := recognise?_length_le here
      have taken : (code.take found.length).length = found.length := List.length_take_of_le inside
      refine ⟨rfl, ?_, ?_⟩
      · intro empty
        have nothing : (code.take found.length).length = 0 := congrArg List.length empty
        have positive := found.length_pos
        omega
      · simpa only [taken] using ih (address + found.length) (code.drop found.length)

/-- A disassembler lists instructions from the front of code that is mapped at an address. They stand back to back,
and their bytes are those of the code up to where it finds no further instruction. -/
structure Disassembler where
  list : Encoding → Dialect → Nat → List UInt8 → List Instruction
  /-- Addresses count on from the first one, as long as they are words. -/
  backToBack : ∀ encoding dialect address code, address + code.length < Word.limit →
    BackToBack address (list encoding dialect address code)
  bytes_prefix : ∀ encoding dialect address code,
    (list encoding dialect address code).flatMap (·.bytes) <+: code

/-- The disassembler that knows the rows of the instruction tables and the jumps. Every instruction has a byte, so
there are no more of them than bytes. -/
def Disassembler.tables : Disassembler where
  list encoding dialect address code := (split encoding dialect code.length address code).1
  backToBack encoding dialect address code _ := split_backToBack encoding dialect code.length address code
  bytes_prefix encoding dialect address code := ⟨_, split_bytes encoding dialect code.length address code⟩

/-- The instructions of code that is mapped at an address, or the place where they end too early. -/
def decode (disassembler : Disassembler) (encoding : Encoding) (dialect : Dialect) (address : Nat)
    (code : List UInt8) : Except Undecodable (List Instruction) :=
  let found := disassembler.list encoding dialect address code
  let decoded := covered found
  if decoded < code.length then .error ⟨address + decoded, decoded⟩ else .ok found

end ObjectLens.Instruction

import ObjectLens.Bytes
import ObjectLens.Hex
import ObjectLens.Word
import ObjectLens.Json

/-! Decoded instructions, and functions with their decoded bodies. -/

namespace ObjectLens

structure Instruction where
  address : Nat
  bytes : List UInt8
  mnemonic : String
  operands : String
  deriving DecidableEq, Repr, Inhabited

namespace Instruction

/-- The instruction as a line of a listing. An instruction without operands ends with its mnemonic. -/
def render (instruction : Instruction) : String :=
  let head := Hex.word instruction.address ++ ": " ++ instruction.mnemonic
  if instruction.operands = "" then head else head ++ " " ++ instruction.operands

def toJson (instruction : Instruction) : Json :=
  .object [("address", .number instruction.address),
    ("bytes", .array (instruction.bytes.map fun byte => .number byte.toNat)),
    ("mnemonic", .string instruction.mnemonic),
    ("operands", .string instruction.operands)]

/-- The instructions stand one after the other from an address on, and each has a byte at least. -/
def BackToBack : Nat → List Instruction → Prop
  | _, [] => True
  | address, first :: others =>
    first.address = address ∧ first.bytes ≠ [] ∧ BackToBack (address + first.bytes.length) others

def covered : List Instruction → Nat
  | [] => 0
  | instruction :: others => instruction.bytes.length + covered others

@[simp] theorem length_flatMap_bytes (instructions : List Instruction) :
    (instructions.flatMap (·.bytes)).length = covered instructions := by
  induction instructions with
  | nil => rfl
  | cons instruction others shorter => rw [List.flatMap_cons, List.length_append, shorter, covered]

end Instruction

/-- A function and its decoded body. A function of size zero has no bytes and no instructions. -/
structure Function where
  name : String
  address : Nat
  size : Nat
  bytes : List UInt8
  instructions : List Instruction
  deriving DecidableEq, Repr, Inhabited

namespace Function

/-- The end of the function's range, which is the greatest address if the range would run past it. -/
def stop (function : Function) : Nat := Word.addCapped function.address function.size

def listing (function : Function) : String :=
  String.join (function.instructions.map fun instruction => instruction.render ++ "\n")

/-- The function as structured output. Its bytes are those of the instructions and are not repeated. -/
def toJson (function : Function) : Json :=
  .object [("name", .string function.name),
    ("address", .number function.address),
    ("size", .number function.size),
    ("instructions", .array (function.instructions.map Instruction.toJson))]

end Function

end ObjectLens

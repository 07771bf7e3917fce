import ObjectLens.MachO.File
import ObjectLens.Word

/-! Bindings: small programs that tell the loader which slot to fill with which symbol. An instruction changes the
state of the binder, or binds the slot that the state describes, or both. -/

namespace ObjectLens.MachO

/-- A slot that is bound to a symbol: so far into a segment, taken from a library. -/
structure Binding where
  segment : Nat
  offset : Nat
  library : Nat
  name : String
  deriving DecidableEq, Repr, Inhabited

namespace Binding

inductive Outcome where
  | bound (bindings : List Binding)
  | unreadable
  /-- A binding refers to a segment or a library that the file does not have. There is no way to go on. -/
  | dangling
  deriving DecidableEq, Repr, Inhabited

def initial : Binding := ⟨0, 0, 0, ""⟩

/-- Reads the digits of a number in base 128, low ones first, from a position on: each but the last one carries a
mark. At most `left` digits may follow. The last digit that a 64-bit number can have is restricted to the given ones.
The answer is the number and the position after it. -/
def readBase128? (bytes : Bytes) (lastDigits : List Nat) : Nat → Nat → Option (Nat × Nat)
  | 0, _ => none
  | left + 1, position => do
    let byte := (← bytes.byte? position).toNat
    if left = 0 ∧ byte ∉ lastDigits then none
    if byte < 128 then return (byte, position + 1)
    let (rest, next) ← readBase128? bytes lastDigits left (position + 1)
    return (byte - 128 + 128 * rest, next)

/-- Reads an unsigned number and gives the position after it. -/
def readUnsigned? (bytes : Bytes) (position : Nat) : Option (Nat × Nat) := readBase128? bytes [0, 1] 10 position

/-- Skips a signed number and gives the position after it. -/
def skipSigned? (bytes : Bytes) (position : Nat) : Option Nat :=
  (readBase128? bytes [0, 0x7f] 10 position).map (·.2)

def advance (state : Binding) (distance : Nat) : Binding :=
  { state with offset := Word.addWrapped state.offset distance }

/-- The slots that are bound by a run of `count` bindings of one symbol, each `distance` after the one before, and
the state after the run. -/
def run (distance count : Nat) (state : Binding) : List Binding × Binding :=
  ((List.range count).map fun index => state.advance (index * distance), state.advance (count * distance))

/-- What one instruction does: it sets the state, binds a run of slots from there on, and hands over to the
instruction at `next`. -/
structure Step where
  state : Binding
  count : Nat := 0
  distance : Nat := 0
  next : Nat

/-- Reads the instruction at a position. Its low four bits are an operand; more operands follow it. Instructions
without meaning here leave the state alone. -/
def step? (wordSize : Nat) (bytes : Bytes) (state : Binding) (position : Nat) : Option Step := do
  let byte := (← bytes.byte? position).toNat
  let operand := byte % 16
  let next := position + 1
  match byte / 16 with
  | 0 => return ⟨initial, 0, 0, next⟩
  | 1 => return ⟨{ state with library := operand }, 0, 0, next⟩
  | 2 =>
    let (value, next) ← readUnsigned? bytes next
    return ⟨{ state with library := value % 256 }, 0, 0, next⟩
  | 4 =>
    let name ← bytes.cString? next
    return ⟨{ state with name := name }, 0, 0, next + name.utf8ByteSize + 1⟩
  | 6 => return ⟨state, 0, 0, ← skipSigned? bytes next⟩
  | 7 =>
    let (value, next) ← readUnsigned? bytes next
    return ⟨{ state with segment := operand, offset := value }, 0, 0, next⟩
  | 8 =>
    let (value, next) ← readUnsigned? bytes next
    return ⟨state.advance value, 0, 0, next⟩
  | 9 => return ⟨state, 1, wordSize, next⟩
  | 10 =>
    let (value, next) ← readUnsigned? bytes next
    return ⟨state, 1, value + wordSize, next⟩
  | 11 => return ⟨state, 1, operand * wordSize + wordSize, next⟩
  | 12 =>
    let (count, next) ← readUnsigned? bytes next
    let (skipped, next) ← readUnsigned? bytes next
    return ⟨state, count, skipped + wordSize, next⟩
  | _ => return ⟨state, 0, 0, next⟩

/-- Whether the segment and the library of a binding exist. All bindings of a run agree in this. -/
def isSound (file : File) (binding : Binding) : Bool :=
  binding.segment < file.segments.length && binding.library < file.libraryCount

/-- Whether the instruction at a position binds a slot before its operands are read. -/
def bindsAtOnce (bytes : Bytes) (position : Nat) : Bool :=
  (bytes.byte? position).any fun byte => [9, 10, 11].contains (byte.toNat / 16)

/-- Follows a program from a position on until it reaches its end. Only the first byte of an instruction has to be
before the end. `left` bounds the number of instructions. -/
def follow (file : File) (bytes : Bytes) (stop : Nat) : Nat → Nat → Binding → Outcome
  | 0, _, _ => .unreadable
  | left + 1, position, state =>
    if stop ≤ position then .bound []
    else if bindsAtOnce bytes position ∧ !isSound file state then .dangling
    else
      match step? file.encoding.wordSize bytes state position with
      | none => .unreadable
      | some step =>
        if step.count ≠ 0 ∧ !isSound file step.state then .dangling
        else
          let (bound, state) := run step.distance step.count step.state
          match follow file bytes stop left step.next state with
          | .bound others => .bound (bound ++ others)
          | other => other

/-- Follows the program in a range of the file. Each instruction has a byte of its own, so there are no more
instructions than bytes. -/
def ofProgram (file : File) (bytes : Bytes) (program : Range) : Outcome :=
  follow file bytes (program.start + program.size) (bytes.size + 2) program.start initial

/-- The bindings of a file: those of its eager program, then those of its lazy one. -/
def ofFile (file : File) (bytes : Bytes) : Outcome :=
  match file.bindings with
  | none => .bound []
  | some (eager, lazy) =>
    match ofProgram file bytes eager with
    | .bound first =>
      match ofProgram file bytes lazy with
      | .bound second => .bound (first ++ second)
      | other => other
    | other => other

def address (file : File) (binding : Binding) : Nat :=
  Word.addWrapped ((file.segments[binding.segment]?.map (·.address)).getD 0) binding.offset

end Binding

end ObjectLens.MachO

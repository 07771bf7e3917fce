import ObjectLens.Bytes

/-! The header and the load commands of Mach-O files. A command is a number, a size, and a structure that depends on
the number. The size leads to the next command and to nothing else: the structure has to lie inside of the file, not
inside of the command. -/

namespace ObjectLens.MachO

/-- Whether the file is made for 64-bit processors, and which end of a number comes first. -/
structure Encoding where
  wide : Bool
  order : ByteOrder
  deriving DecidableEq, Repr, Inhabited

namespace Encoding

/-- The encoding that the first four bytes of a file tell, if they are those of a Mach-O file. -/
def ofMagic? (bytes : Bytes) : Option Encoding :=
  match bytes.number? .big 0 4 with
  | some 0xfeedface => some ⟨false, .big⟩
  | some 0xfeedfacf => some ⟨true, .big⟩
  | some 0xcefaedfe => some ⟨false, .little⟩
  | some 0xcffaedfe => some ⟨true, .little⟩
  | _ => none

def wordSize (encoding : Encoding) : Nat := if encoding.wide then 8 else 4

/-- The size of the header, after which the commands start. -/
def headerSize (encoding : Encoding) : Nat := if encoding.wide then 32 else 28

end Encoding

/-- The part of the file header that tells how many commands there are. -/
structure Header where
  processor : Nat
  commandCount : Nat
  commandSize : Nat
  deriving DecidableEq, Repr, Inhabited

namespace Header

/-- Reads the header. Thirty-two bytes have to be there even where the header is shorter. A command has eight bytes at
least, and all commands together are no longer than the file. -/
def read? (encoding : Encoding) (bytes : Bytes) : Option Header := do
  let record ← bytes.part? 0 32
  let header : Header :=
    ⟨record.number encoding.order 4 4, record.number encoding.order 16 4, record.number encoding.order 20 4⟩
  if header.commandCount > header.commandSize / 8 ∨ header.commandSize > bytes.size then none
  return header

end Header

/-- A part of the file that is mapped into memory. Its section headers follow its command. -/
structure Segment where
  name : Bytes
  address : Nat
  sectionCount : Nat
  sectionTable : Nat
  deriving DecidableEq

structure SymbolLocation where
  entries : Nat
  count : Nat
  strings : Nat
  deriving DecidableEq, Repr, Inhabited

structure Range where
  start : Nat
  size : Nat
  deriving DecidableEq, Repr, Inhabited

/-- The load commands that say something about functions or stubs, or that can spoil a file. -/
inductive Command where
  | segment (found : Segment)
  | symbols (found : SymbolLocation)
  | library
  /-- The program that ties symbols to slots at once, and the one that does so on demand. -/
  | bindings (eager lazy : Range)
  | entryPoint
  /-- The initial registers of the main thread, from which the entry point is read. -/
  | mainThread
  | other

namespace Command

/-- Reads the structure of a segment. The command's number decides about the widths, not the file's header. -/
private def readSegment? (encoding : Encoding) (bytes : Bytes) (start : Nat) (wide : Bool) : Option Command := do
  let size := if wide then 72 else 56
  let record ← bytes.part? start size
  let field (narrowPlace widePlace : Nat × Nat) :=
    let place := if wide then widePlace else narrowPlace
    record.number encoding.order place.1 place.2
  let fileOffset := field (32, 4) (40, 8)
  let fileSize := field (36, 4) (48, 8)
  if fileSize ≠ 0 ∧ bytes.size < fileOffset + fileSize then none
  return .segment ⟨record.part 8 16, field (24, 4) (24, 8), field (48, 4) (64, 4), start + size⟩

/-- Reads the structure of the symbol table. Its strings come after its entries. -/
private def readSymbols? (encoding : Encoding) (bytes : Bytes) (start : Nat) : Option Command := do
  let record ← bytes.part? start 24
  let field (offset : Nat) := record.number encoding.order offset 4
  if field 16 < field 8 ∨ bytes.size < field 8 then none
  return .symbols ⟨field 8, field 12, field 16⟩

/-- Reads the name of a library or of a search path, which has to be text. -/
private def readNamed? (encoding : Encoding) (bytes : Bytes) (start size : Nat) (command : Command) :
    Option Command := do
  let record ← bytes.part? start size
  let _ ← bytes.cString? (start + record.number encoding.order 8 4)
  return command

/-- Reads the registers of a thread, seventy words at most. -/
private def readThread? (encoding : Encoding) (bytes : Bytes) (start : Nat) (command : Command) :
    Option Command := do
  let count ← bytes.number? encoding.order (start + 12) 4
  if 70 < count ∨ bytes.size < start + 16 + 4 * count then none
  return command

private def readBindings? (encoding : Encoding) (bytes : Bytes) (start : Nat) : Option Command := do
  let record ← bytes.part? start 48
  let field (offset : Nat) := record.number encoding.order offset 4
  return .bindings ⟨field 16, field 20⟩ ⟨field 32, field 36⟩

def read? (encoding : Encoding) (bytes : Bytes) (start number : Nat) : Option Command :=
  match number with
  | 0x1 => readSegment? encoding bytes start false
  | 0x19 => readSegment? encoding bytes start true
  | 0x2 => readSymbols? encoding bytes start
  | 0x4 => readThread? encoding bytes start .other
  | 0x5 => readThread? encoding bytes start .mainThread
  | 0xb => (bytes.part? start 80).map fun _ => .other
  | 0xc | 0x80000018 | 0x8000001f | 0x20 | 0x80000023 => readNamed? encoding bytes start 24 .library
  | 0xd => readNamed? encoding bytes start 24 .other
  | 0x8000001c => readNamed? encoding bytes start 12 .other
  | 0x1b | 0x32 => (bytes.part? start 24).map fun _ => .other
  | 0x22 | 0x80000022 => readBindings? encoding bytes start
  | 0x80000028 => (bytes.part? start 24).map fun _ => .entryPoint
  | _ => some .other

/-- Reads `left` commands, one after the other. A command of size zero is read again as the next one. -/
def readAll? (encoding : Encoding) (bytes : Bytes) : Nat → Nat → Option (List Command)
  | 0, _ => some []
  | left + 1, start => do
    let number ← bytes.number? encoding.order start 4
    let size ← bytes.number? encoding.order (start + 4) 4
    if bytes.size < start + size then none
    let command ← read? encoding bytes start number
    let others ← readAll? encoding bytes left (start + size)
    return command :: others

end Command

end ObjectLens.MachO

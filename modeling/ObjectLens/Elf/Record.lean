import ObjectLens.Bytes
import ObjectLens.Word

/-! The fixed-size records of ELF files. Each comes in a narrow form, for 32-bit files, and in a wide one, for 64-bit
files, which differ in the widths of some fields and in their order; either may be stored from both ends. The
records are read from bytes of their full size, so reading one cannot fail. The wide form with the low end first is
also written, and reads back as what was written. -/

namespace ObjectLens.Elf

/-- Which form the records of a file have, and which end of a number comes first. -/
structure Encoding where
  wide : Bool
  order : ByteOrder
  deriving DecidableEq, Repr, Inhabited

namespace Encoding

def wideLittle : Encoding := ⟨true, .little⟩

/-- The field of a record that is stored at one of two places, each an offset and a width. -/
def field (encoding : Encoding) (record : Bytes) (narrow wide : Nat × Nat) : Nat :=
  let place := if encoding.wide then wide else narrow
  record.number encoding.order place.1 place.2

def wordSize (encoding : Encoding) : Nat := if encoding.wide then 8 else 4

end Encoding

/-- The part of the file header that tells where everything else is. -/
structure Header where
  machine : Nat
  segmentTable : Nat
  sectionTable : Nat
  segmentCount : Nat
  sectionCount : Nat
  nameSection : Nat
  deriving DecidableEq, Repr, Inhabited

namespace Header

/-- The size of the header with its sixteen bytes of identification. -/
def size (encoding : Encoding) : Nat := if encoding.wide then 64 else 52

def ofRecord (encoding : Encoding) (record : Bytes) : Header where
  machine := encoding.field record (18, 2) (18, 2)
  segmentTable := encoding.field record (28, 4) (32, 8)
  sectionTable := encoding.field record (32, 4) (40, 8)
  segmentCount := encoding.field record (44, 2) (56, 2)
  sectionCount := encoding.field record (48, 2) (60, 2)
  nameSection := encoding.field record (50, 2) (62, 2)

/-- The wide header of a file of a given type, which starts running at an address. -/
def store (header : Header) (type entry : Nat) : List UInt8 :=
  [0x7f, 0x45, 0x4c, 0x46, 2, 1, 1, 0, 0, 0, 0, 0, 0, 0, 0, 0] ++ littleEndian 2 type ++
    littleEndian 2 header.machine ++ littleEndian 4 1 ++ littleEndian 8 entry ++ littleEndian 8 header.segmentTable ++
    littleEndian 8 header.sectionTable ++ littleEndian 4 0 ++ littleEndian 2 64 ++ littleEndian 2 56 ++
    littleEndian 2 header.segmentCount ++ littleEndian 2 64 ++ littleEndian 2 header.sectionCount ++
    littleEndian 2 header.nameSection

end Header

/-- An entry of the program header table: a part of the file that is mapped or has a special meaning. -/
structure Segment where
  kind : Nat
  flags : Nat
  offset : Nat
  address : Nat
  fileSize : Nat
  memorySize : Nat
  deriving DecidableEq, Repr, Inhabited

namespace Segment

def loadable : Nat := 1

/-- The kind of the segment that holds the dynamic table. -/
def dynamic : Nat := 2

def size (encoding : Encoding) : Nat := if encoding.wide then 56 else 32

def ofRecord (encoding : Encoding) (record : Bytes) : Segment where
  kind := encoding.field record (0, 4) (0, 4)
  flags := encoding.field record (24, 4) (4, 4)
  offset := encoding.field record (4, 4) (8, 8)
  address := encoding.field record (8, 4) (16, 8)
  fileSize := encoding.field record (16, 4) (32, 8)
  memorySize := encoding.field record (20, 4) (40, 8)

def isExecutable (segment : Segment) : Bool := segment.flags.testBit 0

/-- The wide entry of a segment that is mapped where it is loaded. -/
def store (segment : Segment) (alignment : Nat) : List UInt8 :=
  littleEndian 4 segment.kind ++ littleEndian 4 segment.flags ++ littleEndian 8 segment.offset ++
    littleEndian 8 segment.address ++ littleEndian 8 segment.address ++ littleEndian 8 segment.fileSize ++
    littleEndian 8 segment.memorySize ++ littleEndian 8 alignment

end Segment

structure Section where
  name : Nat
  kind : Nat
  flags : Nat
  address : Nat
  offset : Nat
  size : Nat
  link : Nat
  info : Nat
  alignment : Nat
  entrySize : Nat
  deriving DecidableEq, Repr, Inhabited

namespace Section

/-- The kind of sections with the program's own contents. -/
def programBits : Nat := 1

def symbolTable : Nat := 2

def stringTable : Nat := 3

def relocationsWithAddends : Nat := 4

def dynamicTable : Nat := 6

def noBits : Nat := 8

def relocations : Nat := 9

def dynamicSymbolTable : Nat := 11

def versionTables : List Nat := [0x6fffffff, 0x6ffffffd, 0x6ffffffe]

def recordSize (encoding : Encoding) : Nat := if encoding.wide then 64 else 40

def ofRecord (encoding : Encoding) (record : Bytes) : Section where
  name := encoding.field record (0, 4) (0, 4)
  kind := encoding.field record (4, 4) (4, 4)
  flags := encoding.field record (8, 4) (8, 8)
  address := encoding.field record (12, 4) (16, 8)
  offset := encoding.field record (16, 4) (24, 8)
  size := encoding.field record (20, 4) (32, 8)
  link := encoding.field record (24, 4) (40, 4)
  info := encoding.field record (28, 4) (44, 4)
  alignment := encoding.field record (32, 4) (48, 8)
  entrySize := encoding.field record (36, 4) (56, 8)

def store (entry : Section) : List UInt8 :=
  littleEndian 4 entry.name ++ littleEndian 4 entry.kind ++ littleEndian 8 entry.flags ++
    littleEndian 8 entry.address ++ littleEndian 8 entry.offset ++ littleEndian 8 entry.size ++
    littleEndian 4 entry.link ++ littleEndian 4 entry.info ++ littleEndian 8 entry.alignment ++
    littleEndian 8 entry.entrySize

def isExecutable (entry : Section) : Bool := entry.flags.testBit 2

/-- Whether the section holds code whose bytes are in the file. -/
def isCode (entry : Section) (fileSize : Nat) : Bool :=
  entry.isExecutable && entry.kind ≠ noBits && 0 < entry.size && entry.offset + entry.size ≤ fileSize

/-- Whether the section's place in the file and its place in memory make sense: it is empty, or has no bytes in the
file, or lies inside of the file and ends before the end of the address space. -/
def fits (entry : Section) (fileSize : Nat) : Bool :=
  entry.kind = noBits || entry.size = 0 ||
    (entry.offset + entry.size ≤ fileSize && entry.address + entry.size < Word.limit)

end Section

structure SymbolEntry where
  name : Nat
  info : Nat
  sectionIndex : Nat
  value : Nat
  size : Nat
  deriving DecidableEq, Repr, Inhabited

namespace SymbolEntry

def function : Nat := 2

/-- The kind of symbols for functions that are chosen when the program is loaded. -/
def indirectFunction : Nat := 10

def recordSize (encoding : Encoding) : Nat := if encoding.wide then 24 else 16

def ofRecord (encoding : Encoding) (record : Bytes) : SymbolEntry where
  name := encoding.field record (0, 4) (0, 4)
  info := encoding.field record (12, 1) (4, 1)
  sectionIndex := encoding.field record (14, 2) (6, 2)
  value := encoding.field record (4, 4) (8, 8)
  size := encoding.field record (8, 4) (16, 8)

def store (entry : SymbolEntry) : List UInt8 :=
  littleEndian 4 entry.name ++ littleEndian 1 entry.info ++ littleEndian 1 0 ++ littleEndian 2 entry.sectionIndex ++
    littleEndian 8 entry.value ++ littleEndian 8 entry.size

/-- What a symbol stands for is told by the low four bits. -/
def kind (entry : SymbolEntry) : Nat := entry.info % 16

/-- The symbol stands for a function that the file itself holds. -/
def isDefinedFunction (entry : SymbolEntry) : Bool :=
  (entry.kind = function || entry.kind = indirectFunction) && entry.sectionIndex ≠ 0

end SymbolEntry

/-- An entry of a relocation table: the place that is filled in, and the index of the symbol that it is filled in
for. -/
structure Relocation where
  offset : Nat
  symbol : Nat
  deriving DecidableEq, Repr, Inhabited

namespace Relocation

/-- The size of an entry, which is longer with an addend. -/
def recordSize (encoding : Encoding) (withAddend : Bool) : Nat :=
  encoding.wordSize * (if withAddend then 3 else 2)

/-- Reads an entry. The symbol's index stands above the low half of its field, in narrow entries above the low
byte. -/
def ofRecord (encoding : Encoding) (record : Bytes) : Relocation where
  offset := encoding.field record (0, 4) (0, 8)
  symbol := encoding.field record (4, 4) (8, 8) / (if encoding.wide then 0x100000000 else 0x100)

/-- The wide entry of a relocation of a given type, with an addend of zero. -/
def store (relocation : Relocation) (type : Nat) : List UInt8 :=
  littleEndian 8 relocation.offset ++ littleEndian 8 (0x100000000 * relocation.symbol + type) ++ littleEndian 8 0

/-- Reads a table of so many bytes. An incomplete entry at its end is left out. An empty table needs no place in the
file; another one lies inside of it. -/
def table? (encoding : Encoding) (bytes : Bytes) (offset size : Nat) (withAddend : Bool) :
    Option (List Relocation) :=
  if size = 0 then some []
  else do
    let content ← bytes.part? offset size
    let width := recordSize encoding withAddend
    let records ← content.records? 0 width (size / width)
    return records.map (ofRecord encoding)

end Relocation

structure DynamicEntry where
  tag : Nat
  value : Nat
  deriving DecidableEq, Repr, Inhabited

namespace DynamicEntry

def recordSize (encoding : Encoding) : Nat := 2 * encoding.wordSize

def ofRecord (encoding : Encoding) (record : Bytes) : DynamicEntry where
  tag := encoding.field record (0, 4) (0, 8)
  value := encoding.field record (4, 4) (8, 8)

def store (entry : DynamicEntry) : List UInt8 := littleEndian 8 entry.tag ++ littleEndian 8 entry.value

end DynamicEntry

end ObjectLens.Elf

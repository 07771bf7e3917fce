import ObjectLens.MachO.File
import ObjectLens.Region
import ObjectLens.Word

/-! The sections of a Mach-O file. Symbols refer to a section by its ordinal, which counts the sections of all
segments from one on. -/

namespace ObjectLens.MachO

structure Section where
  name : String
  address : Nat
  size : Nat
  offset : Nat
  flags : Nat
  deriving DecidableEq, Repr, Inhabited

namespace Section

def recordSize (encoding : Encoding) : Nat := if encoding.wide then 80 else 68

def ofRecord (encoding : Encoding) (record : Bytes) : Section :=
  let field (narrow wide : Nat × Nat) :=
    let place := if encoding.wide then wide else narrow
    record.number encoding.order place.1 place.2
  { name := (record.part 0 16).paddedName
    address := field (32, 4) (32, 8)
    size := field (36, 4) (40, 8)
    offset := field (40, 4) (48, 4)
    flags := field (56, 4) (64, 4) }

/-- One of the two attributes says that the section holds instructions: only, or among other things. -/
def holdsInstructions (found : Section) : Bool := found.flags.testBit 31 || found.flags.testBit 10

/-- The section is a code region: it holds instructions, is not empty, and its bytes are in the file. -/
def isCode (found : Section) (fileSize : Nat) : Bool :=
  found.holdsInstructions && found.size ≠ 0 && Word.addCapped found.offset found.size ≤ fileSize

/-- The addresses and the place in the file of a section. -/
def region (found : Section) : Region :=
  ⟨found.name, found.address, Word.addCapped found.address found.size, found.offset⟩

end Section

namespace File

/-- The sections of a segment, which stand right after the structure of its command. -/
def segmentSections? (file : File) (bytes : Bytes) (segment : Segment) : Option (List Section) :=
  (bytes.recordsOneByOne? segment.sectionTable (Section.recordSize file.encoding) segment.sectionCount).map
    (·.map (Section.ofRecord file.encoding))

/-- The sections of all segments, in the order of their ordinals. -/
def sections? (file : File) (bytes : Bytes) : Option (List Section) :=
  (file.segments.mapM (file.segmentSections? bytes)).map List.flatten

end File

end ObjectLens.MachO

import ObjectLens.Arch
import ObjectLens.Elf.Dynamic
import ObjectLens.Elf.Record
import ObjectLens.StringTable

/-! ELF files as a whole: the tables that the file header and the dynamic segment lead to, each read completely. A
file in which one of them does not fit is no ELF file. -/

namespace ObjectLens.Elf

structure File where
  encoding : Encoding
  machine : Nat
  segments : List Segment
  sections : List Section
  sectionNames : StringTable
  symbols : List SymbolEntry
  symbolNames : StringTable
  dynamic : Dynamic
  /-- The sections that hold relocations, with their entries. -/
  sectionRelocations : List (Section × List Relocation)

namespace Encoding

/-- The encoding that the identification at the front of a file tells, if it is one of an ELF file. -/
def ofIdentification? (bytes : Bytes) : Option Encoding := do
  let identification ← bytes.part? 0 16
  if (identification.part 0 4).view ≠ [0x7f, 0x45, 0x4c, 0x46] then none
  let wide ← match identification.number .little 4 1 with
    | 1 => some false
    | 2 => some true
    | _ => none
  let order ← match identification.number .little 5 1 with
    | 1 => some ByteOrder.little
    | 2 => some ByteOrder.big
    | _ => none
  return ⟨wide, order⟩

end Encoding

namespace Header

def read? (encoding : Encoding) (bytes : Bytes) : Option Header :=
  (bytes.part? 0 (size encoding)).map (ofRecord encoding)

end Header

namespace Segment

/-- Reads the program header table. A count that the file is too short for, wherever the table is, is refused. -/
def table? (encoding : Encoding) (header : Header) (bytes : Bytes) : Option (List Segment) :=
  if header.segmentCount > bytes.size / size encoding then none
  else (bytes.recordsOneByOne? header.segmentTable (size encoding) header.segmentCount).map
    (·.map (ofRecord encoding))

end Segment

namespace Section

/-- Reads the section header table. A table at offset zero is absent. Where the header's count is zero, the size of
the first section is the count; that section is there in any case. -/
def table? (encoding : Encoding) (header : Header) (bytes : Bytes) : Option (List Section) :=
  if header.sectionTable = 0 then some []
  else do
    let width := recordSize encoding
    let first ← (bytes.part? header.sectionTable width).map (ofRecord encoding)
    let count := if header.sectionCount = 0 then first.size else header.sectionCount
    if count > bytes.size / width then none
    let others ← bytes.recordsOneByOne? (header.sectionTable + width) width (count - 1)
    return first :: others.map (ofRecord encoding)

end Section

/-- The string table in the section with an index. The greatest index stands for the one that the first section
links to. Where there is no such section, the table is empty. -/
def sectionStrings? (bytes : Bytes) (sections : List Section) (index : Nat) : Option StringTable :=
  let index := if index = 0xffff then (sections.head?.map (·.link)).getD index else index
  match sections[index]? with
  | none => some .empty
  | some found => if found.fits bytes.size then StringTable.read? bytes found.offset found.size else none

/-- The entries of a symbol table whose section tells how many they are: its size divided by its entry size, and none
where that is zero. Whatever it is, each entry has the standard size. -/
def sectionSymbols? (encoding : Encoding) (bytes : Bytes) (table : Section) : Option (List SymbolEntry) :=
  (bytes.records? table.offset (SymbolEntry.recordSize encoding) (table.size / table.entrySize)).map
    (·.map (SymbolEntry.ofRecord encoding))

namespace File

/-- The symbols of the last symbol table and their names. -/
def symbolTable? (encoding : Encoding) (bytes : Bytes) (sections : List Section) :
    Option (List SymbolEntry × StringTable) :=
  match sections.reverse.find? (·.kind = Section.symbolTable) with
  | none => some ([], .empty)
  | some table => do
    let symbols ← sectionSymbols? encoding bytes table
    let names ← sectionStrings? bytes sections table.link
    return (symbols, names)

def relocationTables? (encoding : Encoding) (bytes : Bytes) (sections : List Section) :
    Option (List (Section × List Relocation)) :=
  let tables := sections.filter fun table =>
    table.kind = Section.relocationsWithAddends || table.kind = Section.relocations
  tables.mapM fun table => do
    if !table.fits bytes.size then none
    let withAddends := decide (table.kind = Section.relocationsWithAddends)
    return (table, ← Relocation.table? encoding bytes table.offset table.size withAddends)

/-- The first section of each kind of version table lies inside of the file. Its contents do not matter. -/
def versionTablesFit (bytes : Bytes) (sections : List Section) : Bool :=
  Section.versionTables.all fun kind =>
    match sections.find? (·.kind = kind) with
    | none => true
    | some table => table.offset + table.size ≤ bytes.size

def read? (bytes : Bytes) : Option File := do
  let encoding ← Encoding.ofIdentification? bytes
  let header ← Header.read? encoding bytes
  let segments ← Segment.table? encoding header bytes
  let sections ← Section.table? encoding header bytes
  let sectionNames ← sectionStrings? bytes sections header.nameSection
  let (symbols, symbolNames) ← symbolTable? encoding bytes sections
  let entries ← DynamicEntry.table? encoding bytes segments
  let dynamic ← Dynamic.read? encoding header.machine bytes segments entries
  let sectionRelocations ← relocationTables? encoding bytes sections
  if !versionTablesFit bytes sections then none
  return ⟨encoding, header.machine, segments, sections, sectionNames, symbols, symbolNames, dynamic,
    sectionRelocations⟩

/-- The name of a section, which is empty if the section has none. -/
def sectionName (file : File) (found : Section) : String := (file.sectionNames.name? found.name).getD ""

def sectionNamed? (file : File) (name : String) : Option Section :=
  file.sections.find? fun found => file.sectionName found = name

/-- The architecture of the machine that the file is made for. -/
def arch? (file : File) : Option Arch :=
  match file.machine with
  | 3 => some .x86
  | 40 => some .arm
  | 62 => some .x86_64
  | 183 => some .arm64
  | 243 => some (if file.encoding.wide then .riscv64 else .riscv32)
  | _ => none

end File

end ObjectLens.Elf

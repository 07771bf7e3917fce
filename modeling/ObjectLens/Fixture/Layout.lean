import ObjectLens.Elf.Record
import ObjectLens.Fixture.Basic
import ObjectLens.Fixture.Block

/-! The layout of a fixture: what stands in each of its blocks and where. One segment maps the whole file so that
addresses and positions in the file agree. -/

namespace ObjectLens.Fixture

open Elf

namespace Symbol

/-- The section that an address belongs to, by its index: the code, the constants, or none. -/
def sectionIndex (address : Nat) : Nat :=
  if textAddress ≤ address ∧ address < textAddress + textSize then 5
  else if dataAddress ≤ address ∧ address < dataAddress + data.length then 6
  else 0xfff1

/-- The entry of a symbol whose name starts at a position of the string table. All symbols are global. -/
def entry (found : Symbol) (name : Nat) : SymbolEntry where
  name := name
  info := match found.kind with
    | .function => 0x12
    | .object => 0x11
  sectionIndex := sectionIndex found.address
  value := found.address
  size := found.size

end Symbol

def importEntry (name : Nat) : SymbolEntry := ⟨name, 0x12, 0, 0, 0⟩

def nullEntry : SymbolEntry := ⟨0, 0, 0, 0, 0⟩

def exported (fixture : Fixture) : List Symbol := fixture.symbols.filter (·.exported)

/-- The names of the dynamic symbols: the exported ones before the imports of either kind, so that the last relocation
names the last symbol. -/
def dynamicNames (fixture : Fixture) : List String :=
  fixture.exported.map (·.name) ++ fixture.imports ++ fixture.gotImports

/-- The index of the first import among the dynamic symbols. -/
def firstImport (fixture : Fixture) : Nat := 1 + fixture.exported.length

def dynamicEntries (fixture : Fixture) : List SymbolEntry :=
  let name := nameOffset fixture.dynamicNames
  let exports := fixture.exported.zipIdx.map fun (found, index) => found.entry (name index)
  let imports := (fixture.imports ++ fixture.gotImports).zipIdx.map fun (_, index) =>
    importEntry (name (fixture.exported.length + index))
  nullEntry :: (exports ++ imports)

/-- Where a slot of the global offset table is that the procedure linkage table jumps through. Three slots before the
first one serve the loader. -/
def gotSlot (index : Nat) : Nat := gotAddress + 8 * (3 + index)

def dataGotSlot (index : Nat) : Nat := dataGotAddress + 8 * index

/-- The relocations that bind the slots of the procedure linkage table. -/
def pltRelocations (fixture : Fixture) : List Relocation :=
  (List.range fixture.imports.length).map fun index => ⟨gotSlot index, fixture.firstImport + index⟩

def gotRelocations (fixture : Fixture) : List Relocation :=
  (List.range fixture.gotImports.length).map fun index =>
    ⟨dataGotSlot index, fixture.firstImport + fixture.imports.length + index⟩

def dynamicSymbolBlock (fixture : Fixture) : Block := ⟨0x100, fixture.dynamicEntries.flatMap SymbolEntry.store⟩

def dynamicNameBlock (fixture : Fixture) : Block :=
  ⟨fixture.dynamicSymbolBlock.stop, storedNames fixture.dynamicNames⟩

/-- The block of the relocations of the procedure linkage table. -/
def pltRelocationBlock (fixture : Fixture) : Block :=
  ⟨alignedToEight fixture.dynamicNameBlock.stop, fixture.pltRelocations.flatMap (·.store 7)⟩

def gotRelocationBlock (fixture : Fixture) : Block :=
  ⟨fixture.pltRelocationBlock.stop, fixture.gotRelocations.flatMap (·.store 6)⟩

/-- The dynamic table: where the names, the symbols and the relocations are, as far as there are any. -/
def dynamicTable (fixture : Fixture) : List DynamicEntry :=
  let names := fixture.dynamicNameBlock
  let plt := fixture.pltRelocationBlock
  let got := fixture.gotRelocationBlock
  [⟨5, names.offset⟩, ⟨6, fixture.dynamicSymbolBlock.offset⟩, ⟨10, names.content.length⟩, ⟨11, 24⟩] ++
    (if fixture.imports.isEmpty then [] else [⟨23, plt.offset⟩, ⟨2, plt.content.length⟩, ⟨20, 7⟩]) ++
    (if fixture.gotImports.isEmpty then [] else [⟨7, got.offset⟩, ⟨8, got.content.length⟩, ⟨9, 24⟩]) ++
    [⟨0, 0⟩]

def dynamicBlock (fixture : Fixture) : Block :=
  ⟨alignedToEight fixture.gotRelocationBlock.stop, fixture.dynamicTable.flatMap DynamicEntry.store⟩

def textBlock (fixture : Fixture) : Block :=
  ⟨textAddress, fixture.text ++ List.replicate (textSize - fixture.text.length) 0xcc⟩

def dataBlock : Block := ⟨dataAddress, data⟩

/-- The distance from one address to another, as four bytes of an instruction. -/
def displacement (start target : Nat) : List UInt8 := littleEndian 4 (target + Word.limit - start)

/-- A landing pad, a jump through a slot, and filling up to sixteen bytes. -/
def paddedJump (address slot : Nat) : List UInt8 :=
  [0xf3, 0x0f, 0x1e, 0xfa, 0xf2, 0xff, 0x25] ++ displacement (address + 11) slot ++ [0x0f, 0x1f, 0x44, 0x00, 0x00]

def pltHeader (landingPads : Bool) : List UInt8 :=
  if landingPads then
    [0xff, 0x35, 0, 0, 0, 0, 0xf2, 0xff, 0x25, 0, 0, 0, 0, 0x0f, 0x1f, 0x00]
  else
    [0xff, 0x35, 0, 0, 0, 0, 0xff, 0x25, 0, 0, 0, 0, 0x0f, 0x1f, 0x40, 0x00]

/-- A slot of the procedure linkage table: a jump and what asks the loader for its target. With landing pads the jump
is elsewhere. -/
def pltEntry (landingPads : Bool) (index : Nat) : List UInt8 :=
  if landingPads then
    [0xf3, 0x0f, 0x1e, 0xfa, 0x68] ++ littleEndian 4 index ++ [0xf2, 0xe9, 0, 0, 0, 0, 0x90]
  else
    [0xff, 0x25] ++ displacement (pltSlot index + 6) (gotSlot index) ++ [0x68] ++ littleEndian 4 index ++
      [0xe9, 0, 0, 0, 0]

def pltBlock (fixture : Fixture) : Block :=
  ⟨pltAddress, pltHeader fixture.landingPads ++
    (List.range fixture.imports.length).flatMap (pltEntry fixture.landingPads)⟩

/-- The block of the stubs with landing pads, which is empty without them. -/
def pltSecBlock (fixture : Fixture) : Block :=
  ⟨pltSecAddress, if fixture.landingPads then
    (List.range fixture.imports.length).flatMap fun index => paddedJump (pltSecSlot index) (gotSlot index)
    else []⟩

def pltGotEntry (landingPads : Bool) (index : Nat) : List UInt8 :=
  let address := pltGotSlot index landingPads
  if landingPads then paddedJump address (dataGotSlot index)
  else [0xff, 0x25] ++ displacement (address + 6) (dataGotSlot index) ++ [0x66, 0x90]

def pltGotBlock (fixture : Fixture) : Block :=
  ⟨pltGotAddress, (List.range fixture.gotImports.length).flatMap (pltGotEntry fixture.landingPads)⟩

/-- The blocks of code that are not fixed in size, as far as they are not empty, and the table's header in any case. -/
def stubBlocks (fixture : Fixture) : List Block :=
  fixture.pltBlock ::
    ((if fixture.landingPads then [fixture.pltSecBlock] else []) ++
      (if fixture.gotImports.isEmpty then [] else [fixture.pltGotBlock]))

/-- The position from which on there is room for what is not mapped. -/
def looseStart (fixture : Fixture) : Nat := alignedToEight (Block.extent fixture.stubBlocks)

def symbolEntries (fixture : Fixture) : List SymbolEntry :=
  nullEntry :: fixture.symbols.zipIdx.map fun (found, index) =>
    found.entry (nameOffset (fixture.symbols.map (·.name)) index)

def symbolBlock (fixture : Fixture) : Block := ⟨fixture.looseStart, fixture.symbolEntries.flatMap SymbolEntry.store⟩

def symbolNameBlock (fixture : Fixture) : Block :=
  ⟨fixture.symbolBlock.stop, storedNames (fixture.symbols.map (·.name))⟩

/-- The blocks of the symbol table and its names, which a stripped fixture lacks. -/
def symbolBlocks (fixture : Fixture) : List Block :=
  if fixture.stripped then [] else [fixture.symbolBlock, fixture.symbolNameBlock]

/-- The header of a section that is mapped where it is stored. Its name is filled in later. -/
def mappedSection (block : Block) (kind flags link info alignment entrySize : Nat) : Section :=
  ⟨0, kind, flags, block.offset, block.offset, block.content.length, link, info, alignment, entrySize⟩

/-- The header of a section that is not mapped. Its name is filled in later. -/
def looseSection (block : Block) (kind link info alignment entrySize : Nat) : Section :=
  ⟨0, kind, 0, 0, block.offset, block.content.length, link, info, alignment, entrySize⟩

/-- The sections that every fixture has, in front of all others. -/
def fixedSections (fixture : Fixture) : List (String × Section) :=
  [(".dynsym", mappedSection fixture.dynamicSymbolBlock Section.dynamicSymbolTable 2 2 1 8 24),
   (".dynstr", mappedSection fixture.dynamicNameBlock Section.stringTable 2 0 0 1 0),
   (".rela.plt", mappedSection fixture.pltRelocationBlock Section.relocationsWithAddends 0x42 1 7 8 24),
   (".dynamic", mappedSection fixture.dynamicBlock Section.dynamicTable 3 2 0 8 16),
   (".text", mappedSection fixture.textBlock Section.programBits 6 0 0 16 0),
   (".rodata", mappedSection dataBlock Section.programBits 2 0 0 1 0),
   (".plt", mappedSection fixture.pltBlock Section.programBits 6 0 0 16 16)]

/-- The sections for calls that do not go through the procedure linkage table itself. -/
def stubSections (fixture : Fixture) : List (String × Section) :=
  (if fixture.gotImports.isEmpty then []
    else [(".rela.dyn", mappedSection fixture.gotRelocationBlock Section.relocationsWithAddends 2 1 0 8 24)]) ++
  (if fixture.landingPads && !fixture.imports.isEmpty then
    [(".plt.sec", mappedSection fixture.pltSecBlock Section.programBits 6 0 0 16 16)]
    else []) ++
  (if fixture.gotImports.isEmpty then []
    else [(".plt.got", mappedSection fixture.pltGotBlock Section.programBits 6 0 0 8
      (pltGotEntrySize fixture.landingPads))])

/-- The sections before the names of the sections, except for the first one, which is null. -/
def namedSections (fixture : Fixture) : List (String × Section) :=
  let front := fixture.fixedSections ++ fixture.stubSections
  front ++
    (if fixture.stripped then []
      else [(".symtab", looseSection fixture.symbolBlock Section.symbolTable (front.length + 2) 1 8 24),
        (".strtab", looseSection fixture.symbolNameBlock Section.stringTable 0 0 1 0)])

def sectionNames (fixture : Fixture) : List String := fixture.namedSections.map (·.1) ++ [".shstrtab"]

def sectionNameBlock (fixture : Fixture) : Block :=
  ⟨if fixture.stripped then fixture.looseStart else fixture.symbolNameBlock.stop, storedNames fixture.sectionNames⟩

def sectionHeaders (fixture : Fixture) : List Section :=
  let all := fixture.namedSections.map (·.2) ++ [looseSection fixture.sectionNameBlock Section.stringTable 0 0 1 0]
  ⟨0, 0, 0, 0, 0, 0, 0, 0, 0, 0⟩ ::
    all.zipIdx.map fun (found, index) => { found with name := nameOffset fixture.sectionNames index }

/-- The block of the section headers, which ends the file. -/
def sectionHeaderBlock (fixture : Fixture) : Block :=
  ⟨alignedToEight fixture.sectionNameBlock.stop, fixture.sectionHeaders.flatMap Section.store⟩

/-- The blocks after the file header and the program headers. -/
def bodyBlocks (fixture : Fixture) : List Block :=
  [fixture.dynamicSymbolBlock, fixture.dynamicNameBlock, fixture.pltRelocationBlock, fixture.gotRelocationBlock,
    fixture.dynamicBlock, fixture.textBlock, dataBlock] ++
  fixture.stubBlocks ++ fixture.symbolBlocks ++ [fixture.sectionNameBlock, fixture.sectionHeaderBlock]

/-- The program headers, with their alignments: the segment that maps the whole file, and the dynamic one. -/
def segments (fixture : Fixture) : List (Segment × Nat) :=
  let size := Block.extent fixture.bodyBlocks
  let dynamic := fixture.dynamicBlock
  (⟨Segment.loadable, 5, 0, 0, size, size⟩, 0x1000) ::
    (if fixture.dynamicSegment then
      [(⟨Segment.dynamic, 4, dynamic.offset, dynamic.offset, dynamic.content.length, dynamic.content.length⟩, 8)]
    else [])

def segmentBlock (fixture : Fixture) : Block :=
  ⟨64, fixture.segments.flatMap fun (segment, alignment) => segment.store alignment⟩

def header (fixture : Fixture) : Header where
  machine := fixture.machine
  segmentTable := 64
  sectionTable := fixture.sectionHeaderBlock.offset
  segmentCount := fixture.segments.length
  sectionCount := fixture.sectionHeaders.length
  nameSection := fixture.sectionHeaders.length - 1

/-- The block of the file header, which is that of an executable. -/
def headerBlock (fixture : Fixture) : Block := ⟨0, fixture.header.store 2 textAddress⟩

def blocks (fixture : Fixture) : List Block :=
  fixture.bodyBlocks ++ [fixture.headerBlock, fixture.segmentBlock]

end ObjectLens.Fixture

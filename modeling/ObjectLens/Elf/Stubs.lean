import ObjectLens.Elf.File
import ObjectLens.Symbol

/-! The stubs through which an ELF program calls imported functions. Slots of the procedure linkage table are named
by their position: the relocation that binds a slot names the import. The entries of `.plt.got` are named by the
slot of the global offset table that they jump through. -/

namespace ObjectLens.Elf

/-- A relocation with the name of its symbol. A relocation without a name binds its place all the same. -/
structure NamedRelocation where
  offset : Nat
  name : Option String
  deriving DecidableEq, Repr, Inhabited

namespace NamedRelocation

/-- Names a relocation. The first symbol of a table stands for no symbol, and an empty name is none. -/
def ofRelocation (symbols : List SymbolEntry) (names : StringTable) (relocation : Relocation) : NamedRelocation where
  offset := relocation.offset
  name := if relocation.symbol = 0 then none
    else symbols[relocation.symbol]?.bind fun entry => names.properName? entry.name

end NamedRelocation

namespace File

/-- Dynamic relocations with the names of the dynamic symbols. -/
def named (file : File) (relocations : List Relocation) : List NamedRelocation :=
  relocations.map (.ofRelocation file.dynamic.symbols file.dynamic.names)

/-- The symbols that a section of relocations links to, with their names. -/
def linkedSymbols? (file : File) (bytes : Bytes) (link : Nat) : Option (List SymbolEntry × StringTable) := do
  let table ← file.sections[link]?
  if table.entrySize = 0 then none
  let strings ← file.sections[table.link]?
  let symbols ← sectionSymbols? file.encoding bytes table
  let names ← StringTable.read? bytes strings.offset strings.size
  return (symbols, names)

/-- The relocations in the sections of some names, in file order. A section whose symbols cannot be read is
skipped. -/
def namedInSections (file : File) (bytes : Bytes) (names : List String) : List NamedRelocation :=
  file.sectionRelocations.flatMap fun (table, relocations) =>
    if file.sectionName table ∈ names then
      match file.linkedSymbols? bytes table.link with
      | some (symbols, strings) => relocations.map (.ofRelocation symbols strings)
      | none => []
    else []

/-- The relocations that bind the slots of the procedure linkage table, in order: those of the dynamic segment, or
those of the sections of the usual names where the segment has none. -/
def pltRelocations (file : File) (bytes : Bytes) : List NamedRelocation :=
  if file.dynamic.pltRelocations.isEmpty then file.namedInSections bytes [".rela.plt", ".rel.plt"]
  else file.named file.dynamic.pltRelocations

/-- The relocations that bind slots of the global offset table. -/
def gotRelocations (file : File) (bytes : Bytes) : List NamedRelocation :=
  let relocations :=
    file.dynamic.relocationsWithAddends ++ file.dynamic.relocations ++ file.dynamic.pltRelocations
  if relocations.isEmpty then
    file.namedInSections bytes [".rela.dyn", ".rel.dyn", ".rela.plt", ".rel.plt"]
  else file.named relocations

end File

/-- Where the slots of a linkage table are: after a header, one entry after the other, up to the end. -/
structure SlotLayout where
  base : Nat
  header : Nat
  entry : Nat
  stop : Nat
  deriving DecidableEq, Repr, Inhabited

namespace SlotLayout

/-- The address of a slot, if the table has room for it. -/
def address? (layout : SlotLayout) (index : Nat) : Option Nat := do
  let offset ← Word.add? (layout.entry * index) layout.header
  let address ← Word.add? layout.base offset
  let stop ← Word.add? address layout.entry
  if stop ≤ layout.stop then return address else none

/-- The sizes of the header and of an entry of `.plt`, by architecture. -/
def sizes : Arch → Nat × Nat
  | .x86 | .x86_64 => (16, 16)
  | .arm64 => (32, 16)
  | .arm => (20, 12)
  | .riscv32 | .riscv64 => (32, 16)

/-- The layout of the section that is called: `.plt.sec`, where it exists, and `.plt` of a known architecture
otherwise. -/
def ofFile? (file : File) : Option SlotLayout :=
  match file.sectionNamed? ".plt.sec" with
  | some found => some ⟨found.address, 0, 16, Word.addCapped found.address found.size⟩
  | none => do
    let found ← file.sectionNamed? ".plt"
    let arch ← file.arch?
    let (header, entry) := sizes arch
    return ⟨found.address, header, entry, Word.addCapped found.address found.size⟩

/-- Pairs slots with the relocations that bind them, from a slot on, as long as there is room. A relocation without
a name uses its slot up. -/
def stubs (layout : SlotLayout) : Nat → List NamedRelocation → List Stub
  | _, [] => []
  | index, relocation :: rest =>
    match layout.address? index with
    | none => []
    | some address =>
      match relocation.name with
      | none => layout.stubs (index + 1) rest
      | some name => ⟨address, name⟩ :: layout.stubs (index + 1) rest

end SlotLayout

/-- The instructions at the front of a function that indirect branches may enter. -/
def landingPads : List (List UInt8) := [[0xf3, 0x0f, 0x1e, 0xfa], [0xf3, 0x0f, 0x1e, 0xfb]]

/-- The size of an entry of `.plt.got`: what the section says, if it says one of the usual sizes, and else the size
that leaves room for a landing pad where there is one. -/
def gotEntrySize (recorded : Nat) (content : List UInt8) : Nat :=
  if recorded = 8 ∨ recorded = 16 then recorded
  else if landingPads.any (·.isPrefixOf content) then 16
  else 8

/-- The first indirect jump in some code: where it stands, its addressing byte, and what follows. Only the addressing
bytes that are asked for count. -/
def indirectJump? (modes : List UInt8) : Nat → List UInt8 → Option (Nat × UInt8 × List UInt8)
  | position, opcode :: mode :: rest =>
    if opcode = 0xff ∧ mode ∈ modes then some (position, mode, rest)
    else indirectJump? modes (position + 1) (mode :: rest)
  | _, _ => none

/-- The address of the slot that an entry of `.plt.got` jumps through: relative to the end of the jump on 64-bit x86;
absolute, or relative to the global offset table, on 32-bit x86. -/
def jumpTarget? (wide : Bool) (address : Nat) (entry : List UInt8) (gotBase : Option Nat) : Option Nat := do
  let (position, mode, rest) ← indirectJump? (if wide then [0x25] else [0x25, 0xa3]) 0 entry
  if rest.length < 4 then none
  let stored := ByteOrder.value .little (rest.take 4)
  let distance := Word.signed 32 stored
  if wide then
    let next ← Word.add? address (position + 6)
    Word.move? next distance
  else if mode = 0x25 then return stored
  else
    let base ← gotBase
    Word.move? base distance

/-- Cuts bytes into whole entries, `left` at most. An incomplete entry at the end is left out. -/
def wholeEntries (size : Nat) : Nat → List UInt8 → List (List UInt8)
  | 0, _ => []
  | left + 1, content =>
    if content.length < size then [] else content.take size :: wholeEntries size left (content.drop size)

namespace File

def pltStubs (file : File) (bytes : Bytes) : List Stub :=
  match SlotLayout.ofFile? file with
  | none => []
  | some layout => layout.stubs 0 (file.pltRelocations bytes)

/-- The name of the first relocation that names a slot of the global offset table. -/
def slotName? (relocations : List NamedRelocation) (slot : Nat) : Option String :=
  (relocations.find? fun relocation => relocation.offset = slot ∧ relocation.name.isSome).bind (·.name)

def sectionContent? (bytes : Bytes) (found : Section) : Option Bytes :=
  if found.kind = Section.noBits then none else bytes.part? found.offset found.size

/-- Where the global offset table starts: `.got.plt`, or else `.got`. -/
def gotBase? (file : File) : Option Nat :=
  ((file.sectionNamed? ".got.plt").or (file.sectionNamed? ".got")).map (·.address)

def gotStubs (file : File) (bytes : Bytes) : List Stub :=
  let wide? := match file.arch? with
    | some .x86_64 => some true
    | some .x86 => some false
    | _ => none
  let found? := do
    let wide ← wide?
    let found ← file.sectionNamed? ".plt.got"
    let content ← sectionContent? bytes found
    return (wide, found, content.view)
  match found? with
  | none => []
  | some (wide, found, content) =>
    let relocations := file.gotRelocations bytes
    let size := gotEntrySize found.entrySize content
    let entries := wholeEntries size content.length content
    entries.zipIdx.filterMap fun (entry, index) => do
      let address := Word.addCapped found.address (index * size)
      let slot ← jumpTarget? wide address entry file.gotBase?
      let name ← slotName? relocations slot
      return ⟨address, name⟩

def stubs (file : File) (bytes : Bytes) : List Stub := file.pltStubs bytes ++ file.gotStubs bytes

end File

end ObjectLens.Elf

import ObjectLens.Elf.Stubs
import ObjectLens.Image

/-! What an ELF file holds for its users: its functions, its stubs and its code. -/

namespace ObjectLens.Elf.File

/-- The functions of the symbol table, or of the dynamic one where the former is empty. Functions without a name are
left out. -/
def functions (file : File) : List Symbol :=
  let (entries, names) :=
    if file.symbols.isEmpty then (file.dynamic.symbols, file.dynamic.names) else (file.symbols, file.symbolNames)
  (entries.filter (·.isDefinedFunction)).filterMap fun entry =>
    (names.properName? entry.name).map fun name => ⟨name, entry.value, entry.size⟩

def region (file : File) (found : Section) : Region :=
  ⟨file.sectionName found, found.address, Word.addCapped found.address found.size, found.offset⟩

def sectionRegions (file : File) (fileSize : Nat) : List Region :=
  (file.sections.filter (·.isCode fileSize)).map file.region

/-- The loadable segments with code whose bytes are in the file, named by their position. -/
def segmentRegions (file : File) (fileSize : Nat) : List Region :=
  (file.segments.zipIdx.filter fun (found, _) =>
    found.kind = Segment.loadable && found.isExecutable && 0 < found.fileSize &&
      found.offset + found.fileSize ≤ fileSize).map fun (found, index) =>
    ⟨s!"LOAD[{index}]", found.address, Word.addCapped found.address found.fileSize, found.offset⟩

/-- The code of the file: its sections, or its segments where no section holds code. -/
def regions (file : File) (fileSize : Nat) : List Region :=
  let sections := file.sectionRegions fileSize
  if sections.isEmpty then file.segmentRegions fileSize else sections

def contents (file : File) (bytes : Bytes) : Contents where
  format := .elf
  arch := file.arch?
  symbols := file.functions
  stubs := file.stubs bytes
  regions := file.regions bytes.size

end ObjectLens.Elf.File

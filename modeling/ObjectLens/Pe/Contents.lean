import ObjectLens.FunctionSize
import ObjectLens.Image
import ObjectLens.Pe.File

/-! What an image holds for its users: its exported functions, its imports, and its code. All addresses are relative
to the base of the image. -/

namespace ObjectLens.Pe

namespace Section

/-- How many bytes of the section are both in memory and in the file. What is larger in memory is filled with zeros
there. -/
def storedSize (found : Section) : Nat :=
  if found.virtualSize = 0 then found.rawSize else min found.virtualSize found.rawSize

/-- The section is a code region: its contents can be executed, and some bytes of it are in the file. -/
def isCode (found : Section) (fileSize : Nat) : Bool :=
  found.characteristics.testBit 29 && found.storedSize ≠ 0 && found.rawOffset + found.storedSize ≤ fileSize

/-- The addresses and the place in the file of a section. -/
def region (found : Section) : Region :=
  ⟨found.name, found.virtualAddress, found.virtualAddress + found.storedSize, found.rawOffset⟩

end Section

namespace File

def regions (file : File) (fileSize : Nat) : List Region :=
  (file.sections.filter (·.isCode fileSize)).map (·.region)

/-- The exports that are functions: they have a name, are not forwarded, and start in a code region. -/
def functions (file : File) (regions : List Region) : List Symbol :=
  let isFunction (found : Export) : Bool :=
    !found.forwarded && regions.any fun region => region.Contains found.address
  (file.exports.filter isFunction).filterMap fun found =>
    (found.name.filter (· ≠ "")).map fun name => ⟨name, found.address, 0⟩

def contents (file : File) (bytes : Bytes) : Contents :=
  let regions := file.regions bytes.size
  { format := .pe
    arch := file.arch?
    symbols := FunctionSize.infer (file.functions regions) regions
    stubs := file.imports.map fun found => ⟨found.address, found.name⟩
    regions }

end File

end ObjectLens.Pe

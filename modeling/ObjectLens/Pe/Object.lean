import ObjectLens.Pe.Header
import ObjectLens.StringTable

/-! Plain COFF objects, which compilers leave for the linker. They are recognised, so that they can be told from files
that make no sense, and are not looked into any further. -/

namespace ObjectLens.Pe.Object

def machines : List Nat := [0x14c, 0x8664, 0xaa64]

/-- Whether the symbols and strings of an object make sense: both lie inside of the file, and the strings are text. The
stated size of the strings counts the four bytes that state it. -/
def symbolsFit (bytes : Bytes) (header : CoffHeader) : Bool :=
  let fits := do
    let _ ← bytes.part? header.symbolTable (18 * header.symbolCount)
    let size ← bytes.number? .little header.stringTable 4
    if size < 4 then none
    StringTable.read? bytes (header.stringTable + 4) (size - 4)
  header.symbolTable = 0 || fits.isSome

/-- Whether a file that starts with the number of a machine is an object for it. -/
def isWellFormed (bytes : Bytes) : Bool :=
  let fits := do
    let header ← CoffHeader.read? bytes 0
    let _ ← Section.table? bytes header CoffHeader.size
    if symbolsFit bytes header then return () else none
  fits.isSome

end ObjectLens.Pe.Object

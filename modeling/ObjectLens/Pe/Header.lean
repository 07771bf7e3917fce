import ObjectLens.Bytes

/-! The headers of PE files, and the section tables that they share with plain COFF objects. All numbers are stored
with their low end first. -/

namespace ObjectLens.Pe

/-- The header of an object: what machine it is for, and how large its tables are. -/
structure CoffHeader where
  machine : Nat
  sectionCount : Nat
  symbolTable : Nat
  symbolCount : Nat
  optionalSize : Nat
  deriving DecidableEq, Repr, Inhabited

namespace CoffHeader

def size : Nat := 20

def read? (bytes : Bytes) (start : Nat) : Option CoffHeader := do
  let record ← bytes.part? start size
  return { machine := record.number .little 0 2
           sectionCount := record.number .little 2 2
           symbolTable := record.number .little 8 4
           symbolCount := record.number .little 12 4
           optionalSize := record.number .little 16 2 }

/-- Where the string table is: after the symbols, of eighteen bytes each. -/
def stringTable (header : CoffHeader) : Nat := header.symbolTable + 18 * header.symbolCount

end CoffHeader

structure Section where
  name : String
  virtualSize : Nat
  virtualAddress : Nat
  rawSize : Nat
  rawOffset : Nat
  characteristics : Nat
  deriving DecidableEq, Repr, Inhabited

namespace Section

def recordSize : Nat := 40

def base64Digit? (char : Char) : Option Nat :=
  if 'A' ≤ char ∧ char ≤ 'Z' then some (char.toNat - 'A'.toNat)
  else if 'a' ≤ char ∧ char ≤ 'z' then some (char.toNat - 'a'.toNat + 26)
  else if '0' ≤ char ∧ char ≤ '9' then some (char.toNat - '0'.toNat + 52)
  else if char = '+' then some 62
  else if char = '/' then some 63
  else none

def decimalDigit? (char : Char) : Option Nat :=
  if '0' ≤ char ∧ char ≤ '9' then some (char.toNat - '0'.toNat) else none

/-- The value of digits in a base, high ones first. No digits have the value zero. -/
def digits? (base : Nat) (digit? : Char → Option Nat) (text : List Char) : Option Nat :=
  text.foldlM (fun front char => (digit? char).map (base * front + ·)) 0

/-- The decimal number in a name, with one plus sign in front at most. There is a digit at least. -/
def decimal? : List Char → Option Nat
  | [] | ['+'] => none
  | '+' :: text => digits? 10 decimalDigit? text
  | text => digits? 10 decimalDigit? text

/-- The offset in the string table that a name of the form `/12` or `//AAAM` stands for. The outer answer is absent
if the name has this form but no number in it. -/
def longNameOffset? (field : Bytes) : Option (Option Nat) :=
  if field.byte? 0 ≠ some 0x2f then some none
  else if field.byte? 1 = some 0x2f then do
    let text ← (field.toZero 2).text?
    return some (← digits? 64 base64Digit? text.toList)
  else do
    let text ← (field.toZero 1).text?
    return some (← decimal? text.toList)

/-- Reads a section header. A long name is looked up in the string table and has to be there. -/
def ofRecord? (bytes : Bytes) (strings : Nat) (record : Bytes) : Option Section := do
  let field := record.part 0 8
  let name ← match ← longNameOffset? field with
    | none => some field.paddedName
    | some offset => bytes.cString? (strings + offset)
  return { name
           virtualSize := record.number .little 8 4
           virtualAddress := record.number .little 12 4
           rawSize := record.number .little 16 4
           rawOffset := record.number .little 20 4
           characteristics := record.number .little 36 4 }

/-- Reads the section table of an object. A count that the file is too short for is refused. -/
def table? (bytes : Bytes) (header : CoffHeader) (start : Nat) : Option (List Section) := do
  if header.sectionCount > bytes.size / recordSize then none
  let records ← bytes.recordsOneByOne? start recordSize header.sectionCount
  records.mapM (ofRecord? bytes header.stringTable)

def pageAligned (size : Nat) : Nat := (size + 4095) / 4096 * 4096

/-- Where the bytes of a section start in the file for those who load it: at a whole sector. -/
def sectorOffset (found : Section) : Nat := found.rawOffset / 512 * 512

def loadedSize (found : Section) (alignment : Nat) : Nat :=
  let stop := (found.rawOffset + found.rawSize + alignment - 1) / alignment * alignment
  let size := min (stop - found.sectorOffset) (pageAligned found.rawSize)
  if found.virtualSize = 0 then size else min size (pageAligned found.virtualSize)

end Section

structure Directory where
  address : Nat
  size : Nat
  deriving DecidableEq, Repr, Inhabited

structure OptionalHeader where
  wide : Bool
  fileAlignment : Nat
  directories : List Directory
  deriving DecidableEq, Repr, Inhabited

namespace OptionalHeader

/-- Reads the header of an image. It has one of two forms, and sixteen directories at most. -/
def read? (bytes : Bytes) (start : Nat) : Option OptionalHeader := do
  let wide ← match ← bytes.number? .little start 2 with
    | 0x10b => some false
    | 0x20b => some true
    | _ => none
  let size := if wide then 112 else 96
  let record ← bytes.part? start size
  let count := record.number .little (size - 4) 4
  if 16 < count then none
  let records ← bytes.recordsOneByOne? (start + size) 8 count
  return { wide
           fileAlignment := record.number .little 36 4
           directories := records.map fun entry => ⟨entry.number .little 0 4, entry.number .little 4 4⟩ }

/-- The directory of an index. One that is all zero is absent. -/
def directory? (header : OptionalHeader) (index : Nat) : Option Directory :=
  header.directories[index]?.filter fun found => found.address ≠ 0 || found.size ≠ 0

end OptionalHeader

end ObjectLens.Pe

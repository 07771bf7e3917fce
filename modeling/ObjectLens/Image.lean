import ObjectLens.Bytes
import ObjectLens.Config
import ObjectLens.Instruction.Decoder
import ObjectLens.Region
import ObjectLens.Symbol

/-! An opened binary and the questions it answers. Whatever the container format, an image is made of the same
tables; the loaders fill them in, and nothing here looks at the format again. -/

namespace ObjectLens

structure Contents where
  format : Format
  arch : Option Arch
  symbols : List Symbol
  stubs : List Stub
  regions : List Region
  deriving DecidableEq, Repr, Inhabited

structure Image where
  format : Format
  arch : Option Arch
  dialect : Dialect
  bytes : Bytes
  symbols : SymbolTable
  stubs : StubTable
  regions : List Region

/-- Why a range of code has no bytes or no instructions. -/
inductive CodeFault where
  | overflow
  | outside
  | pastEndOfFile
  | unknownArch
  | undecodable (address decoded total : Nat)
  deriving DecidableEq, Repr, Inhabited

def CodeFault.message : CodeFault → String
  | .overflow => "range overflows"
  | .outside => "range is not inside a mapped executable region"
  | .pastEndOfFile => "range extends past end of file"
  | .unknownArch => "unknown architecture; set an architecture override"
  | .undecodable address decoded total =>
    "invalid instruction at 0x" ++ Hex.upperDigits address ++
      s!" ({decoded} of {total} bytes decoded)"

/-- Why a question about an opened binary has no answer. -/
inductive QueryError where
  | unknownSymbol (name : String)
  | badCode (address size : Nat) (fault : CodeFault)
  deriving DecidableEq, Repr, Inhabited

def QueryError.message : QueryError → String
  | .unknownSymbol name => "Unknown symbol: " ++ name
  | .badCode address size fault =>
    s!"Cannot decode {size} bytes at 0x" ++ Hex.upperDigits address ++ ": " ++ fault.message

namespace Image

open Instruction (Disassembler)

/-- The image of a file, with the user's options over what the file says. -/
def ofContents (config : Config) (bytes : Bytes) (contents : Contents) : Image where
  format := contents.format
  arch := config.arch.or contents.arch
  dialect := config.dialect
  bytes := bytes
  symbols := .ofList contents.symbols
  stubs := .ofList contents.stubs
  regions := contents.regions

/-- Functions of 32-bit ARM at odd addresses are Thumb code. -/
def isThumb (image : Image) (address : Nat) : Bool := image.arch = some .arm ∧ address % 2 = 1

/-- Where the code of a function really starts: the low bit of a Thumb address is no part of it. -/
def codeAddress (image : Image) (address : Nat) : Nat := if image.isThumb address then address - 1 else address

/-- The bytes of a range of code, which has to lie inside of one region. If it lies inside of several, the first
one counts. -/
def code (image : Image) (address size : Nat) : Except CodeFault Bytes := do
  let start := image.codeAddress address
  let some stop := Word.add? start size | throw .overflow
  let some region := image.regions.find? fun region => region.Encloses start stop | throw .outside
  let some bytes := image.bytes.part? (region.offsetOf start) size | throw .pastEndOfFile
  return bytes

/-- The instructions of a range of code, as a disassembler lists them. All of it has to decode. -/
def instructions (image : Image) (disassembler : Disassembler) (address size : Nat) :
    Except CodeFault (List Instruction) := do
  let some arch := image.arch | throw .unknownArch
  let bytes ← image.code address size
  let encoding := Instruction.Encoding.ofArch arch (image.isThumb address)
  match Instruction.decode disassembler encoding image.dialect (image.codeAddress address) bytes.view with
  | .ok found => return found
  | .error stopped => throw (.undecodable stopped.address stopped.decoded bytes.size)

def codeBytes (image : Image) (address size : Nat) : Except QueryError Bytes :=
  (image.code address size).mapError (.badCode address size)

/-- The instructions of a range of code as a disassembler lists them, for the user. -/
def decodeBy (image : Image) (disassembler : Disassembler) (address size : Nat) :
    Except QueryError (List Instruction) :=
  (image.instructions disassembler address size).mapError (.badCode address size)

/-- The function of a symbol. A symbol of size zero has an empty body, wherever it is. -/
def function (image : Image) (disassembler : Disassembler) (symbol : Symbol) : Except QueryError Function := do
  if symbol.size = 0 then
    return ⟨symbol.name, symbol.address, 0, [], []⟩
  let bytes ← image.codeBytes symbol.address symbol.size
  let instructions ← image.decodeBy disassembler symbol.address symbol.size
  return ⟨symbol.name, symbol.address, symbol.size, bytes.view, instructions⟩

/-- The function with exactly this name, decoded by a disassembler. -/
def resolveBy (image : Image) (disassembler : Disassembler) (name : String) : Except QueryError Function := do
  let some symbol := image.symbols.named? name | throw (.unknownSymbol name)
  image.function disassembler symbol

/-- The instructions of a range of code, by the instruction tables. -/
def decode (image : Image) (address size : Nat) : Except QueryError (List Instruction) :=
  image.decodeBy .tables address size

/-- The function with exactly this name, by the instruction tables. -/
def resolve (image : Image) (name : String) : Except QueryError Function := image.resolveBy .tables name

/-- The name of the function that starts exactly at an address. -/
def nameAt? (image : Image) (address : Nat) : Option String :=
  (image.symbols.startingAt? address).map Symbol.name

/-- The name of the imported routine whose stub starts exactly at an address. -/
def stubNameAt? (image : Image) (address : Nat) : Option String :=
  (image.stubs.startingAt? address).map Stub.name

end Image

end ObjectLens

import ObjectLens.Bytes

/-! Small ELF executables for trying out readers: 64-bit x86 by default, with hand-made code, a procedure linkage
table and symbols of one's choice. A fixture is described step by step and laid out in one go. -/

namespace ObjectLens

inductive Fixture.SymbolKind where
  | function
  | object
  deriving DecidableEq, Repr, Inhabited

/-- A symbol of a fixture. An exported one is also a dynamic symbol. -/
structure Fixture.Symbol where
  name : String
  address : Nat
  size : Nat
  kind : Fixture.SymbolKind
  exported : Bool
  deriving DecidableEq, Repr, Inhabited

structure Fixture where
  machine : Nat := 62
  text : List UInt8 := []
  symbols : List Fixture.Symbol := []
  /-- Functions that are called through the slots of the procedure linkage table. -/
  imports : List String := []
  gotImports : List String := []
  stripped : Bool := false
  /-- Every stub starts with a landing pad, and those that are called are in a section of their own. -/
  landingPads : Bool := false
  /-- With a dynamic segment, which leads to the relocations without the section headers. -/
  dynamicSegment : Bool := true
  deriving DecidableEq, Repr, Inhabited

namespace Fixture

inductive BuildError where
  | textTooLong
  | tooManySymbols
  | tooManyImports
  | tooManyGotImports
  deriving DecidableEq, Repr, Inhabited

def BuildError.message : BuildError → String
  | .textTooLong => "fixture .text holds at most 64 bytes"
  | .tooManySymbols => "too many fixture symbols for the dynamic area"
  | .tooManyImports => "too many fixture imports"
  | .tooManyGotImports => "too many fixture GOT imports"

def textAddress : Nat := 0x1000

/-- How much room there is for code. What is left over is filled with breakpoints. -/
def textSize : Nat := 0x40

def dataAddress : Nat := 0x1800

def data : List UInt8 := Bytes.view "hello, fixture!\x00".toUTF8

def pltAddress : Nat := 0x1ff0

/-- The size of the table's header, and of each of its slots. -/
def pltSlotSize : Nat := 16

def pltSecAddress : Nat := 0x2400

def pltGotAddress : Nat := 0x2800

/-- Where the slots that `.plt.got` jumps through would be in memory. -/
def dataGotAddress : Nat := 0x2f00

/-- Where the slots that the procedure linkage table jumps through would be in memory. -/
def gotAddress : Nat := 0x3000

/-- The address of a slot of the procedure linkage table. -/
def pltSlot (index : Nat) : Nat := pltAddress + pltSlotSize + pltSlotSize * index

def pltSecSlot (index : Nat) : Nat := pltSecAddress + 16 * index

/-- The size of an entry of `.plt.got`, which is larger with landing pads. -/
def pltGotEntrySize (landingPads : Bool) : Nat := if landingPads then 16 else 8

def pltGotSlot (index : Nat) (landingPads : Bool) : Nat := pltGotAddress + pltGotEntrySize landingPads * index

/-- A function of thirty-two bytes: a frame, nothing in it, a return. -/
def mainBody : List UInt8 := [0x55, 0x48, 0x89, 0xe5] ++ List.replicate 26 0x90 ++ [0x5d, 0xc3]

def helperBody : List UInt8 := [0x31, 0xc0] ++ List.replicate 13 0x90 ++ [0xc3]

inductive Step where
  | machine (number : Nat)
  | text (code : List UInt8)
  | symbol (found : Symbol)
  | importFunction (name : String)
  | importThroughGot (name : String)
  | withLandingPads
  | withoutDynamicSegment
  | strip
  deriving DecidableEq, Repr, Inhabited

/-- The description after one more step. Code that is too long is refused at once. -/
def apply (fixture : Fixture) : Step → Except BuildError Fixture
  | .machine number => .ok { fixture with machine := number }
  | .text code =>
    if code.length ≤ textSize then .ok { fixture with text := code } else .error .textTooLong
  | .symbol found => .ok { fixture with symbols := fixture.symbols ++ [found] }
  | .importFunction name => .ok { fixture with imports := fixture.imports ++ [name] }
  | .importThroughGot name => .ok { fixture with gotImports := fixture.gotImports ++ [name] }
  | .withLandingPads => .ok { fixture with landingPads := true }
  | .withoutDynamicSegment => .ok { fixture with dynamicSegment := false }
  | .strip => .ok { fixture with stripped := true }

def applyAll (fixture : Fixture) (steps : List Step) : Except BuildError Fixture := steps.foldlM apply fixture

/-- A fixture with some of everything: two names for one function, a function without a body, a function that is no
code, an object that is no function, and two imports. -/
def sample : Fixture where
  text := mainBody ++ helperBody
  symbols :=
    [⟨"main", textAddress, 32, .function, true⟩,
     ⟨"main_alias", textAddress, 32, .function, false⟩,
     ⟨"helper", textAddress + 0x20, 16, .function, false⟩,
     ⟨"empty_fn", textAddress + 0x30, 0, .function, false⟩,
     ⟨"bogus_fn", dataAddress, 8, .function, false⟩,
     ⟨"data_obj", dataAddress + 8, 8, .object, false⟩]
  imports := ["printf", "puts"]

end Fixture

end ObjectLens

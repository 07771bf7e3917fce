import ObjectLens.Word
import Std.Data.HashMap

/-! Function symbols and import stubs, and the two tables that look them up. Each table keeps its entries in file
order and beside them an index, which leads from a key to a position among the entries. -/

namespace ObjectLens

structure Symbol where
  name : String
  address : Nat
  size : Nat
  deriving DecidableEq, Repr, Inhabited

/-- The end of the function's range, which is the greatest address if the range would run past it. -/
def Symbol.stop (symbol : Symbol) : Nat := Word.addCapped symbol.address symbol.size

/-- A piece of code or a slot that stands for an imported routine. -/
structure Stub where
  address : Nat
  name : String
  deriving DecidableEq, Repr, Inhabited

/-- The position of the first entry with each key. A key that was seen before keeps its position. -/
def firstPositions {κ α : Type} [BEq κ] [Hashable κ] (key : α → κ) (entries : List α) : Std.HashMap κ Nat :=
  entries.zipIdx.foldl (fun index (entry, position) => index.insertIfNew (key entry) position) ∅

/-- Function symbols in file order, with an index by name and one by address. -/
structure SymbolTable where
  entries : List Symbol
  byName : Std.HashMap String Nat
  byAddress : Std.HashMap Nat Nat

namespace SymbolTable

def ofList (entries : List Symbol) : SymbolTable where
  entries := entries
  byName := firstPositions Symbol.name entries
  byAddress := firstPositions Symbol.address entries

def named? (table : SymbolTable) (name : String) : Option Symbol := table.byName[name]?.bind (table.entries[·]?)

def startingAt? (table : SymbolTable) (address : Nat) : Option Symbol :=
  table.byAddress[address]?.bind (table.entries[·]?)

end SymbolTable

/-- Import stubs in file order, one for each address, with an index by address. -/
structure StubTable where
  entries : List Stub
  byAddress : Std.HashMap Nat Nat

namespace StubTable

def firstClaims : List Stub → List Stub
  | [] => []
  | stub :: rest => stub :: (firstClaims rest).filter (·.address ≠ stub.address)

/-- Adds a stub behind the others, unless its address is taken. Stubs that were left out have no position. -/
def claim (table : StubTable) (stub : Stub) : StubTable :=
  if stub.address ∈ table.byAddress then table
  else ⟨table.entries ++ [stub], table.byAddress.insert stub.address table.entries.length⟩

/-- The stubs in their order, as far as their addresses are not taken. Proofs go by the laws of the table and never
unfold this. -/
@[irreducible]
def ofList (stubs : List Stub) : StubTable := stubs.foldl claim ⟨[], ∅⟩

def startingAt? (table : StubTable) (address : Nat) : Option Stub :=
  table.byAddress[address]?.bind (table.entries[·]?)

end StubTable

end ObjectLens

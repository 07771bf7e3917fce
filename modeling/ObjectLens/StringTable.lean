import ObjectLens.Bytes

/-! String tables: names one after the other, each ended by a zero byte. A name is referred to by the position of
any of its bytes, so the end of one name can serve as another. -/

namespace ObjectLens

structure StringTable where
  bytes : Bytes

namespace StringTable

def empty : StringTable := ⟨.empty⟩

/-- The table in a part of a file. All of it has to be text, since a zero byte is a character of its own. -/
def read? (file : Bytes) (offset size : Nat) : Option StringTable := do
  let bytes ← file.part? offset size
  let _ ← bytes.text?
  return ⟨bytes⟩

/-- The name that starts at a position. There is none past the end or inside of a character. -/
def name? (table : StringTable) (position : Nat) : Option String :=
  if position < table.bytes.size then (table.bytes.toZero position).text? else none

/-- The name that starts at a position, unless it is empty. -/
def properName? (table : StringTable) (position : Nat) : Option String :=
  (table.name? position).filter (· ≠ "")

end StringTable

end ObjectLens

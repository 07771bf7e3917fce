import ObjectLens.Elf.Record
import ObjectLens.StringTable

/-! The tables for dynamic linking, as the dynamic segment points to them. The segment gives addresses; an address
means the byte of the file that is mapped to it. -/

namespace ObjectLens.Elf

namespace Segment

/-- The position in the file of the byte at an address, by the first loadable segment that covers the address. A
position that is no 64-bit word does not count. -/
def fileOffset? (segments : List Segment) (address : Nat) : Option Nat :=
  match segments.find? fun segment =>
    segment.kind = loadable && segment.address ≤ address && address < segment.address + segment.memorySize with
  | none => none
  | some segment => Word.add? segment.offset (address - segment.address)

end Segment

namespace DynamicEntry

/-- The entries of the first dynamic segment, up to and without the entry that ends them. -/
def table? (encoding : Encoding) (bytes : Bytes) (segments : List Segment) : Option (List DynamicEntry) :=
  match segments.find? (·.kind = Segment.dynamic) with
  | none => some []
  | some segment =>
    if segment.fileSize = 0 then some []
    else do
      let content ← bytes.part? segment.offset segment.fileSize
      let width := recordSize encoding
      let records ← content.records? 0 width (segment.fileSize / width)
      return (records.map (ofRecord encoding)).takeWhile (·.tag ≠ 0)

def last? (entries : List DynamicEntry) (tag : Nat) : Option Nat :=
  (entries.reverse.find? (·.tag = tag)).map (·.value)

def last (entries : List DynamicEntry) (tag : Nat) : Nat := (last? entries tag).getD 0

end DynamicEntry

/-- Walks a chain of hash values, which ends with an odd one, and counts on from the number of its first symbol. The
values are read one by one, so a chain without an end fails at the end of the file; `left` bounds their number. -/
def walkHashChain (encoding : Encoding) (bytes : Bytes) : Nat → Nat → Nat → Option Nat
  | 0, _, _ => none
  | left + 1, position, symbol => do
    let hash ← bytes.number? encoding.order position 4
    if hash % 2 = 1 then return symbol + 1
    walkHashChain encoding bytes left (position + 4) (symbol + 1)

/-- The number of symbols that a GNU hash table covers: its last chain ends with the last symbol. -/
def gnuHashCount? (encoding : Encoding) (bytes : Bytes) (offset : Nat) : Option Nat := do
  let bucketCount ← bytes.number? encoding.order offset 4
  let firstSymbol ← bytes.number? encoding.order (offset + 4) 4
  let bloomSize ← bytes.number? encoding.order (offset + 8) 4
  if bucketCount = 0 ∨ firstSymbol = 0 ∨ bloomSize = 0 then none
  let bucketTable := offset + 16 + bloomSize * encoding.wordSize
  let buckets ← bytes.records? bucketTable 4 bucketCount
  let lastStart := (buckets.map fun bucket => bucket.number encoding.order 0 4).foldl max 0
  if lastStart < firstSymbol then return 0
  walkHashChain encoding bytes (bytes.size + 1)
    (bucketTable + 4 * bucketCount + 4 * (lastStart - firstSymbol)) lastStart

/-- The number of symbols that a hash table of the older kind covers. Two 64-bit machines store it in eight bytes. -/
def hashCount? (encoding : Encoding) (machine : Nat) (bytes : Bytes) (offset : Nat) : Option Nat :=
  let width := if encoding.wide ∧ (machine = 22 ∨ machine = 0x9026) then 8 else 4
  bytes.number? encoding.order (offset + 4) width

/-- What the dynamic table leads to. A table without entries leads to empty tables. -/
structure Dynamic where
  symbols : List SymbolEntry
  names : StringTable
  relocationsWithAddends : List Relocation
  relocations : List Relocation
  pltRelocations : List Relocation

namespace Dynamic

/-- The number of dynamic symbols. A hash table tells it; the relocations raise it to the greatest symbol that they
name. -/
def symbolCount? (encoding : Encoding) (machine : Nat) (bytes : Bytes) (gnuHash hash : Option Nat)
    (relocations : List Relocation) : Option Nat := do
  let hashed ← match gnuHash, hash with
    | some offset, _ => gnuHashCount? encoding bytes offset
    | none, some offset => hashCount? encoding machine bytes offset
    | none, none => some 0
  let greatest := (relocations.map (·.symbol)).foldl max 0
  return if greatest = 0 then hashed else max hashed (greatest + 1)

/-- Reads the tables that the entries of the dynamic table point to. -/
def read? (encoding : Encoding) (machine : Nat) (bytes : Bytes) (segments : List Segment)
    (entries : List DynamicEntry) : Option Dynamic := do
  let value := DynamicEntry.last entries
  let offset? (tag : Nat) : Option Nat := (DynamicEntry.last? entries tag).bind (Segment.fileOffset? segments)
  let offset (tag : Nat) : Nat := (offset? tag).getD 0
  let names ← StringTable.read? bytes (offset 5) (value 10)
  let relocationsWithAddends ← Relocation.table? encoding bytes (offset 7) (value 8) true
  let relocations ← Relocation.table? encoding bytes (offset 17) (value 18) false
  let pltRelocations ← Relocation.table? encoding bytes (offset 23) (value 2) (value 20 = 7)
  let count ← symbolCount? encoding machine bytes (offset? 0x6ffffef5) (offset? 4)
    (relocationsWithAddends ++ relocations ++ pltRelocations)
  let symbols ← bytes.records? (offset 6) (SymbolEntry.recordSize encoding) count
  return ⟨symbols.map (SymbolEntry.ofRecord encoding), names, relocationsWithAddends, relocations, pltRelocations⟩

end Dynamic

end ObjectLens.Elf

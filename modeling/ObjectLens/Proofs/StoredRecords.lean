import ObjectLens.Elf.File
import ObjectLens.Proofs.StoredBytes

/-! The records of ELF files read back as they were written, as far as their fields have room for the numbers. -/

namespace ObjectLens.Elf

open Bytes (ofList)

namespace Header

/-- Each number has room in its field. -/
structure Storable (header : Header) : Prop where
  machine : header.machine < 0x10000
  segmentTable : header.segmentTable < Word.limit
  sectionTable : header.sectionTable < Word.limit
  segmentCount : header.segmentCount < 0x10000
  sectionCount : header.sectionCount < 0x10000
  nameSection : header.nameSection < 0x10000

theorem length_store (header : Header) (type entry : Nat) : (header.store type entry).length = 64 := by
  simp only [store, List.length_append, length_littleEndian, List.length_cons, List.length_nil]

theorem ofRecord_store {header : Header} (fits : header.Storable) (type entry : Nat) :
    ofRecord .wideLittle (ofList (header.store type entry)) = header := by
  obtain ⟨machine, segmentTable, sectionTable, segmentCount, sectionCount, nameSection⟩ := fits
  simp only [Word.limit] at *
  simp only [ofRecord, store, Encoding.field, Encoding.wideLittle, ite_true, Bytes.number_ofList, List.append_assoc]
  simp [List.drop_append, List.drop_eq_nil_of_le, List.take_of_length_le, value_littleEndian, Nat.mod_eq_of_lt, *]

end Header

namespace Section

structure Storable (entry : Section) : Prop where
  name : entry.name < 0x100000000
  kind : entry.kind < 0x100000000
  flags : entry.flags < Word.limit
  address : entry.address < Word.limit
  offset : entry.offset < Word.limit
  size : entry.size < Word.limit
  link : entry.link < 0x100000000
  info : entry.info < 0x100000000
  alignment : entry.alignment < Word.limit
  entrySize : entry.entrySize < Word.limit

theorem length_store (entry : Section) : entry.store.length = 64 := by
  simp only [store, List.length_append, length_littleEndian]

theorem ofRecord_store {entry : Section} (fits : entry.Storable) :
    ofRecord .wideLittle (ofList entry.store) = entry := by
  obtain ⟨name, kind, flags, address, offset, size, link, info, alignment, entrySize⟩ := fits
  simp only [Word.limit] at *
  simp only [ofRecord, store, Encoding.field, Encoding.wideLittle, ite_true, Bytes.number_ofList, List.append_assoc]
  simp [List.drop_append, List.drop_eq_nil_of_le, List.take_of_length_le, value_littleEndian, Nat.mod_eq_of_lt, *]

end Section

namespace Segment

structure Storable (segment : Segment) : Prop where
  kind : segment.kind < 0x100000000
  flags : segment.flags < 0x100000000
  offset : segment.offset < Word.limit
  address : segment.address < Word.limit
  fileSize : segment.fileSize < Word.limit
  memorySize : segment.memorySize < Word.limit

theorem length_store (segment : Segment) (alignment : Nat) : (segment.store alignment).length = 56 := by
  simp only [store, List.length_append, length_littleEndian]

theorem ofRecord_store {segment : Segment} (fits : segment.Storable) (alignment : Nat) :
    ofRecord .wideLittle (ofList (segment.store alignment)) = segment := by
  obtain ⟨kind, flags, offset, address, fileSize, memorySize⟩ := fits
  simp only [Word.limit] at *
  simp only [ofRecord, store, Encoding.field, Encoding.wideLittle, ite_true, Bytes.number_ofList, List.append_assoc]
  simp [List.drop_append, List.drop_eq_nil_of_le, value_littleEndian, Nat.mod_eq_of_lt, *]

end Segment

namespace SymbolEntry

/-- The entry with the digits that its fields have room for. -/
def cut (entry : SymbolEntry) : SymbolEntry :=
  ⟨entry.name % 0x100000000, entry.info % 256, entry.sectionIndex % 0x10000, entry.value % Word.limit,
    entry.size % Word.limit⟩

theorem length_store (entry : SymbolEntry) : entry.store.length = 24 := by
  simp only [store, List.length_append, length_littleEndian]

theorem ofRecord_store (entry : SymbolEntry) : ofRecord .wideLittle (ofList entry.store) = entry.cut := by
  simp only [ofRecord, store, cut, Encoding.field, Encoding.wideLittle, ite_true, Bytes.number_ofList,
    List.append_assoc, Word.limit]
  simp [List.drop_append, List.drop_eq_nil_of_le, List.take_of_length_le, value_littleEndian]

end SymbolEntry

namespace Relocation

structure Storable (relocation : Relocation) : Prop where
  offset : relocation.offset < Word.limit
  symbol : relocation.symbol < 0x100000000

theorem length_store (relocation : Relocation) (type : Nat) : (relocation.store type).length = 24 := by
  simp only [store, List.length_append, length_littleEndian]

/-- The symbol stands above the type, which is left out. -/
theorem ofRecord_store {relocation : Relocation} {type : Nat} (fits : relocation.Storable)
    (short : type < 0x100000000) : ofRecord .wideLittle (ofList (relocation.store type)) = relocation := by
  obtain ⟨offset, symbol⟩ := fits
  simp only [Word.limit] at offset
  have word : 0x100000000 * relocation.symbol + type < 0x10000000000000000 := by omega
  have above : (0x100000000 * relocation.symbol + type) / 0x100000000 = relocation.symbol := by omega
  simp only [ofRecord, store, Encoding.field, Encoding.wideLittle, ite_true, Bytes.number_ofList, List.append_assoc]
  simp [List.drop_append, value_littleEndian, Nat.mod_eq_of_lt, *]

/-- A table of stored relocations is read back, also if it is empty. -/
theorem table?_of_standsAt {bytes : Bytes} {start size type : Nat} {relocations : List Relocation}
    (fits : ∀ relocation ∈ relocations, relocation.Storable) (short : type < 0x100000000)
    (stands : StandsAt bytes.view start (relocations.flatMap (·.store type)))
    (length : (relocations.flatMap (·.store type)).length = size) :
    table? .wideLittle bytes start size true = some relocations := by
  have uniform : ∀ relocation ∈ relocations, (relocation.store type).length = 24 :=
    fun relocation _ => relocation.length_store type
  rw [length_flatMap_of_uniform uniform] at length
  simp only [table?]
  split
  next nothing =>
    have none : relocations = [] := List.length_eq_zero_iff.mp (by omega)
    rw [none]
  next some =>
    have width : recordSize .wideLittle true = 24 := rfl
    have whole : relocations.length = size / 24 := by omega
    rw [Bytes.part?_of_standsAt stands (by rw [length_flatMap_of_uniform uniform, length]), width, ← whole]
    simp only [Option.bind_eq_bind, Option.bind_some, Bytes.records?_flatMap uniform, List.map_map, Option.pure_def,
      Option.some.injEq]
    exact (List.map_congr_left fun relocation member => ofRecord_store (fits relocation member) short).trans
      (List.map_id _)

end Relocation

namespace DynamicEntry

structure Storable (entry : DynamicEntry) : Prop where
  tag : entry.tag < Word.limit
  value : entry.value < Word.limit

theorem length_store (entry : DynamicEntry) : entry.store.length = 16 := by
  simp only [store, List.length_append, length_littleEndian]

theorem ofRecord_store {entry : DynamicEntry} (fits : entry.Storable) :
    ofRecord .wideLittle (ofList entry.store) = entry := by
  obtain ⟨tag, value⟩ := fits
  simp only [Word.limit] at *
  simp only [ofRecord, store, Encoding.field, Encoding.wideLittle, ite_true, Bytes.number_ofList]
  simp [List.drop_append, List.take_of_length_le, value_littleEndian, Nat.mod_eq_of_lt, *]

end DynamicEntry

end ObjectLens.Elf

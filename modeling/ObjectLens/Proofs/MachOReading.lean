import ObjectLens.MachO.Section
import ObjectLens.MachO.SymbolEntry
import ObjectLens.Proofs.StoredNames

/-! A Mach-O file for 32-bit processors is read command by command, and what a command says is read back from its words.
What else is in the file does not matter. -/

namespace ObjectLens

/-- Each of some numbers has a word for itself. -/
def FitWords (numbers : List Nat) : Prop := ∀ number ∈ numbers, number < 0x100000000

instance (numbers : List Nat) : Decidable (FitWords numbers) := inferInstanceAs (Decidable (∀ number ∈ numbers, _))

@[simp] theorem length_words (numbers : List Nat) : (words numbers).length = 4 * numbers.length :=
  length_flatMap_of_uniform fun number _ => length_littleEndian 4 number

namespace Bytes

variable {bytes : Bytes} {numbers : List Nat} {start found : Nat}

theorem number?_of_words (stands : StandsAt bytes.view start (words numbers)) (fit : FitWords numbers) (index : Nat)
    (listed : numbers[index]? = some found) : bytes.number? .little (start + 4 * index) 4 = some found := by
  obtain ⟨inside, rfl⟩ := List.getElem?_eq_some_iff.mp listed
  have here := stands.trans (StandsAt.flatMap (fun number _ => length_littleEndian 4 number) index inside)
  have short := fit numbers[index] (List.getElem_mem inside)
  rw [number?, part?_of_standsAt here (length_littleEndian 4 _), Option.map_some, view_ofList, value_littleEndian]
  exact congrArg some (Nat.mod_eq_of_lt short)

theorem number_of_words (stands : StandsAt bytes.view start (words numbers)) (fit : FitWords numbers) (index : Nat)
    (listed : numbers[index]? = some found) : bytes.number .little (start + 4 * index) 4 = found := by
  have read := number?_of_words stands fit index listed
  obtain ⟨field, here, value⟩ := Option.map_eq_some_iff.mp read
  rw [number, (part?_eq_some_iff.mp here).2, value]

/-- A part of a record is a part of the file. -/
private theorem part_of_record {record : Bytes} {count : Nat} (here : bytes.part? start count = some record)
    {place width : Nat} (inside : place + width ≤ count) :
    record.part place width = bytes.part (start + place) width := by
  obtain ⟨_, rfl⟩ := part?_eq_some_iff.mp here
  apply ext_view
  rw [view_part, view_part, view_part, List.drop_take, List.take_take, List.drop_drop]
  exact congrArg (List.take · _) (Nat.min_eq_left (by omega))

theorem number_of_record {record : Bytes} {count : Nat} (here : bytes.part? start count = some record)
    (order : ByteOrder) {place width : Nat} (inside : place + width ≤ count) :
    record.number order place width = bytes.number order (start + place) width := by
  rw [number, number, part_of_record here inside]

theorem cString?_of_standsAt {name : String} (free : ZeroFree name)
    (stands : StandsAt bytes.view start (Bytes.view name.toUTF8 ++ [0])) : bytes.cString? start = some name := by
  have inside := stands.inside
  rw [List.length_append, List.length_singleton, length_view bytes] at inside
  rw [cString?, if_pos (by omega), toZero_of_standsAt stands free, ofList_view]
  exact text?_toUTF8 name

theorem part?_of_inside {count : Nat} (inside : start + count ≤ bytes.size) :
    bytes.part? start count = some (bytes.part start count) := if_pos inside

end Bytes

namespace MachO

def narrow : Encoding := ⟨false, .little⟩

namespace Command

variable {bytes : Bytes} {start : Nat}

theorem readAll?_cons {command : Command} {others : List Command} {left number size : Nat} {more : List Nat}
    (stands : StandsAt bytes.view start (words (number :: size :: more))) (fit : FitWords (number :: size :: more))
    (inside : start + size ≤ bytes.size) (first : read? narrow bytes start number = some command)
    (rest : readAll? narrow bytes left (start + size) = some others) :
    readAll? narrow bytes (left + 1) start = some (command :: others) := by
  have numberRead : bytes.number? .little start 4 = some number := Bytes.number?_of_words stands fit 0 rfl
  have sizeRead : bytes.number? .little (start + 4) 4 = some size := Bytes.number?_of_words stands fit 1 rfl
  rw [readAll?, show narrow.order = .little from rfl, numberRead, sizeRead]
  simp only [Option.bind_eq_bind, Option.bind_some, if_neg (Nat.not_lt.mpr inside), first, rest]
  rfl

/-- The words of a segment stand around its name. -/
theorem read?_segment {name : List UInt8} {size address length fileOffset fileSize most initial count flags : Nat}
    (stands : StandsAt bytes.view start (words [1, size] ++ (name ++
      words [address, length, fileOffset, fileSize, most, initial, count, flags])))
    (named : name.length = 16) (fit : FitWords [address, length, fileOffset, fileSize, most, initial, count, flags])
    (inside : fileOffset + fileSize ≤ bytes.size) :
    read? narrow bytes start 1 = some (.segment ⟨.ofList name, address, count, start + 56⟩) := by
  have behind := stands.append_right
  have fields := behind.append_right
  rw [length_words] at behind fields
  rw [named] at fields
  have whole : start + 56 ≤ bytes.size := by
    have enough := fields.inside
    simp only [length_words, Bytes.length_view, List.length_cons, List.length_nil] at enough
    exact enough
  have record := Bytes.part?_of_inside whole
  have field {place : Nat} (within : place + 4 ≤ 56) := Bytes.number_of_record record .little within
  have unfolded : read? narrow bytes start 1 = (bytes.part? start 56).bind fun record =>
      if record.number .little 36 4 ≠ 0 ∧
          bytes.size < record.number .little 32 4 + record.number .little 36 4 then none
      else some (.segment ⟨record.part 8 16, record.number .little 24 4, record.number .little 48 4, start + 56⟩) := by
    rfl
  have addressRead : bytes.number .little (start + 24) 4 = address := Bytes.number_of_words fields fit 0 rfl
  have offsetRead : bytes.number .little (start + 32) 4 = fileOffset := Bytes.number_of_words fields fit 2 rfl
  have sizeRead : bytes.number .little (start + 36) 4 = fileSize := Bytes.number_of_words fields fit 3 rfl
  have countRead : bytes.number .little (start + 48) 4 = count := Bytes.number_of_words fields fit 6 rfl
  have nameRead : bytes.part (start + 8) 16 = .ofList name := Bytes.part_of_standsAt behind.append_left named
  rw [unfolded, record, Option.bind_some, field (by decide), field (by decide), field (by decide), field (by decide),
    Bytes.part_of_record record (by decide), addressRead, offsetRead, sizeRead, countRead, nameRead,
    if_neg fun outside => Nat.not_lt.mpr inside outside.2]

theorem read?_symbols {size entries count strings length : Nat}
    (stands : StandsAt bytes.view start (words [2, size, entries, count, strings, length]))
    (fit : FitWords [2, size, entries, count, strings, length]) (ordered : entries ≤ strings)
    (inside : entries ≤ bytes.size) :
    read? narrow bytes start 2 = some (.symbols ⟨entries, count, strings⟩) := by
  have whole : start + 24 ≤ bytes.size := by
    have enough := stands.inside
    rw [length_words] at enough
    exact enough
  have record := Bytes.part?_of_inside whole
  have unfolded : read? narrow bytes start 2 = (bytes.part? start 24).bind fun record =>
      if record.number .little 16 4 < record.number .little 8 4 ∨ bytes.size < record.number .little 8 4 then none
      else some (.symbols ⟨record.number .little 8 4, record.number .little 12 4, record.number .little 16 4⟩) := by
    rfl
  have entriesRead : bytes.number .little (start + 8) 4 = entries := Bytes.number_of_words stands fit 2 rfl
  have countRead : bytes.number .little (start + 12) 4 = count := Bytes.number_of_words stands fit 3 rfl
  have stringsRead : bytes.number .little (start + 16) 4 = strings := Bytes.number_of_words stands fit 4 rfl
  have field {place : Nat} (within : place + 4 ≤ 24) := Bytes.number_of_record record .little within
  rw [unfolded, record, Option.bind_some, field (by decide), field (by decide), field (by decide), entriesRead,
    countRead, stringsRead, if_neg (by omega)]

theorem read?_bindings {size eager eagerSize lazy lazySize : Nat}
    (stands : StandsAt bytes.view start
      (words [0x80000022, size, 0, 0, eager, eagerSize, 0, 0, lazy, lazySize, 0, 0]))
    (fit : FitWords [0x80000022, size, 0, 0, eager, eagerSize, 0, 0, lazy, lazySize, 0, 0]) :
    read? narrow bytes start 0x80000022 = some (.bindings ⟨eager, eagerSize⟩ ⟨lazy, lazySize⟩) := by
  have whole : start + 48 ≤ bytes.size := by
    have enough := stands.inside
    rw [length_words] at enough
    exact enough
  have record := Bytes.part?_of_inside whole
  have unfolded : read? narrow bytes start 0x80000022 = (bytes.part? start 48).bind fun record =>
      some (.bindings ⟨record.number .little 16 4, record.number .little 20 4⟩
        ⟨record.number .little 32 4, record.number .little 36 4⟩) := by
    rfl
  have field {place : Nat} (within : place + 4 ≤ 48) := Bytes.number_of_record record .little within
  have eagerRead : bytes.number .little (start + 16) 4 = eager := Bytes.number_of_words stands fit 4 rfl
  have eagerSizeRead : bytes.number .little (start + 20) 4 = eagerSize := Bytes.number_of_words stands fit 5 rfl
  have lazyRead : bytes.number .little (start + 32) 4 = lazy := Bytes.number_of_words stands fit 8 rfl
  have lazySizeRead : bytes.number .little (start + 36) 4 = lazySize := Bytes.number_of_words stands fit 9 rfl
  rw [unfolded, record, Option.bind_some, field (by decide), field (by decide), field (by decide), field (by decide),
    eagerRead, eagerSizeRead, lazyRead, lazySizeRead]

end Command

namespace File

variable {bytes : Bytes}

private theorem ofMagic?_of_words {rest : List Nat} (stands : StandsAt bytes.view 0 (words (0xfeedface :: rest))) :
    Encoding.ofMagic? bytes = some narrow := by
  have magic : bytes.part? 0 4 = some (.ofList (littleEndian 4 0xfeedface)) :=
    Bytes.part?_of_standsAt (StandsAt.append_left stands) rfl
  have read : bytes.number? .big 0 4 = some 0xcefaedfe := by
    rw [Bytes.number?, magic, Option.map_some, Bytes.view_ofList]
    rfl
  rw [Encoding.ofMagic?, read]
  rfl

private theorem header_of_words {processor subtype kind count size flags : Nat}
    (stands : StandsAt bytes.view 0 (words [0xfeedface, processor, subtype, kind, count, size, flags]))
    (fit : FitWords [0xfeedface, processor, subtype, kind, count, size, flags])
    (long : 32 ≤ bytes.size) (enough : count ≤ size / 8) (inside : size ≤ bytes.size) :
    Header.read? narrow bytes = some ⟨processor, count, size⟩ := by
  have record := Bytes.part?_of_inside (show 0 + 32 ≤ bytes.size by omega)
  have field {place : Nat} (within : place + 4 ≤ 32) := Bytes.number_of_record record .little within
  have processorRead : bytes.number .little (0 + 4) 4 = processor := Bytes.number_of_words stands fit 1 rfl
  have countRead : bytes.number .little (0 + 16) 4 = count := Bytes.number_of_words stands fit 4 rfl
  have sizeRead : bytes.number .little (0 + 20) 4 = size := Bytes.number_of_words stands fit 5 rfl
  rw [Header.read?, record]
  simp only [Option.bind_eq_bind, Option.bind_some, show narrow.order = .little from rfl]
  rw [field (by decide), field (by decide), field (by decide), processorRead, countRead, sizeRead,
    if_neg fun (broken : count > size / 8 ∨ size > bytes.size) => by omega]
  rfl

/-- A file is read from its header and its commands. -/
theorem read?_of_commands {processor subtype kind count size flags : Nat} {commands : List Command}
    (stands : StandsAt bytes.view 0 (words [0xfeedface, processor, subtype, kind, count, size, flags]))
    (fit : FitWords [0xfeedface, processor, subtype, kind, count, size, flags])
    (long : 32 ≤ bytes.size) (enough : count ≤ size / 8) (inside : size ≤ bytes.size)
    (listed : Command.readAll? narrow bytes count 28 = some commands)
    (entered : Command.entryPointsFit processor commands) : read? bytes = some
      ⟨narrow, processor, Command.segments commands, Command.symbols? commands, 1 + Command.libraryCount commands,
        Command.bindings? commands⟩ := by
  have header := header_of_words stands fit long enough inside
  simp only [read?, ofMagic?_of_words stands, Option.bind_eq_bind, Option.bind_some, header,
    show narrow.headerSize = 28 from rfl, listed, entered]
  rfl

end File

/-- A name in a field of sixteen bytes. -/
def paddedName (name : List UInt8) : List UInt8 := name ++ List.replicate (16 - name.length) 0

private theorem length_paddedName {name : List UInt8} (short : name.length ≤ 16) : (paddedName name).length = 16 := by
  rw [paddedName, List.length_append, List.length_replicate]
  omega

namespace Section

/-- The header of a section, without the name of its segment. -/
def store (found : Section) : List UInt8 :=
  paddedName (Bytes.view found.name.toUTF8) ++
    (paddedName [] ++ words [found.address, found.size, found.offset, 0, 0, 0, found.flags, 0, 0])

/-- The name and the numbers of a section fit into its header. -/
def Storable (found : Section) : Prop :=
  ZeroFree found.name ∧ (Bytes.view found.name.toUTF8).length < 16 ∧
    FitWords [found.address, found.size, found.offset, 0, 0, 0, found.flags, 0, 0]

instance (found : Section) : Decidable found.Storable := inferInstanceAs (Decidable (_ ∧ _))

variable {found : Section}

theorem length_store (storable : found.Storable) : found.store.length = 68 := by
  rw [store, List.length_append, List.length_append, length_paddedName (Nat.le_of_lt storable.2.1), length_words]
  rfl

theorem length_flatMap_store {sections : List Section} (storable : ∀ found ∈ sections, found.Storable) :
    (sections.flatMap store).length = 68 * sections.length :=
  length_flatMap_of_uniform fun found member => length_store (storable found member)

private theorem paddedName_ofList {name : String} (free : ZeroFree name)
    (short : (Bytes.view name.toUTF8).length < 16) :
    Bytes.paddedName (.ofList (paddedName (Bytes.view name.toUTF8))) = name := by
  have stands : StandsAt (Bytes.ofList (paddedName (Bytes.view name.toUTF8))).view 0
      (Bytes.view name.toUTF8 ++ [0]) := by
    refine ⟨[], List.replicate (15 - (Bytes.view name.toUTF8).length) 0, rfl, ?_⟩
    rw [Bytes.view_ofList, paddedName, List.nil_append, List.append_assoc, List.singleton_append,
      ← List.replicate_succ]
    congr 2
    omega
  rw [Bytes.paddedName, Bytes.toZero_of_standsAt stands free, Bytes.ofList_view, Bytes.text?_toUTF8, Option.getD_some]

theorem ofRecord_store (storable : found.Storable) : ofRecord narrow (.ofList found.store) = found := by
  obtain ⟨free, short, fit⟩ := storable
  have whole : StandsAt (Bytes.ofList found.store).view 0 found.store := by
    rw [Bytes.view_ofList]
    exact StandsAt.self _
  have padded := length_paddedName (Nat.le_of_lt short)
  have nameRead : (Bytes.ofList found.store).part 0 16 = .ofList (paddedName (Bytes.view found.name.toUTF8)) :=
    Bytes.part_of_standsAt whole.append_left padded
  have fields := (whole.behind (show _ = 16 by rw [padded])).behind (show _ = 32 by rfl)
  have addressRead : (Bytes.ofList found.store).number .little 32 4 = found.address :=
    Bytes.number_of_words fields fit 0 rfl
  have sizeRead : (Bytes.ofList found.store).number .little 36 4 = found.size := Bytes.number_of_words fields fit 1 rfl
  have offsetRead : (Bytes.ofList found.store).number .little 40 4 = found.offset :=
    Bytes.number_of_words fields fit 2 rfl
  have flagsRead : (Bytes.ofList found.store).number .little 56 4 = found.flags :=
    Bytes.number_of_words fields fit 6 rfl
  have unfolded (record : Bytes) : ofRecord narrow record = ⟨(record.part 0 16).paddedName,
      record.number .little 32 4, record.number .little 36 4, record.number .little 40 4, record.number .little 56 4⟩ :=
    rfl
  rw [unfolded, nameRead, paddedName_ofList free short, addressRead, sizeRead, offsetRead, flagsRead]

end Section

namespace SymbolEntry

/-- An entry whose name stands so far behind the start of the names. -/
def store (entry : SymbolEntry) (offset : Nat) : List UInt8 :=
  words [offset, entry.type + 256 * entry.sectionOrdinal, entry.value]

def Storable (entry : SymbolEntry) (offset : Nat) : Prop :=
  ZeroFree entry.name ∧ entry.type < 256 ∧ entry.sectionOrdinal < 256 ∧
    FitWords [offset, entry.type + 256 * entry.sectionOrdinal, entry.value]

instance (entry : SymbolEntry) (offset : Nat) : Decidable (entry.Storable offset) := inferInstanceAs (Decidable (_ ∧ _))

variable {entry : SymbolEntry} {bytes : Bytes} {strings offset : Nat}

private theorem number_of_byte {byte : UInt8} {start : Nat} {more : List UInt8}
    (stands : StandsAt bytes.view start (byte :: more)) : bytes.number .little start 1 = byte.toNat := by
  rw [← List.singleton_append] at stands
  have read : bytes.part start 1 = .ofList [byte] := Bytes.part_of_standsAt stands.append_left rfl
  rw [Bytes.number, read, Bytes.view_ofList]
  exact Nat.add_zero _

/-- The type of an entry and the ordinal of its section are the low bytes of one word. -/
theorem ofRecord?_store (storable : entry.Storable offset)
    (named : StandsAt bytes.view (strings + offset) (Bytes.view entry.name.toUTF8 ++ [0])) :
    ofRecord? narrow bytes strings (.ofList (entry.store offset)) = some entry := by
  obtain ⟨free, shortType, shortOrdinal, fit⟩ := storable
  have whole : StandsAt (Bytes.ofList (entry.store offset)).view 0 (entry.store offset) := by
    rw [Bytes.view_ofList]
    exact StandsAt.self _
  have offsetRead : (Bytes.ofList (entry.store offset)).number .little 0 4 = offset :=
    Bytes.number_of_words whole fit 0 rfl
  have valueRead : (Bytes.ofList (entry.store offset)).number .little 8 4 = entry.value :=
    Bytes.number_of_words whole fit 2 rfl
  have low : StandsAt (Bytes.ofList (entry.store offset)).view 4
      (UInt8.ofNat ((entry.type + 256 * entry.sectionOrdinal) % 256) ::
        littleEndian 3 ((entry.type + 256 * entry.sectionOrdinal) / 256) ++ words [entry.value]) :=
    StandsAt.behind whole (length_littleEndian 4 offset)
  have typeRead : (Bytes.ofList (entry.store offset)).number .little 4 1 = entry.type := by
    rw [number_of_byte low, UInt8.toNat_ofNat']
    omega
  have ordinalRead : (Bytes.ofList (entry.store offset)).number .little 5 1 = entry.sectionOrdinal := by
    rw [number_of_byte low.tail, UInt8.toNat_ofNat']
    omega
  have unfolded (record : Bytes) : ofRecord? narrow bytes strings record =
      (bytes.cString? (strings + record.number .little 0 4)).bind fun name =>
        some ⟨name, record.number .little 4 1, record.number .little 5 1, record.number .little 8 4⟩ := rfl
  rw [unfolded, offsetRead, Bytes.cString?_of_standsAt free named, typeRead, ordinalRead, valueRead]
  rfl

end SymbolEntry

namespace File

variable {file : File} {bytes : Bytes}

/-- The sections of a segment are read back from their headers. -/
theorem segmentSections?_of_standsAt {segment : Segment} {sections : List Section} (encoded : file.encoding = narrow)
    (storable : ∀ found ∈ sections, found.Storable)
    (stands : StandsAt bytes.view segment.sectionTable (sections.flatMap Section.store))
    (length : sections.length = segment.sectionCount) : file.segmentSections? bytes segment = some sections := by
  have uniform : ∀ found ∈ sections, found.store.length = 68 := fun found member =>
    Section.length_store (storable found member)
  have read : ∀ found ∈ sections, Section.ofRecord narrow (.ofList found.store) = found := fun found member =>
    Section.ofRecord_store (storable found member)
  have records := Bytes.recordsOneByOne?_of_standsAt uniform stands length
  rw [segmentSections?, encoded, show Section.recordSize narrow = 68 from rfl, records, Option.map_some, List.map_map]
  exact congrArg some ((List.map_congr_left read).trans (List.map_id' sections))

/-- The symbols are read back from their entries and from the names that these tell the places of. -/
theorem symbolEntries?_of_standsAt {listed : List (SymbolEntry × Nat)} {texts : List String} {start strings : Nat}
    (encoded : file.encoding = narrow) (located : file.symbols = some ⟨start, listed.length, strings⟩)
    (storable : ∀ pair ∈ listed, pair.1.Storable pair.2)
    (stands : StandsAt bytes.view start (listed.flatMap fun pair => pair.1.store pair.2))
    (names : StandsAt bytes.view strings (Fixture.storedNames texts))
    (named : ∀ pair ∈ listed, ∃ index, ∃ inside : index < texts.length,
      pair.2 = Fixture.nameOffset texts index ∧ pair.1.name = texts[index]) :
    file.symbolEntries? bytes = some (listed.map (·.1)) := by
  have uniform : ∀ pair ∈ listed, (pair.1.store pair.2).length = 12 := fun _ _ => length_words _
  have records := Bytes.recordsOneByOne?_of_standsAt uniform stands rfl
  have read : ∀ pair ∈ listed,
      SymbolEntry.ofRecord? narrow bytes strings (.ofList (pair.1.store pair.2)) = some pair.1 := by
    intro pair member
    obtain ⟨index, inside, place, name⟩ := named pair member
    apply SymbolEntry.ofRecord?_store (storable pair member)
    rw [place, name]
    exact names.trans (Fixture.standsAt_storedNames inside)
  simp only [symbolEntries?, located, encoded, show SymbolEntry.recordSize narrow = 12 from rfl, records,
    Option.bind_eq_bind, Option.bind_some, List.mapM_map]
  exact mapM_of_forall read

end File

end MachO

end ObjectLens

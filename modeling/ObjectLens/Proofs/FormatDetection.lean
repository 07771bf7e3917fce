import ObjectLens.Proofs.CodeRegions

/-! Telling the format of a file by its first bytes, and trying one reader after the other, come to the same. Every
reader asks for the bytes that tell its format, and no file starts with those of two formats. -/

namespace ObjectLens

/-- Byte strings of one length that store the same number are the same. -/
private theorem ByteOrder.value_inj {order : ByteOrder} {bytes others : List UInt8}
    (length : bytes.length = others.length) (same : order.value bytes = order.value others) : bytes = others := by
  have little : ∀ bytes others : List UInt8, bytes.length = others.length →
      value .little bytes = value .little others → bytes = others := by
    intro bytes
    induction bytes with
    | nil =>
      intro others length _
      exact (List.length_eq_zero_iff.mp length.symm).symm
    | cons byte rest ih =>
      intro others length same
      cases others with
      | nil => cases length
      | cons other left =>
        have first := byte.toNat_lt
        have second := other.toNat_lt
        simp only [value, List.foldr_cons] at same
        have low : byte = other := UInt8.toNat_inj.mp (by omega)
        have high := ih left (Nat.succ.inj length) (by simp only [value]; omega)
        rw [low, high]
  cases order with
  | little => exact little bytes others length same
  | big =>
    have reversed (bytes : List UInt8) : value .big bytes = value .little bytes.reverse := by
      simp only [value, List.foldr_reverse, Nat.add_comm]
    rw [reversed, reversed] at same
    exact List.reverse_inj.mp (little _ _ (by simpa using length) same)

namespace Container

variable {bytes : Bytes}

/-- What a file starts with tells the bytes in front of that, too. -/
private theorem take_of_take {bytes front : List UInt8} {short long : Nat} (le : short ≤ long)
    (same : bytes.take long = front) : bytes.take short = front.take short := by
  rw [← same, List.take_take, Nat.min_eq_left le]

private theorem view_front {count : Nat} (short : count ≤ 16) :
    ((bytes.part 0 16).part 0 count).view = bytes.view.take count := by
  rw [Bytes.view_part, Bytes.view_part, List.drop_zero, List.drop_zero, List.take_take, Nat.min_eq_left short]

private theorem number_front {count : Nat} (order : ByteOrder) (short : count ≤ 16) :
    (bytes.part 0 16).number order 0 count = order.value (bytes.view.take count) := by
  rw [Bytes.number, view_front short]

private theorem number?_front {count : Nat} (order : ByteOrder) (short : count ≤ 16) (enough : 16 ≤ bytes.size) :
    (bytes.part 0 16).number? order 0 count = some (order.value (bytes.view.take count)) := by
  have size : (bytes.part 0 16).size = 16 := Bytes.size_of_part? (Bytes.part?_eq_some_iff.mpr ⟨by omega, rfl⟩)
  have here : (bytes.part 0 16).part? 0 count = some ((bytes.part 0 16).part 0 count) :=
    Bytes.part?_eq_some_iff.mpr ⟨by omega, rfl⟩
  rw [Bytes.number?, here, Option.map_some, view_front short]

/-- What a file is, case by case, by the bytes it starts with. -/
theorem detect?_eq (enough : 16 ≤ bytes.size) : detect? bytes = some (
    if bytes.view.take 4 = [0x7f, 0x45, 0x4c, 0x46] then .binary .elf
    else if bytes.view.take 8 = Archive.magic then .archive
    else if ByteOrder.value .little (bytes.view.take 2) = 0x5a4d then .binary .pe
    else if Pe.Object.machines.contains (ByteOrder.value .little (bytes.view.take 2)) then .object
    else if (MachO.Encoding.ofMagic? (bytes.part 0 16)).isSome then .binary .machO
    else if ByteOrder.value .big (bytes.view.take 4) = fatMagic then .fat
    else .unknown (ByteOrder.value .little (bytes.view.take 8))) := by
  have front : bytes.part? 0 16 = some (bytes.part 0 16) := Bytes.part?_eq_some_iff.mpr ⟨by omega, rfl⟩
  simp only [detect?, front, Option.bind_eq_bind, Option.bind_some, view_front (show 4 ≤ 16 by decide),
    view_front (show 8 ≤ 16 by decide), number_front _ (show 2 ≤ 16 by decide), number_front _ (show 4 ≤ 16 by decide),
    number_front _ (show 8 ≤ 16 by decide), apply_ite some]
  rfl

end Container

namespace Pe.File

variable {bytes : Bytes} {file : File}

private theorem read?_front (read : read? bytes = some file) : 16 ≤ bytes.size ∧ bytes.view.take 2 = [0x4d, 0x5a] := by
  unfold read? at read
  obtain ⟨legacy, present, rest⟩ := Option.bind_eq_some_iff.mp read
  obtain ⟨inside, rfl⟩ := Bytes.part?_eq_some_iff.mp present
  have front : ((bytes.part 0 128).part 0 2).view = bytes.view.take 2 := by
    rw [Bytes.view_part, Bytes.view_part, List.drop_zero, List.drop_zero, List.take_take]
    rfl
  refine ⟨by omega, ?_⟩
  split at rest
  · cases rest
  next same => exact front ▸ Decidable.not_not.mp same

/-- The first bytes of a file that is read as an image tell that it is one. -/
private theorem detect?_of_read? (read : read? bytes = some file) : Container.detect? bytes = some (.binary .pe) := by
  obtain ⟨enough, front⟩ := read?_front read
  have elf : bytes.view.take 4 ≠ [0x7f, 0x45, 0x4c, 0x46] := by
    intro same
    have first := Container.take_of_take (show 2 ≤ 4 by decide) same
    rw [front] at first
    cases first
  have archive : bytes.view.take 8 ≠ Archive.magic := by
    intro same
    have first := Container.take_of_take (show 2 ≤ 8 by decide) same
    rw [front] at first
    exact absurd first (by decide)
  rw [Container.detect?_eq enough, if_neg elf, if_neg archive, front, if_pos (by decide)]

end Pe.File

namespace MachO.File

variable {bytes : Bytes} {file : File}

theorem read?_front (read : read? bytes = some file) : 16 ≤ bytes.size ∧ ∃ encoding,
    Encoding.ofMagic? bytes = some encoding := by
  simp only [read?, Option.bind_eq_bind, Option.bind_eq_some_iff] at read
  obtain ⟨encoding, magic, header, headed, _⟩ := read
  simp only [Header.read?, Option.bind_eq_bind, Option.bind_eq_some_iff] at headed
  obtain ⟨record, present, _⟩ := headed
  have inside := (Bytes.part?_eq_some_iff.mp present).1
  exact ⟨by omega, encoding, magic⟩

/-- The first bytes of a Mach-O file are one of four numbers. -/
private theorem take_of_ofMagic? {encoding : Encoding} (magic : Encoding.ofMagic? bytes = some encoding) :
    bytes.view.take 4 ∈ [[0xfe, 0xed, 0xfa, 0xce], [0xfe, 0xed, 0xfa, 0xcf], [0xce, 0xfa, 0xed, 0xfe],
      [0xcf, 0xfa, 0xed, 0xfe]] := by
  have known (number : Nat) (stored : List UInt8) (length : stored.length = 4)
      (value : ByteOrder.value .big stored = number) (read : bytes.number? .big 0 4 = some number) :
      bytes.view.take 4 = stored := by
    obtain ⟨part, present, rfl⟩ := Option.map_eq_some_iff.mp read
    obtain ⟨inside, rfl⟩ := Bytes.part?_eq_some_iff.mp present
    rw [Bytes.view_part, List.drop_zero] at value
    refine ByteOrder.value_inj ?_ value.symm
    rw [length, List.length_take, Bytes.length_view]
    omega
  unfold Encoding.ofMagic? at magic
  split at magic
  next read => simp [known _ [0xfe, 0xed, 0xfa, 0xce] rfl (by decide) read]
  next read => simp [known _ [0xfe, 0xed, 0xfa, 0xcf] rfl (by decide) read]
  next read => simp [known _ [0xce, 0xfa, 0xed, 0xfe] rfl (by decide) read]
  next read => simp [known _ [0xcf, 0xfa, 0xed, 0xfe] rfl (by decide) read]
  next => cases magic

private theorem number?_eq (enough : 16 ≤ bytes.size) :
    bytes.number? .big 0 4 = some (ByteOrder.value .big (bytes.view.take 4)) := by
  have here : bytes.part? 0 4 = some (bytes.part 0 4) := Bytes.part?_eq_some_iff.mpr ⟨by omega, rfl⟩
  rw [Bytes.number?, here, Option.map_some, Bytes.view_part, List.drop_zero]

theorem detect?_of_read? (read : read? bytes = some file) : Container.detect? bytes = some (.binary .machO) := by
  obtain ⟨enough, encoding, magic⟩ := read?_front read
  have same : Encoding.ofMagic? (bytes.part 0 16) = some encoding := by
    rw [← magic, Encoding.ofMagic?, Encoding.ofMagic?, Container.number?_front _ (by decide) enough, number?_eq enough]
  have front := take_of_ofMagic? magic
  rw [Container.detect?_eq enough, same]
  simp only [List.mem_cons, List.not_mem_nil, or_false] at front
  -- None of the four numbers is one that another kind of file starts with.
  rcases front with front | front | front | front
  all_goals
    have short := Container.take_of_take (show 2 ≤ 4 by decide) front
    have archive : bytes.view.take 8 ≠ Archive.magic := by
      intro same
      have first := Container.take_of_take (show 4 ≤ 8 by decide) same
      rw [front] at first
      exact absurd first (by decide)
    rw [front, short, if_neg (by decide), if_neg archive, if_neg (by decide), if_neg (by decide)]
    rfl

/-- A file that is read as one Mach-O file is not one with several of them. -/
theorem number?_ne_fatMagic (read : read? bytes = some file) : bytes.number? .big 0 4 ≠ some Container.fatMagic := by
  obtain ⟨enough, encoding, magic⟩ := read?_front read
  have front := take_of_ofMagic? magic
  rw [number?_eq enough]
  simp only [List.mem_cons, List.not_mem_nil, or_false] at front
  rcases front with front | front | front | front
  all_goals
    rw [front]
    decide

end MachO.File

/-- What a reader has found in a file is of the format that the first bytes of the file tell. -/
theorem Reads.detect? {config : Config} {bytes : Bytes} {found : Contents} (reads : Reads config bytes found) :
    Container.detect? bytes = some (.binary found.format) := by
  cases reads with
  | elf read => exact Elf.File.detect?_of_read? read
  | machO read usable =>
    rw [MachO.File.contents?_format usable]
    exact MachO.File.detect?_of_read? read
  | pe read => exact Pe.File.detect?_of_read? read

theorem Reads.size_ne_zero {config : Config} {bytes : Bytes} {found : Contents} (reads : Reads config bytes found) :
    bytes.size ≠ 0 := by
  intro nothing
  have told := reads.detect?
  simp only [Container.detect?, Bytes.part?, nothing] at told
  cases told

namespace Opening

variable {config : Config} {bytes : Bytes} {format : Format} {otherwise : LoadError} {found : Contents}

/-- Who asks for a format decides about the error, and not about what is found. -/
theorem contents_eq_ok_iff : contents config bytes format otherwise = .ok found ↔
    Reads config bytes found ∧ found.format = format := by
  constructor
  · intro read
    have reads := contents_reads read
    refine ⟨reads, ?_⟩
    cases format with
    | elf =>
      simp only [contents] at read
      split at read <;> cases read
      rfl
    | pe =>
      simp only [contents] at read
      split at read <;> cases read
      rfl
    | machO =>
      simp only [contents] at read
      split at read
      · cases read
      · split at read
        next usable =>
          cases read
          exact MachO.File.contents?_format usable
        all_goals cases read
  · rintro ⟨reads, rfl⟩
    cases reads with
    | elf read => simp only [contents, Elf.File.contents, read]
    | machO read usable =>
      rw [MachO.File.contents?_format usable]
      simp only [contents, read, usable]
    | pe read => simp only [contents, Pe.File.contents, read]

theorem detected_eq_ok_iff : detected config bytes = .ok found ↔ Reads config bytes found := by
  constructor
  · exact detected_reads
  · intro reads
    simp only [detected, reads.detect?]
    exact contents_eq_ok_iff.mpr ⟨reads, rfl⟩

theorem asFormat_eq_ok_iff : asFormat config bytes format = .ok found ↔
    Reads config bytes found ∧ found.format = format := by
  rw [asFormat]
  split
  next fat =>
    constructor
    · intro read
      cases read
    · rintro ⟨reads, known⟩
      -- A file with several others in it is detected as such, and no reader accepts it.
      obtain ⟨rfl, number, _⟩ := fat
      cases reads with
      | elf read => cases known
      | machO read usable => exact absurd number (MachO.File.number?_ne_fatMagic read)
      | pe read => cases known
  next => exact contents_eq_ok_iff

end Opening

namespace Image

variable {config : Config} {bytes : Bytes} {image : Image}

theorem load_detected_eq_ok_iff : load none config (.regular bytes) = .ok image ↔
    ∃ found, Reads config bytes found ∧ image = .ofContents config bytes found := by
  constructor
  · exact load_reads
  · rintro ⟨found, reads, rfl⟩
    exact load_eq_ok_iff.mpr ⟨reads.size_ne_zero, found, Opening.detected_eq_ok_iff.mpr reads, rfl⟩

theorem load_given_eq_ok_iff {format : Format} : load (some format) config (.regular bytes) = .ok image ↔
    ∃ found, Reads config bytes found ∧ found.format = format ∧ image = .ofContents config bytes found := by
  constructor
  · intro opened
    obtain ⟨_, found, read, rfl⟩ := load_eq_ok_iff.mp opened
    obtain ⟨reads, known⟩ := Opening.asFormat_eq_ok_iff.mp read
    exact ⟨found, reads, known, rfl⟩
  · rintro ⟨found, reads, known, rfl⟩
    exact load_eq_ok_iff.mpr ⟨reads.size_ne_zero, found, Opening.asFormat_eq_ok_iff.mpr ⟨reads, known⟩, rfl⟩

/-- A file is opened without a format, and is of some format then, exactly if it is opened in that format; and the
images are the same. So there is one format at most in which a file is opened. -/
theorem load_detected_iff_load_given (config : Config) (file : FileState) :
    (∀ format image, load none config file = .ok image ∧ image.format = format ↔
      load (some format) config file = .ok image) ∧
    ∀ first second image other, load (some first) config file = .ok image →
      load (some second) config file = .ok other → first = second := by
  cases file with
  | missing | directory =>
    constructor
    · intro format image
      constructor
      · rintro ⟨opened, _⟩
        cases opened
      · intro opened
        cases opened
    · intro first second image other opened
      cases opened
  | regular bytes =>
    constructor
    · intro format image
      rw [load_detected_eq_ok_iff, load_given_eq_ok_iff]
      constructor
      · rintro ⟨⟨found, reads, rfl⟩, known⟩
        exact ⟨found, reads, known, rfl⟩
      · rintro ⟨found, reads, known, rfl⟩
        exact ⟨⟨found, reads, rfl⟩, known⟩
    · intro first second image other opened again
      obtain ⟨found, reads, rfl, _⟩ := load_given_eq_ok_iff.mp opened
      obtain ⟨more, rereads, rfl, _⟩ := load_given_eq_ok_iff.mp again
      have told := reads.detect?
      rw [rereads.detect?, Option.some.injEq, Container.binary.injEq] at told
      exact told.symm

end Image

end ObjectLens

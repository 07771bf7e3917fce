import ObjectLens.Opening

/-! Where the tables of an opened image come from. However the format was found out, one of the three readers has
read the whole file, and the image is made of what it found. -/

namespace ObjectLens

inductive Reads (config : Config) (bytes : Bytes) : Contents → Prop where
  | elf {file : Elf.File} (read : Elf.File.read? bytes = some file) : Reads config bytes (file.contents bytes)
  | machO {file : MachO.File} {found : Contents} (read : MachO.File.read? bytes = some file)
      (usable : file.contents? bytes config = .ok found) : Reads config bytes found
  | pe {file : Pe.File} (read : Pe.File.read? bytes = some file) : Reads config bytes (file.contents bytes)

namespace Opening

variable {config : Config} {bytes : Bytes} {found : Contents}

theorem contents_reads {format : Format} {otherwise : LoadError}
    (read : contents config bytes format otherwise = .ok found) : Reads config bytes found := by
  cases format with
  | elf =>
    simp only [contents] at read
    split at read
    · cases read
    next file here =>
      cases read
      exact .elf here
  | pe =>
    simp only [contents] at read
    split at read
    · cases read
    next file here =>
      cases read
      exact .pe here
  | machO =>
    simp only [contents] at read
    split at read
    · cases read
    next file here =>
      split at read
      next usable =>
        cases read
        exact .machO here usable
      all_goals cases read

theorem detected_reads (read : detected config bytes = .ok found) : Reads config bytes found := by
  simp only [detected] at read
  split at read
  next => cases read
  next => exact contents_reads read
  all_goals cases read

private theorem asFormat_reads {format : Format} (read : asFormat config bytes format = .ok found) :
    Reads config bytes found := by
  simp only [asFormat] at read
  split at read
  · cases read
  · exact contents_reads read

end Opening

namespace Image

variable {format : Option Format} {config : Config} {bytes : Bytes} {image : Image}

/-- A file that is not empty is read in the format that is given, or in the one that its first bytes tell. -/
theorem load_regular (format : Option Format) (config : Config) (nonempty : bytes.size ≠ 0) :
    load format config (.regular bytes) =
      (match format with
        | none => Opening.detected config bytes
        | some format => Opening.asFormat config bytes format).map (ofContents config bytes) := by
  simp only [load, Opening.readable, nonempty, ite_false, bind, Except.bind]
  cases format with
  | none => cases Opening.detected config bytes <;> rfl
  | some format => cases Opening.asFormat config bytes format <;> rfl

theorem load_empty (format : Option Format) (config : Config) (nothing : bytes.size = 0) :
    load format config (.regular bytes) = .error (.refused .empty) := by
  simp only [load, Opening.readable, nothing, ite_true]
  rfl

private theorem map_eq_ok {ε α β : Type} {read : Except ε α} {make : α → β} {made : β}
    (here : read.map make = .ok made) : ∃ found, read = .ok found ∧ made = make found := by
  cases read with
  | error failure => cases here
  | ok found =>
    cases here
    exact ⟨found, rfl, rfl⟩

/-- An image is opened exactly from a file that is not empty and has contents in the format that is given or told. -/
theorem load_eq_ok_iff : load format config (.regular bytes) = .ok image ↔ bytes.size ≠ 0 ∧ ∃ found,
    (match format with
      | none => Opening.detected config bytes
      | some format => Opening.asFormat config bytes format) = .ok found ∧
    image = .ofContents config bytes found := by
  by_cases nothing : bytes.size = 0
  · rw [load_empty format config nothing]
    constructor
    · intro opened
      cases opened
    · rintro ⟨some, _⟩
      exact absurd nothing some
  · rw [load_regular format config nothing]
    constructor
    · intro opened
      split at opened
      all_goals
        obtain ⟨found, read, rfl⟩ := map_eq_ok opened
        exact ⟨nothing, found, read, rfl⟩
    · rintro ⟨_, found, read, rfl⟩
      rw [read]
      rfl

/-- An image that was opened holds the bytes of the file and what a reader found in them. -/
theorem load_reads (opened : load format config (.regular bytes) = .ok image) :
    ∃ found, Reads config bytes found ∧ image = .ofContents config bytes found := by
  obtain ⟨_, found, read, rfl⟩ := load_eq_ok_iff.mp opened
  refine ⟨found, ?_, rfl⟩
  cases format with
  | none => exact Opening.detected_reads read
  | some format => exact Opening.asFormat_reads read

/-- Every opened image is made of the bytes of a file and of what was found in them. -/
theorem ofContents_of_load {file : FileState} (opened : load format config file = .ok image) :
    ∃ bytes found, image = .ofContents config bytes found := by
  cases file with
  | regular bytes =>
    obtain ⟨found, _, same⟩ := load_reads opened
    exact ⟨bytes, found, same⟩
  | missing | directory => cases opened

theorem load_bytes (opened : load format config (.regular bytes) = .ok image) : image.bytes = bytes := by
  obtain ⟨found, _, rfl⟩ := load_reads opened
  rfl

end Image

end ObjectLens

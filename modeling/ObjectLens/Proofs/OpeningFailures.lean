import ObjectLens.Proofs.BindingRuns
import ObjectLens.Proofs.DisplayedNames

/-! How opening a file fails. A file is refused for a cause, with one exception: a Mach-O file whose bindings refer to
something that is not there breaks the opening off. Other bindings cost the stubs at most. -/

namespace ObjectLens

namespace MachO

namespace File

variable {file : File} {bytes : Bytes} {config : Config} {sections : List Section} {entries : List SymbolEntry}

/-- The file as it would be without its bindings. -/
def unbound (file : File) : File := { file with bindings := none }

private theorem stubs?_of_dangles (dangles : file.Dangles bytes) :
    file.stubs? bytes config = .error .danglingBinding := by
  rw [stubs?, ofFile_eq_dangling_iff.mpr dangles]

private theorem stubs?_of_not_dangles (fine : ¬ file.Dangles bytes) (config : Config) :
    ∃ stubs, file.stubs? bytes config = .ok stubs := by
  rw [stubs?]
  cases outcome : Binding.ofFile file bytes with
  | bound bindings => exact ⟨_, rfl⟩
  | unreadable => exact ⟨_, rfl⟩
  | dangling => exact absurd (ofFile_eq_dangling_iff.mp outcome) fine

private theorem contents?_unbound (read : file.sections? bytes = some sections)
    (listed : file.symbolEntries? bytes = some entries) :
    file.unbound.contents? bytes config = .ok (file.withoutStubs config sections entries bytes.size) := by
  have reread : file.unbound.sections? bytes = some sections := read
  have relisted : file.unbound.symbolEntries? bytes = some entries := listed
  rw [contents?_of_read reread relisted]
  rfl

private theorem contents?_of_unbound {bare : Contents} (usable : file.unbound.contents? bytes config = .ok bare)
    (fine : ¬ file.Dangles bytes) : ∃ stubs, file.contents? bytes config = .ok { bare with stubs } := by
  obtain ⟨sections, entries, (read : file.sections? bytes = _), (listed : file.symbolEntries? bytes = _), _⟩ :=
    contents?_eq_ok usable
  obtain ⟨stubs, found⟩ := stubs?_of_not_dangles fine config
  rw [contents?_unbound read listed] at usable
  cases usable
  refine ⟨stubs, ?_⟩
  rw [contents?_of_read read listed, found]
  rfl

theorem contents?_eq_dangling_iff : file.contents? bytes config = .error .danglingBinding ↔
    ∃ sections entries, file.sections? bytes = some sections ∧ file.symbolEntries? bytes = some entries ∧
      file.Dangles bytes := by
  constructor
  · intro broken
    cases read : file.sections? bytes with
    | none =>
      rw [contents?_of_no_sections read] at broken
      cases broken
    | some sections =>
      cases listed : file.symbolEntries? bytes with
      | none =>
        rw [contents?_of_no_entries read listed] at broken
        cases broken
      | some entries =>
        refine ⟨sections, entries, rfl, rfl, Classical.byContradiction fun fine => ?_⟩
        obtain ⟨stubs, found⟩ := stubs?_of_not_dangles fine config
        rw [contents?_of_read read listed, found] at broken
        cases broken
  · rintro ⟨sections, entries, read, listed, dangles⟩
    rw [contents?_of_read read listed, stubs?_of_dangles dangles]
    rfl

end File

/-- The file is a Mach-O file with sections and symbols that can be read, and its bindings dangle. -/
def BreaksOff (bytes : Bytes) : Prop :=
  ∃ file sections entries, File.read? bytes = some file ∧ file.sections? bytes = some sections ∧
    file.symbolEntries? bytes = some entries ∧ file.Dangles bytes

theorem breaksOff_iff_of_read? {file : File} {bytes : Bytes} (read : File.read? bytes = some file) (config : Config) :
    BreaksOff bytes ↔ file.contents? bytes config = .error .danglingBinding := by
  rw [File.contents?_eq_dangling_iff]
  constructor
  · rintro ⟨found, sections, entries, reread, rest⟩
    obtain rfl := Option.some.inj (read.symm.trans reread)
    exact ⟨sections, entries, rest⟩
  · rintro ⟨sections, entries, rest⟩
    exact ⟨file, sections, entries, read, rest⟩

end MachO

namespace Opening

open MachO (BreaksOff)

variable {config : Config} {bytes : Bytes} {format : Format} {otherwise : LoadError}

private theorem contents_eq_aborted_iff : contents config bytes format otherwise = .error .aborted ↔
    format = .machO ∧ BreaksOff bytes := by
  cases format with
  | elf | pe =>
    simp only [contents]
    split <;> simp
  | machO =>
    simp only [contents, true_and]
    cases read : MachO.File.read? bytes with
    | none => simp [BreaksOff, read]
    | some file =>
      rw [MachO.breaksOff_iff_of_read? read config]
      cases usable : file.contents? bytes config with
      | ok found => simp [usable]
      | error failure => cases failure <;> simp [usable]

theorem detected_eq_aborted_iff (config : Config) : detected config bytes = .error .aborted ↔ BreaksOff bytes := by
  have told (breaks : BreaksOff bytes) : Container.detect? bytes = some (.binary .machO) := by
    obtain ⟨file, _, _, read, _⟩ := breaks
    exact MachO.File.detect?_of_read? read
  constructor
  · intro broken
    simp only [detected] at broken
    split at broken
    case h_2 => exact (contents_eq_aborted_iff.mp broken).2
    all_goals cases broken
  · intro breaks
    simp only [detected, told breaks]
    exact contents_eq_aborted_iff.mpr ⟨rfl, breaks⟩

theorem asFormat_eq_aborted_iff (config : Config) : asFormat config bytes format = .error .aborted ↔
    format = .machO ∧ BreaksOff bytes := by
  rw [asFormat]
  split
  next fat =>
    refine iff_of_false (fun broken => by cases broken) ?_
    rintro ⟨_, file, _, _, read, _⟩
    exact MachO.File.number?_ne_fatMagic read fat.2.1
  next => exact contents_eq_aborted_iff

end Opening

namespace Image

open MachO (BreaksOff)

variable {format : Option Format} {config : Config} {bytes : Bytes}

theorem load_eq_aborted_iff (config : Config) : load format config (.regular bytes) = .error .aborted ↔
    (format = none ∨ format = some .machO) ∧ BreaksOff bytes := by
  by_cases nothing : bytes.size = 0
  · rw [load_empty format config nothing]
    refine iff_of_false (fun broken => by cases broken) ?_
    rintro ⟨_, file, _, _, read, _⟩
    have enough := (MachO.File.read?_front read).1
    omega
  · rw [load_regular format config nothing]
    cases format with
    | none =>
      rw [← Opening.detected_eq_aborted_iff config]
      cases Opening.detected config bytes <;> simp [Except.map]
    | some format =>
      have same := @Opening.asFormat_eq_aborted_iff bytes format config
      cases read : Opening.asFormat config bytes format <;> simp [Except.map, ← same, read]

/-- Opening a file gives an image or refuses the file for a cause, unless the file is read as Mach-O and its bindings
dangle. Bindings that do not dangle cost the stubs at most: all else is as in the file without them. -/
theorem opens_or_refuses_iff (format : Option Format) (config : Config) (bytes : Bytes) :
    (((∃ image, load format config (.regular bytes) = .ok image) ∨
        ∃ cause, load format config (.regular bytes) = .error (.refused cause)) ↔
      ¬ ((format = none ∨ format = some .machO) ∧ BreaksOff bytes)) ∧
    ∀ file bare, format = none ∨ format = some .machO → MachO.File.read? bytes = some file →
      file.unbound.contents? bytes config = .ok bare → ¬ file.Dangles bytes →
      ∃ stubs, load format config (.regular bytes) = .ok (.ofContents config bytes { bare with stubs }) := by
  constructor
  · rw [← load_eq_aborted_iff config]
    cases load format config (.regular bytes) with
    | ok image => simp
    | error failure => cases failure <;> simp
  · intro file bare known read usable fine
    obtain ⟨stubs, found⟩ := MachO.File.contents?_of_unbound usable fine
    refine ⟨stubs, ?_⟩
    rcases known with rfl | rfl
    · exact load_detected_eq_ok_iff.mpr ⟨_, .machO read found, rfl⟩
    · exact load_given_eq_ok_iff.mpr ⟨_, .machO read found, MachO.File.contents?_format found, rfl⟩

end Image

namespace BoundSlot

open MachO

private theorem unbound_contents? (present : Bool) (config : Config) :
    file.unbound.contents? (bytes present) config = .ok (contents config) := by
  rw [File.contents?_unbound (sections?_file present) (symbolEntries?_file present), size_bytes present]
  simp only [File.withoutStubs, FunctionSize.infer_eq]
  rfl

private theorem not_dangles_file : ¬ file.Dangles (bytes true) := by
  rw [← File.ofFile_eq_dangling_iff, ofFile_bytes]
  exact Binding.Outcome.noConfusion

/-- There is no segment of number 5. -/
private theorem dangles_file : file.Dangles (bytes false) := by
  have dangling : Binding.ofFile file (bytes false) = .dangling := by decide +kernel
  exact File.ofFile_eq_dangling_iff.mp dangling

theorem breaksOff_bytes : BreaksOff (bytes false) :=
  ⟨_, _, _, read?_bytes false, sections?_file false, symbolEntries?_file false, dangles_file⟩

end BoundSlot

namespace Image

open MachO (BreaksOff)

theorem open_boundSlot : ((∃ image, load none {} (.regular (BoundSlot.bytes true)) = .ok image) ∨
      ∃ cause, load none {} (.regular (BoundSlot.bytes true)) = .error (.refused cause)) ∧
    MachO.File.read? (BoundSlot.bytes true) = some BoundSlot.file ∧
    BoundSlot.file.unbound.contents? (BoundSlot.bytes true) {} = .ok (BoundSlot.contents {}) ∧
    ¬ BoundSlot.file.Dangles (BoundSlot.bytes true) ∧
    ∃ stubs, load none {} (.regular (BoundSlot.bytes true)) =
      .ok (.ofContents {} (BoundSlot.bytes true) { BoundSlot.contents {} with stubs }) := by
  have read := BoundSlot.read?_bytes true
  have usable := BoundSlot.unbound_contents? true {}
  have fine := BoundSlot.not_dangles_file
  obtain ⟨opens, same⟩ := opens_or_refuses_iff none {} (BoundSlot.bytes true)
  refine ⟨opens.mpr ?_, read, usable, fine, same _ _ (.inl rfl) read usable fine⟩
  rintro ⟨_, file, _, _, reread, _, _, dangles⟩
  obtain rfl := Option.some.inj (read.symm.trans reread)
  exact fine dangles

/-- Without its bindings the file has functions and code, but with them it cannot be opened, and no cause is told. -/
theorem open_danglingBoundSlot : (BoundSlot.bytes false).size ≠ 0 ∧
    MachO.File.read? (BoundSlot.bytes false) = some BoundSlot.file ∧ ∀ config,
      BoundSlot.file.unbound.contents? (BoundSlot.bytes false) config = .ok (BoundSlot.contents config) ∧
      load none config (.regular (BoundSlot.bytes false)) = .error .aborted := by
  refine ⟨?_, BoundSlot.read?_bytes false, fun config => ⟨BoundSlot.unbound_contents? false config, ?_⟩⟩
  · rw [BoundSlot.size_bytes false]
    decide
  · exact (load_eq_aborted_iff config).mpr ⟨.inl rfl, BoundSlot.breaksOff_bytes⟩

end Image

end ObjectLens

import Mathlib.Data.List.Forall2
import ObjectLens.Proofs.OpeningFailures

/-! What the options of the user do to an opened image. A file is read in one way whatever the options are; they only
choose how the names of a Mach-O file are shown and how code is decoded. -/

namespace ObjectLens

def Symbol.rename (change : String → String) (symbol : Symbol) : Symbol := { symbol with name := change symbol.name }

def Stub.rename (change : String → String) (stub : Stub) : Stub := { stub with name := change stub.name }

/-- Sizes are inferred from addresses and regions, whatever the names are. -/
theorem FunctionSize.infer_map_rename (change : String → String) (symbols : List Symbol) (regions : List Region) :
    infer (symbols.map (·.rename change)) regions = (infer symbols regions).map (·.rename change) := by
  simp only [infer, List.map_map]
  rfl

/-- Which stub keeps an address is a matter of the order of the stubs, whatever the names are. -/
theorem StubTable.firstClaims_map_rename (change : String → String) (stubs : List Stub) :
    firstClaims (stubs.map (·.rename change)) = (firstClaims stubs).map (·.rename change) := by
  induction stubs with
  | nil => rfl
  | cons stub others ih =>
    rw [List.map_cons, firstClaims, firstClaims, ih, List.map_cons, List.filter_map]
    rfl

namespace Contents

def rename (change : String → String) (found : Contents) : Contents :=
  { found with
    symbols := found.symbols.map (·.rename change)
    stubs := found.stubs.map (·.rename change) }

/-- The contents as the user wants to see them, if those that were found have the names of the file. -/
def shownBy (config : Config) (found : Contents) : Contents :=
  if found.format = .machO then found.rename (MachO.displayName config) else found

private theorem shownBy_of_machO {config : Config} {found : Contents} (machO : found.format = .machO) :
    found.shownBy config = found.rename (MachO.displayName config) := if_pos machO

private theorem shownBy_of_other {config : Config} {found : Contents} (other : found.format ≠ .machO) :
    found.shownBy config = found := if_neg other

end Contents

namespace MachO.File

open Config (keeping)

variable {file : File} {bytes : Bytes}

private theorem functions_eq_rename (config : Config) (ordinals : List Nat) (entries : List SymbolEntry) :
    functions config ordinals entries = (functions keeping ordinals entries).map (·.rename (displayName config)) := by
  simp only [functions, List.map_map]
  rfl

private theorem withoutStubs_eq_rename (config : Config) (sections : List Section) (entries : List SymbolEntry)
    (fileSize : Nat) : file.withoutStubs config sections entries fileSize =
      (file.withoutStubs keeping sections entries fileSize).rename (displayName config) := by
  simp only [withoutStubs, functions_eq_rename config, FunctionSize.infer_map_rename, Contents.rename, List.map_nil]

private theorem stubs?_eq_rename (config : Config) : file.stubs? bytes config =
    (file.stubs? bytes keeping).map fun stubs => stubs.map (·.rename (displayName config)) := by
  simp only [stubs?]
  cases Binding.ofFile file bytes with
  | bound bindings =>
    simp only [Except.map, List.map_map]
    rfl
  | unreadable => rfl
  | dangling => rfl

private theorem contents?_eq_rename (config : Config) : file.contents? bytes config =
    (file.contents? bytes keeping).map (·.rename (displayName config)) := by
  cases read : file.sections? bytes with
  | none =>
    rw [contents?_of_no_sections read, contents?_of_no_sections read]
    rfl
  | some sections =>
    cases listed : file.symbolEntries? bytes with
    | none =>
      rw [contents?_of_no_entries read listed, contents?_of_no_entries read listed]
      rfl
    | some entries =>
      rw [contents?_of_read read listed, contents?_of_read read listed, stubs?_eq_rename config,
        withoutStubs_eq_rename config]
      cases file.stubs? bytes keeping <;> rfl

end MachO.File

namespace Opening

open Config (keeping)

variable {bytes : Bytes}

/-- Under all options the same is found in a file, or the file is refused for the same cause. -/
theorem contents_eq_shownBy (config : Config) (format : Format) (otherwise : LoadError) :
    contents config bytes format otherwise = (contents keeping bytes format otherwise).map (·.shownBy config) := by
  cases format with
  | elf =>
    simp only [contents]
    cases Elf.File.read? bytes with
    | none => rfl
    | some file => exact congrArg Except.ok (Contents.shownBy_of_other Format.noConfusion).symm
  | pe =>
    simp only [contents]
    cases Pe.File.read? bytes with
    | none => rfl
    | some file => exact congrArg Except.ok (Contents.shownBy_of_other Format.noConfusion).symm
  | machO =>
    simp only [contents]
    cases MachO.File.read? bytes with
    | none => rfl
    | some file =>
      simp only [MachO.File.contents?_eq_rename config]
      cases usable : file.contents? bytes keeping with
      | ok found =>
        have machO := MachO.File.contents?_format usable
        exact congrArg Except.ok (Contents.shownBy_of_machO machO).symm
      | error failure => cases failure <;> rfl

private theorem detected_eq_shownBy (config : Config) :
    detected config bytes = (detected keeping bytes).map (·.shownBy config) := by
  simp only [detected]
  split
  case h_2 => exact contents_eq_shownBy config _ _
  all_goals rfl

private theorem asFormat_eq_shownBy (config : Config) (format : Format) :
    asFormat config bytes format = (asFormat keeping bytes format).map (·.shownBy config) := by
  simp only [asFormat]
  split
  · rfl
  · exact contents_eq_shownBy config _ _

end Opening

namespace Image

open MachO (BreaksOff Stripped)
open Config (keeping)

variable {config other : Config} {bytes : Bytes}

def functionNames (image : Image) : List String := image.symbols.entries.map (·.name)

def stubNames (image : Image) : List String := image.stubs.entries.map (·.name)

/-- Two images of one file, each opened with its own options. If the first one keeps the underscores of a Mach-O file
and the second one does not, the names of the second one are those of the first one without them. -/
structure Agree (config other : Config) (image alike : Image) : Prop where
  format : image.format = alike.format
  bytes : image.bytes = alike.bytes
  arch : ∃ recorded, image.arch = config.arch.or recorded ∧ alike.arch = other.arch.or recorded
  regions : image.regions = alike.regions
  functions : image.symbols.entries.map (fun symbol => (symbol.address, symbol.size)) =
    alike.symbols.entries.map fun symbol => (symbol.address, symbol.size)
  stubs : image.stubs.entries.map (·.address) = alike.stubs.entries.map (·.address)
  named : config.keepUnderscore = other.keepUnderscore ∨ image.format ≠ .machO →
    image.functionNames = alike.functionNames ∧ image.stubNames = alike.stubNames
  stripped : image.format = .machO → config.keepUnderscore = true → other.keepUnderscore = false →
    List.Forall₂ Stripped image.functionNames alike.functionNames ∧
      List.Forall₂ Stripped image.stubNames alike.stubNames

section

variable (config : Config) (bytes : Bytes) (change : String → String) (found : Contents)

private theorem symbols_ofContents_rename : (ofContents config bytes (found.rename change)).symbols.entries =
    found.symbols.map (·.rename change) := rfl

private theorem stubs_ofContents_rename : (ofContents config bytes (found.rename change)).stubs.entries =
    (StubTable.firstClaims found.stubs).map (·.rename change) :=
  (StubTable.entries_ofList _).trans (StubTable.firstClaims_map_rename change found.stubs)

private theorem functionNames_ofContents_rename : (ofContents config bytes (found.rename change)).functionNames =
    found.symbols.map fun symbol => change symbol.name := by
  rw [functionNames, symbols_ofContents_rename, List.map_map]
  rfl

private theorem stubNames_ofContents_rename : (ofContents config bytes (found.rename change)).stubNames =
    (StubTable.firstClaims found.stubs).map fun stub => change stub.name := by
  rw [stubNames, stubs_ofContents_rename, List.map_map]
  rfl

end

private theorem agree_of_rename (config other : Config) (bytes : Bytes) {found : Contents}
    (machO : found.format = .machO) :
    Agree config other (ofContents config bytes (found.rename (MachO.displayName config)))
      (ofContents other bytes (found.rename (MachO.displayName other))) where
  format := rfl
  bytes := rfl
  arch := ⟨found.arch, rfl, rfl⟩
  regions := rfl
  functions := by
    simp only [symbols_ofContents_rename, List.map_map]
    rfl
  stubs := by
    simp only [stubs_ofContents_rename, List.map_map]
    rfl
  named choice := by
    have agree : config.keepUnderscore = other.keepUnderscore := choice.resolve_right fun unlike => unlike machO
    have same : MachO.displayName config = MachO.displayName other := by
      funext name
      rw [MachO.displayName, MachO.displayName, agree]
    simp only [functionNames_ofContents_rename, stubNames_ofContents_rename, same, true_and]
  stripped _ keeps strips := by
    have stripped (name : String) : Stripped (MachO.displayName config name) (MachO.displayName other name) := by
      rw [MachO.displayName_of_keeps keeps]
      exact MachO.stripped_displayName strips name
    simp only [functionNames_ofContents_rename, stubNames_ofContents_rename, List.forall₂_map_left_iff,
      List.forall₂_map_right_iff, List.forall₂_same]
    exact ⟨fun symbol _ => stripped symbol.name, fun stub _ => stripped stub.name⟩

private theorem agree_of_shownBy (config other : Config) (bytes : Bytes) (found : Contents) :
    Agree config other (ofContents config bytes (found.shownBy config))
      (ofContents other bytes (found.shownBy other)) := by
  by_cases machO : found.format = .machO
  · rw [Contents.shownBy_of_machO machO, Contents.shownBy_of_machO machO]
    exact agree_of_rename config other bytes machO
  · rw [Contents.shownBy_of_other machO, Contents.shownBy_of_other machO]
    exact ⟨rfl, rfl, ⟨found.arch, rfl, rfl⟩, rfl, rfl, rfl, fun _ => ⟨rfl, rfl⟩, fun same => absurd same machO⟩

/-- One way of reading a file serves all options. -/
theorem load_eq_shownBy (format : Option Format) (bytes : Bytes) : ∃ outcome : Except OpenFailure Contents,
    ∀ config, load format config (.regular bytes) =
      outcome.map fun found => ofContents config bytes (found.shownBy config) := by
  by_cases nothing : bytes.size = 0
  · exact ⟨.error (.refused .empty), fun config => load_empty format config nothing⟩
  · cases format with
    | none =>
      refine ⟨Opening.detected keeping bytes, fun config => ?_⟩
      rw [load_regular none config nothing]
      simp only [Opening.detected_eq_shownBy config]
      cases Opening.detected keeping bytes <;> rfl
    | some format =>
      refine ⟨Opening.asFormat keeping bytes format, fun config => ?_⟩
      rw [load_regular (some format) config nothing]
      simp only [Opening.asFormat_eq_shownBy config]
      cases Opening.asFormat keeping bytes format <;> rfl

/-- Whatever the options are, a file is opened with the same contents, or refused for the same cause, or the opening
breaks off, which it does exactly if the file is read as Mach-O and its bindings dangle. -/
theorem load_agrees (format : Option Format) (config other : Config) (bytes : Bytes) :
    (∃ image alike, load format config (.regular bytes) = .ok image ∧ load format other (.regular bytes) = .ok alike ∧
      Agree config other image alike) ∨
    (∃ cause, load format config (.regular bytes) = .error (.refused cause) ∧
      load format other (.regular bytes) = .error (.refused cause)) ∨
    (load format config (.regular bytes) = .error .aborted ∧ load format other (.regular bytes) = .error .aborted ∧
      (format = none ∨ format = some .machO) ∧ BreaksOff bytes) := by
  obtain ⟨outcome, same⟩ := load_eq_shownBy format bytes
  cases outcome with
  | ok found => exact .inl ⟨_, _, same config, same other, agree_of_shownBy config other bytes found⟩
  | error failure =>
    cases failure with
    | refused cause => exact .inr (.inl ⟨cause, same config, same other⟩)
    | aborted => exact .inr (.inr ⟨same config, same other, (load_eq_aborted_iff config).mp (same config)⟩)

private theorem stubNames_boundSlot (config : Config) :
    (BoundSlot.image config).stubNames = [MachO.displayName config "_g"] :=
  congrArg (List.map Stub.name) (StubTable.entries_ofList _)

theorem agree_of_boundSlot : ∃ image alike, load none keeping (.regular (BoundSlot.bytes true)) = .ok image ∧
    load none {} (.regular (BoundSlot.bytes true)) = .ok alike ∧ Agree keeping {} image alike ∧
    image.functionNames = ["_", "_f"] ∧ alike.functionNames = ["", "f"] ∧
    image.stubNames = ["_g"] ∧ alike.stubNames = ["g"] := by
  have kept := BoundSlot.load_bytes keeping
  have stripped := BoundSlot.load_bytes {}
  refine ⟨_, _, kept, stripped, ?_, rfl, by decide, stubNames_boundSlot keeping, stubNames_boundSlot {}⟩
  rcases load_agrees none keeping {} (BoundSlot.bytes true) with
    ⟨image, alike, opened, reopened, agree⟩ | ⟨cause, refused, _⟩ | ⟨broken, _⟩
  · cases kept.symm.trans opened
    cases stripped.symm.trans reopened
    exact agree
  · cases kept.symm.trans refused
  · cases kept.symm.trans broken

/-- With a slot in a segment that is not there, the file is neither opened nor refused. -/
theorem disagree_of_danglingBoundSlot :
    ¬ ((∃ image alike, load none ⟨some .x86_64, .att, true⟩ (.regular (BoundSlot.bytes false)) = .ok image ∧
        load none {} (.regular (BoundSlot.bytes false)) = .ok alike) ∨
      ∃ cause, load none ⟨some .x86_64, .att, true⟩ (.regular (BoundSlot.bytes false)) = .error (.refused cause) ∧
        load none {} (.regular (BoundSlot.bytes false)) = .error (.refused cause)) := by
  have broken : load none {} (.regular (BoundSlot.bytes false)) = .error .aborted :=
    (load_eq_aborted_iff {}).mpr ⟨.inl rfl, BoundSlot.breaksOff_bytes⟩
  rintro (⟨image, alike, _, opened⟩ | ⟨cause, _, refused⟩)
  · cases broken.symm.trans opened
  · cases broken.symm.trans refused

end Image

end ObjectLens

import ObjectLens.Arch
import ObjectLens.Pe.Auxiliary
import ObjectLens.Pe.Export
import ObjectLens.Pe.Import

/-! PE images as a whole: their sections, exports and imports. -/

namespace ObjectLens.Pe

structure File where
  machine : Nat
  sections : List Section
  exports : List Export
  imports : List Import
  deriving DecidableEq, Repr, Inhabited

namespace File

def x86_64 : Nat := 0x8664

def readTables? (bytes : Bytes) (coff : CoffHeader) (sections : List Section) (header : OptionalHeader) :
    Option File := do
  let mapping : Mapping := ⟨sections, header.fileAlignment⟩
  let exports := ((header.directory? 0).map (Export.ofDirectory mapping bytes)).getD []
  let imports ← match header.directory? 1 with
    | none => some []
    | some directory => Import.ofDirectory? mapping bytes header.wide directory
  if !(header.directory? 6).all (Directory.debugFits mapping bytes) then none
  if coff.machine = x86_64 ∧ !(header.directory? 3).all (Directory.exceptionsFit mapping) then none
  if !(header.directory? 4).all (Directory.certificatesFit bytes) then none
  return ⟨coff.machine, sections, exports, imports⟩

/-- Reads an image. The old header for another system stands in front; it tells where the signature and the headers
proper are. Without an optional header there are sections and nothing else. -/
def read? (bytes : Bytes) : Option File := do
  let legacy ← bytes.part? 0 128
  if (legacy.part 0 2).view ≠ [0x4d, 0x5a] then none
  let start := legacy.number .little 0x3c 4
  if (← bytes.number? .little start 4) ≠ 0x4550 then none
  let coff ← CoffHeader.read? bytes (start + 4)
  let optionalStart := start + 4 + CoffHeader.size
  let optional ← if coff.optionalSize = 0 then some none
    else (OptionalHeader.read? bytes optionalStart).map some
  let sections ← Section.table? bytes coff (optionalStart + coff.optionalSize)
  match optional with
  | none => return ⟨coff.machine, sections, [], []⟩
  | some header => readTables? bytes coff sections header

variable {bytes : Bytes} {file : File}

private theorem readTables?_sections {coff : CoffHeader} {sections : List Section} {header : OptionalHeader}
    (read : readTables? bytes coff sections header = some file) : file.sections = sections := by
  simp only [readTables?, Option.bind_eq_bind, Option.bind_none] at read
  split at read
  all_goals
    obtain ⟨imports, _, rest⟩ := Option.bind_eq_some_iff.mp read
    simp only [Option.ite_none_left_eq_some] at rest
    obtain ⟨_, _, _, same⟩ := rest
    cases same
    rfl

/-- Whatever else an image holds, its sections are those of the section table. -/
theorem read?_sections (read : read? bytes = some file) :
    ∃ header start, Section.table? bytes header start = some file.sections := by
  simp only [read?, Option.bind_eq_bind, Option.bind_none, Option.bind_eq_some_iff,
    Option.ite_none_left_eq_some] at read
  obtain ⟨legacy, _, _, _, _, _, coff, _, rest⟩ := read
  split at rest
  all_goals
    obtain ⟨optional, _, rest⟩ := Option.bind_eq_some_iff.mp rest
    obtain ⟨sections, table, rest⟩ := Option.bind_eq_some_iff.mp rest
    refine ⟨coff, _, table.trans (congrArg some ?_)⟩
    cases optional with
    | none =>
      cases rest
      rfl
    | some header => exact (readTables?_sections rest).symm

/-- The architecture of the machine that the image is made for. -/
def arch? (file : File) : Option Arch :=
  match file.machine with
  | 0x8664 => some .x86_64
  | 0x14c => some .x86
  | 0xaa64 => some .arm64
  | 0x1c4 => some .arm
  | _ => none

end File

end ObjectLens.Pe

import ObjectLens.Archive
import ObjectLens.Elf.Contents
import ObjectLens.FileState
import ObjectLens.MachO.Contents
import ObjectLens.Pe.Contents
import ObjectLens.Pe.Object

/-! Opening a binary. The format is told by the first bytes of the file, or it is given; either way the same reader
makes the tables. -/

namespace ObjectLens

inductive LoadError where
  | notFound
  | empty
  | fat
  | unrecognized (magic : Nat)
  | unsupported
  /-- The file does not follow its format, which was told by its first bytes. -/
  | malformed
  /-- The file does not follow the format that was asked for. -/
  | notOfFormat (format : Format)
  | badSymbols
  | badSections
  deriving DecidableEq, Repr, Inhabited

namespace LoadError

def reason : LoadError → String
  | .notFound => "binary not found"
  | .empty => "file is empty"
  | .fat => "fat Mach-O archives are not supported; extract one architecture first"
  | .unrecognized magic => "unrecognized binary format (magic 0x" ++ Hex.upperDigits magic ++ ")"
  | .unsupported => "unsupported container format"
  | .malformed => "malformed binary: a table does not fit into the file"
  | .notOfFormat .elf => "not a valid ELF file: a table does not fit into the file"
  | .notOfFormat .machO => "not a valid Mach-O file: a table does not fit into the file"
  | .notOfFormat .pe => "not a valid PE file: a table does not fit into the file"
  | .badSymbols => "bad symbol table: an entry or its name cannot be read"
  | .badSections => "bad section header: it does not fit into the file"

def message (error : LoadError) (path : String) : String := "Failed to load " ++ path ++ ": " ++ error.reason

end LoadError

inductive OpenFailure where
  /-- The file is refused for a cause that the user is told. -/
  | refused (cause : LoadError)
  /-- Reading the file broke off, and so does the whole program. -/
  | aborted
  deriving DecidableEq, Repr, Inhabited

inductive Container where
  | binary (format : Format)
  | fat
  | archive
  | object
  | unknown (magic : Nat)
  deriving DecidableEq, Repr, Inhabited

namespace Container

/-- Mach-O files for several processors in one start with this number. -/
def fatMagic : Nat := 0xcafebabe

/-- What a file is by its first sixteen bytes, which have to be there. -/
def detect? (bytes : Bytes) : Option Container := do
  let front ← bytes.part? 0 16
  if (front.part 0 4).view = [0x7f, 0x45, 0x4c, 0x46] then return .binary .elf
  if (front.part 0 8).view = Archive.magic then return .archive
  let short := front.number .little 0 2
  if short = 0x5a4d then return .binary .pe
  if Pe.Object.machines.contains short then return .object
  if (MachO.Encoding.ofMagic? front).isSome then return .binary .machO
  if front.number .big 0 4 = fatMagic then return .fat
  return .unknown (front.number .little 0 8)

end Container

namespace Opening

/-- The contents of a file of a given format. The error for a file that does not follow it depends on who asked. -/
def contents (config : Config) (bytes : Bytes) (format : Format) (otherwise : LoadError) :
    Except OpenFailure Contents :=
  match format with
  | .elf =>
    match Elf.File.read? bytes with
    | none => .error (.refused otherwise)
    | some file => .ok (file.contents bytes)
  | .pe =>
    match Pe.File.read? bytes with
    | none => .error (.refused otherwise)
    | some file => .ok (file.contents bytes)
  | .machO =>
    match MachO.File.read? bytes with
    | none => .error (.refused otherwise)
    | some file =>
      match file.contents? bytes config with
      | .ok contents => .ok contents
      | .error .badSections => .error (.refused .badSections)
      | .error .badSymbols => .error (.refused .badSymbols)
      | .error .danglingBinding => .error .aborted

/-- The contents of a file whose format is told by its first bytes. -/
def detected (config : Config) (bytes : Bytes) : Except OpenFailure Contents :=
  let known (wellFormed : Bool) : OpenFailure := .refused (if wellFormed then .unsupported else .malformed)
  match Container.detect? bytes with
  | none => .error (.refused .malformed)
  | some (.binary format) => contents config bytes format .malformed
  | some .fat => .error (.refused .fat)
  | some .archive => .error (known (Archive.isWellFormed bytes))
  | some .object => .error (known (Pe.Object.isWellFormed bytes))
  | some (.unknown magic) => .error (.refused (.unrecognized magic))

/-- The contents of a file that should have a format. A file for several processors in one is told apart from one
that makes no sense; its header has eight bytes. -/
def asFormat (config : Config) (bytes : Bytes) (format : Format) : Except OpenFailure Contents :=
  if format = .machO ∧ bytes.number? .big 0 4 = some Container.fatMagic ∧ 8 ≤ bytes.size then .error (.refused .fat)
  else contents config bytes format (.notOfFormat format)

def readable : FileState → Except OpenFailure Bytes
  | .regular bytes => if bytes.size = 0 then .error (.refused .empty) else .ok bytes
  | .missing | .directory => .error (.refused .notFound)

end Opening

namespace Image

/-- Opens a binary. The format is told by the file where it is not given. -/
def load (format : Option Format) (config : Config) (file : FileState) : Except OpenFailure Image := do
  let bytes ← Opening.readable file
  let contents ← match format with
    | none => Opening.detected config bytes
    | some format => Opening.asFormat config bytes format
  return .ofContents config bytes contents

end Image

end ObjectLens

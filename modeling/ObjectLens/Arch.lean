/-! Instruction sets, listing dialects and container formats, with the names under which people write them. -/

namespace ObjectLens

/-- The instruction sets that function bodies can be decoded with. -/
inductive Arch where
  | x86
  | x86_64
  | arm
  | arm64
  | riscv32
  | riscv64
  deriving DecidableEq, Repr, Inhabited

namespace Arch

def name : Arch → String
  | .x86 => "x86"
  | .x86_64 => "x86_64"
  | .arm => "arm"
  | .arm64 => "arm64"
  | .riscv32 => "riscv32"
  | .riscv64 => "riscv64"

/-- The architecture that a name means when it is written exactly so. Configuration files take these names. -/
def ofExactName? : String → Option Arch
  | "x86" | "i386" | "i686" => some .x86
  | "x86_64" | "amd64" | "x64" => some .x86_64
  | "arm" | "armv7" => some .arm
  | "arm64" | "aarch64" => some .arm64
  | "riscv32" => some .riscv32
  | "riscv64" | "riscv" => some .riscv64
  | _ => none

/-- The architecture that a name means in either case. Command lines take these names. Only ASCII letters need
lowering: no name holds a `k`, the one letter of ASCII that is the lower case of a character outside of it. -/
def ofName? (text : String) : Option Arch := ofExactName? (text.map Char.toLower)

/-- A printed name means the architecture it was printed for. -/
theorem ofName?_name (arch : Arch) : ofName? arch.name = some arch := by
  cases arch <;> decide +kernel

end Arch

/-- What a name that means no architecture is answered with. -/
def unknownArchMessage (text : String) : String := "unknown architecture: " ++ text

/-- The two ways to write x86 instructions. Other architectures have one way only and ignore the choice. -/
inductive Dialect where
  | intel
  | att
  deriving DecidableEq, Repr, Inhabited

namespace Dialect

def name : Dialect → String
  | .intel => "intel"
  | .att => "att"

def ofName? : String → Option Dialect
  | "intel" => some .intel
  | "att" => some .att
  | _ => none

end Dialect

inductive Format where
  | elf
  | machO
  | pe
  deriving DecidableEq, Repr, Inhabited

namespace Format

def name : Format → String
  | .elf => "elf"
  | .machO => "macho"
  | .pe => "pe"

def title : Format → String
  | .elf => "ELF"
  | .machO => "Mach-O"
  | .pe => "PE"

end Format

end ObjectLens

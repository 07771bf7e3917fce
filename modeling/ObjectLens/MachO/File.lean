import ObjectLens.Arch
import ObjectLens.MachO.Command

/-! Mach-O files as a whole: what their load commands say together. Where several commands say the same kind of thing,
segments add up and the last word counts for everything else. -/

namespace ObjectLens.MachO

structure File where
  encoding : Encoding
  processor : Nat
  segments : List Segment
  symbols : Option SymbolLocation
  /-- The number of libraries that bindings can refer to. The file itself is one of them. -/
  libraryCount : Nat
  bindings : Option (Range × Range)
  deriving DecidableEq

namespace Command

def segments (commands : List Command) : List Segment :=
  commands.filterMap fun
    | .segment found => some found
    | _ => none

def symbols? (commands : List Command) : Option SymbolLocation :=
  (commands.filterMap fun
    | .symbols found => some found
    | _ => none).getLast?

def bindings? (commands : List Command) : Option (Range × Range) :=
  (commands.filterMap fun
    | .bindings eager lazy => some (eager, lazy)
    | _ => none).getLast?

def libraryCount (commands : List Command) : Nat :=
  commands.countP fun
    | .library => true
    | _ => false

def threadProcessors : List Nat := [7, 0x01000007, 12, 0x0100000c, 0x0200000c, 18]

/-- Whether each way to tell an entry point can be followed: registers of a known processor, and a segment `__TEXT`
for an entry point inside of it. -/
def entryPointsFit (processor : Nat) (commands : List Command) : Bool :=
  commands.all fun
    | .mainThread => threadProcessors.contains processor
    | .entryPoint => (segments commands).any fun found => found.name.paddedName = "__TEXT"
    | _ => true

end Command

namespace File

def read? (bytes : Bytes) : Option File := do
  let encoding ← Encoding.ofMagic? bytes
  let header ← Header.read? encoding bytes
  let commands ← Command.readAll? encoding bytes header.commandCount encoding.headerSize
  if !Command.entryPointsFit header.processor commands then none
  return ⟨encoding, header.processor, Command.segments commands, Command.symbols? commands,
    1 + Command.libraryCount commands, Command.bindings? commands⟩

/-- The architecture of the processor that the file is made for. -/
def arch? (file : File) : Option Arch :=
  match file.processor with
  | 7 => some .x86
  | 12 => some .arm
  | 0x01000007 => some .x86_64
  | 0x0100000c => some .arm64
  | _ => none

end File

end ObjectLens.MachO

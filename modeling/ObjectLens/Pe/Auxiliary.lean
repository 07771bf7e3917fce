import ObjectLens.Pe.Mapping

/-! Directories whose contents are not used but have to make sense all the same: where debugging information is, how
exceptions are unwound, and who signed the image. -/

namespace ObjectLens.Pe

namespace Directory

/-- A debug directory makes sense if its first entry is there and, where that entry says so, the name of a file with
symbols: a signature, twenty bytes of identification, and the rest of the stated size. -/
def debugFits (mapping : Mapping) (bytes : Bytes) (directory : Directory) : Bool :=
  let fits := do
    let record ← bytes.part? (← mapping.offset? directory.address) 28
    let size := record.number .little 16 4
    let start := record.number .little 24 4
    if record.number .little 12 4 ≠ 2 then return ()
    if size < 24 then none
    let signature ← bytes.number? .little start 4
    if signature ≠ 0x53445352 then return ()
    let _ ← bytes.part? start size
    return ()
  fits.isSome

/-- A directory of unwinding entries makes sense if it holds whole entries, of twelve bytes each, and is stored at a
multiple of four. -/
def exceptionsFit (mapping : Mapping) (directory : Directory) : Bool :=
  directory.size % 12 = 0 && (mapping.offset? directory.address).any (· % 4 = 0)

/-- Certificates one after the other up to a position, each with a header of eight bytes and filled up to a multiple
of eight. `left` bounds their number. -/
private def certificatesFitFrom (bytes : Bytes) (stop : Nat) : Nat → Nat → Bool
  | 0, _ => false
  | left + 1, position =>
    if stop ≤ position then true
    else
      match bytes.part? position 8 with
      | none => false
      | some record =>
        let revision := record.number .little 4 2
        let type := record.number .little 6 2
        let next := position + 8 + (record.number .little 0 4 - 8)
        next ≤ bytes.size && (revision = 0x100 || revision = 0x200) && (1 ≤ type && type ≤ 4) &&
          certificatesFitFrom bytes stop left ((next + 7) / 8 * 8)

/-- A directory of certificates gives a position in the file instead of an address. It makes sense if it lies inside
of the file and holds certificates. -/
def certificatesFit (bytes : Bytes) (directory : Directory) : Bool :=
  directory.address + directory.size ≤ bytes.size &&
    certificatesFitFrom bytes (directory.address + directory.size) (bytes.size + 1) directory.address

end Directory

end ObjectLens.Pe

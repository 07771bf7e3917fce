import ObjectLens.Instruction.Row

/-! The instructions of 64-bit ARM that are listed with fixed text. -/

namespace ObjectLens.Instruction.Table

def arm64 : List Row :=
  [row 0x00 [0x00, 0x1f, 0xd6] "br" "x0",
   row 0x00 [0x00, 0x3f, 0xd6] "blr" "x0",
   row 0x00 [0x00, 0x80, 0x52] "mov" "w0, #0",
   row 0x00 [0x00, 0x80, 0xd2] "mov" "x0, #0",
   row 0x01 [0x00, 0x00, 0xd4] "svc" "#0",
   row 0x1f [0x00, 0x00, 0xf1] "cmp" "x0, #0",
   row 0x1f [0x20, 0x03, 0xd5] "nop" "",
   row 0x20 [0x00, 0x80, 0x52] "mov" "w0, #1",
   row 0x30 [0x10, 0xbd, 0x70] "adr" "x16, #0x37a30c",
   row 0x31 [0xc0, 0x90, 0x90] "adrp" "x17, #0xffffffff21805000",
   row 0x55 [0x48, 0x89, 0xe5] "str" "z21, [x2, #0x4a, mul vl]",
   row 0x90 [0x90, 0x90, 0x90] "adrp" "x16, #0xffffffff21211000",
   row 0xc0 [0x03, 0x5f, 0xd6] "ret" "",
   row 0xe0 [0x03, 0x00, 0xaa] "mov" "x0, x0",
   row 0xfd [0x03, 0x00, 0x91] "mov" "x29, sp",
   row 0xfd [0x7b, 0xbf, 0xa9] "stp" "x29, x30, [sp, #-0x10]!",
   row 0xfd [0x7b, 0xc1, 0xa8] "ldp" "x29, x30, [sp], #0x10",
   row 0xff [0x83, 0x00, 0x91] "add" "sp, sp, #0x20",
   row 0xff [0x83, 0x00, 0xd1] "sub" "sp, sp, #0x20"]

end ObjectLens.Instruction.Table

import ObjectLens.Instruction.Row

/-! The instructions of RISC-V, compressed ones among them. Jumps are listed with their offset, so no row depends
on where it stands. -/

namespace ObjectLens.Instruction.Table

def riscv32 : List Row :=
  [row 0x01 [0x00] "c.nop" "",
   row 0x01 [0x11] "c.addi" "sp, -0x20",
   row 0x01 [0x45] "c.li" "a0, 0",
   row 0x05 [0x45] "c.li" "a0, 1",
   row 0x13 [0x00, 0x00, 0x00] "nop" "",
   row 0x13 [0x05, 0x00, 0x00] "mv" "a0, zero",
   row 0x13 [0x05, 0x10, 0x00] "addi" "a0, zero, 1",
   row 0x37 [0x05, 0x00, 0x00] "lui" "a0, 0",
   row 0x3e [0x85] "c.mv" "a0, a5",
   row 0x41 [0x11] "c.addi" "sp, -0x10",
   row 0x67 [0x80, 0x00, 0x00] "ret" "",
   row 0x6f [0x00, 0x00, 0x00] "j" "0",
   row 0x73 [0x00, 0x00, 0x00] "ecall" "",
   row 0x73 [0x00, 0x10, 0x00] "ebreak" "",
   row 0x82 [0x80] "c.jr" "ra",
   row 0xef [0x00, 0x00, 0x00] "jal" "0"]

def riscv64 : List Row :=
  [row 0x00 [0x00] "c.unimp" "",
   row 0x00 [0x5d] "c.lw" "s0, 0x38(a0)",
   row 0x01 [0x00] "c.nop" "",
   row 0x01 [0x11] "c.addi" "sp, -0x20",
   row 0x01 [0x45] "c.li" "a0, 0",
   row 0x05 [0x45] "c.li" "a0, 1",
   row 0x06 [0xec] "c.sdsp" "ra, 0x18(sp)",
   row 0x13 [0x00, 0x00, 0x00] "nop" "",
   row 0x13 [0x05, 0x00, 0x00] "mv" "a0, zero",
   row 0x13 [0x05, 0x10, 0x00] "addi" "a0, zero, 1",
   row 0x22 [0xe8] "c.sdsp" "s0, 0x10(sp)",
   row 0x2a [0xe4] "c.sdsp" "a0, 8(sp)",
   row 0x31 [0xc0] "c.beqz" "s0, 0x44",
   row 0x37 [0x05, 0x00, 0x00] "lui" "a0, 0",
   row 0x3e [0x85] "c.mv" "a0, a5",
   row 0x41 [0x11] "c.addi" "sp, -0x10",
   row 0x55 [0x48] "c.li" "a6, 0x15",
   row 0x67 [0x80, 0x00, 0x00] "ret" "",
   row 0x6f [0x00, 0x00, 0x00] "j" "0",
   row 0x73 [0x00, 0x00, 0x00] "ecall" "",
   row 0x73 [0x00, 0x10, 0x00] "ebreak" "",
   row 0x82 [0x80] "c.jr" "ra",
   row 0x89 [0xe5] "c.bnez" "a1, 0xa",
   row 0xb8 [0x01] "c.addi4spn" "a4, sp, 0xc8",
   row 0xef [0x00, 0x00, 0x00] "jal" "0"]

end ObjectLens.Instruction.Table

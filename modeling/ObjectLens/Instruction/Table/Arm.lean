import ObjectLens.Instruction.Row

/-! The instructions of 32-bit ARM, in four-byte words and in Thumb half-words, whose text does not depend on
where they stand. -/

namespace ObjectLens.Instruction.Table

def armWords : List Row :=
  [row 0x00 [0x00, 0x50, 0xe3] "cmp" "r0, #0",
   row 0x00 [0x00, 0x80, 0xe0] "add" "r0, r0, r0",
   row 0x00 [0x00, 0xa0, 0xe1] "mov" "r0, r0",
   row 0x00 [0x00, 0xa0, 0xe3] "mov" "r0, #0",
   row 0x00 [0x10, 0xa0, 0xe3] "mov" "r1, #0",
   row 0x00 [0x48, 0x2d, 0xe9] "push" "\x7bfp, lr\x7d",
   row 0x00 [0x88, 0xbd, 0xe8] "pop" "\x7bfp, pc\x7d",
   row 0x00 [0xc0, 0x8f, 0xe2] "add" "ip, pc, #0",
   row 0x00 [0xf0, 0x20, 0xe3] "nop" "",
   row 0x01 [0x00, 0x80, 0xe2] "add" "r0, r0, #1",
   row 0x01 [0x00, 0xa0, 0xe3] "mov" "r0, #1",
   row 0x04 [0xe0, 0x2d, 0xe5] "str" "lr, [sp, #-4]!",
   row 0x04 [0xf0, 0x9d, 0xe4] "pop" "\x7bpc\x7d",
   row 0x1e [0xff, 0x2f, 0xe1] "bx" "lr",
   row 0x31 [0xc0, 0x90, 0x90] "addsls" "ip, r0, r1, lsr r0",
   row 0x55 [0x48, 0x89, 0xe5] "str" "r4, [sb, #0x855]",
   row 0x90 [0x90, 0x5d, 0xc3] "cmpgt" "sp, #0x90",
   row 0x90 [0x90, 0x90, 0x90] "umullsls" "sb, r0, r0, r0",
   row 0x90 [0x90, 0x90, 0xc3] "orrsgt" "sb, r0, #0x90",
   row 0xb8 [0x01, 0x00, 0x00] "strheq" "r0, [r0], -r8"]

def thumb : List Row :=
  [row 0x00 [0x20] "movs" "r0, #0",
   row 0x00 [0x28] "cmp" "r0, #0",
   row 0x00 [0xb5] "push" "\x7blr\x7d",
   row 0x00 [0xbd] "pop" "\x7bpc\x7d",
   row 0x00 [0xbe] "bkpt" "#0",
   row 0x00 [0xbf] "nop" "",
   row 0x00 [0xdf] "svc" "#0",
   row 0x01 [0x20] "movs" "r0, #1",
   row 0x01 [0x30] "adds" "r0, #1",
   row 0x08 [0x46] "mov" "r0, r1",
   row 0x10 [0xb5] "push" "\x7br4, lr\x7d",
   row 0x10 [0xbd] "pop" "\x7br4, pc\x7d",
   row 0x2d [0xe9, 0xf0, 0x41] "push.w" "\x7br4, r5, r6, r7, r8, lr\x7d",
   row 0x2f [0x1e] "subs" "r7, r5, #0",
   row 0x40 [0x1c] "adds" "r0, r0, #1",
   row 0x70 [0x47] "bx" "lr",
   row 0xbd [0xe8, 0xcc, 0xcc] "pop.w" "\x7br2, r3, r6, r7, sl, fp, lr, pc\x7d",
   row 0xbd [0xe8, 0xf0, 0x81] "pop.w" "\x7br4, r5, r6, r7, r8, pc\x7d",
   row 0xc0 [0x46] "mov" "r8, r8",
   row 0xcc [0xcc] "ldm" "r4!, \x7br2, r3, r6, r7\x7d"]

end ObjectLens.Instruction.Table

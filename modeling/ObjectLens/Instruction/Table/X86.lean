import ObjectLens.Instruction.Row

/-! The instructions of 32-bit x86 whose bytes do not depend on where they stand. -/

namespace ObjectLens.Instruction.Table

def x86Intel : List Row :=
  [row 0x00 [0x00] "add" "byte ptr [eax], al",
   row 0x06 [] "push" "es",
   row 0x07 [] "pop" "es",
   row 0x0f [0x0b] "ud2" "",
   row 0x1e [] "push" "ds",
   row 0x20 [0x01] "and" "byte ptr [ecx], al",
   row 0x20 [0xe3] "and" "bl, ah",
   row 0x30 [0x10] "xor" "byte ptr [eax], dl",
   row 0x31 [0xc0] "xor" "eax, eax",
   row 0x40 [] "inc" "eax",
   row 0x41 [] "inc" "ecx",
   row 0x47 [] "inc" "edi",
   row 0x48 [] "dec" "eax",
   row 0x49 [] "dec" "ecx",
   row 0x50 [] "push" "eax",
   row 0x51 [] "push" "ecx",
   row 0x53 [] "push" "ebx",
   row 0x55 [] "push" "ebp",
   row 0x58 [] "pop" "eax",
   row 0x59 [] "pop" "ecx",
   row 0x5b [] "pop" "ebx",
   row 0x5d [] "pop" "ebp",
   row 0x60 [] "pushal" "",
   row 0x61 [] "popal" "",
   row 0x66 [0x90] "nop" "",
   row 0x6a [0x00] "push" "0",
   row 0x83 [0xc4, 0x10] "add" "esp, 0x10",
   row 0x83 [0xec, 0x10] "sub" "esp, 0x10",
   row 0x89 [0x45, 0xfc] "mov" "dword ptr [ebp - 4], eax",
   row 0x89 [0xe5] "mov" "ebp, esp",
   row 0x8b [0x45, 0x08] "mov" "eax, dword ptr [ebp + 8]",
   row 0x8b [0xe5] "mov" "esp, ebp",
   row 0x90 [] "nop" "",
   row 0xb5 [0x01] "mov" "ch, 1",
   row 0xb8 [0x01, 0x00, 0x00, 0x00] "mov" "eax, 1",
   row 0xc2 [0x08, 0x00] "ret" "8",
   row 0xc3 [] "ret" "",
   row 0xc9 [] "leave" "",
   row 0xcc [] "int3" "",
   row 0xcd [0x80] "int" "0x80",
   row 0xf3 [0x0f, 0x1e, 0xfa] "endbr64" "",
   row 0xf3 [0x0f, 0x1e, 0xfb] "endbr32" "",
   row 0xf4 [] "hlt" "",
   row 0xff [0x25, 0x00, 0x10, 0x00, 0x00] "jmp" "dword ptr [0x1000]",
   row 0xff [0xa3, 0x00, 0x00, 0x00, 0x00] "jmp" "dword ptr [ebx]"]

def x86Att : List Row :=
  [row 0x06 [] "pushl" "%es",
   row 0x07 [] "popl" "%es",
   row 0x0f [0x0b] "ud2" "",
   row 0x31 [0xc0] "xorl" "%eax, %eax",
   row 0x40 [] "incl" "%eax",
   row 0x41 [] "incl" "%ecx",
   row 0x48 [] "decl" "%eax",
   row 0x49 [] "decl" "%ecx",
   row 0x50 [] "pushl" "%eax",
   row 0x51 [] "pushl" "%ecx",
   row 0x53 [] "pushl" "%ebx",
   row 0x55 [] "pushl" "%ebp",
   row 0x58 [] "popl" "%eax",
   row 0x59 [] "popl" "%ecx",
   row 0x5b [] "popl" "%ebx",
   row 0x5d [] "popl" "%ebp",
   row 0x60 [] "pushal" "",
   row 0x61 [] "popal" "",
   row 0x66 [0x90] "nop" "",
   row 0x6a [0x00] "pushl" "$0",
   row 0x83 [0xc4, 0x10] "addl" "$0x10, %esp",
   row 0x83 [0xec, 0x10] "subl" "$0x10, %esp",
   row 0x89 [0x45, 0xfc] "movl" "%eax, -4(%ebp)",
   row 0x89 [0xe5] "movl" "%esp, %ebp",
   row 0x8b [0x45, 0x08] "movl" "8(%ebp), %eax",
   row 0x8b [0xe5] "movl" "%ebp, %esp",
   row 0x90 [] "nop" "",
   row 0xb8 [0x01, 0x00, 0x00, 0x00] "movl" "$1, %eax",
   row 0xc2 [0x08, 0x00] "retl" "$8",
   row 0xc3 [] "retl" "",
   row 0xc9 [] "leave" "",
   row 0xcc [] "int3" "",
   row 0xcd [0x80] "int" "$0x80",
   row 0xf3 [0x0f, 0x1e, 0xfa] "endbr64" "",
   row 0xf3 [0x0f, 0x1e, 0xfb] "endbr32" "",
   row 0xf4 [] "hlt" "",
   row 0xff [0x25, 0x00, 0x10, 0x00, 0x00] "jmpl" "*0x1000",
   row 0xff [0xa3, 0x00, 0x00, 0x00, 0x00] "jmpl" "*(%ebx)"]

end ObjectLens.Instruction.Table

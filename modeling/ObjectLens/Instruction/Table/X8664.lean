import ObjectLens.Instruction.Row

/-! The instructions of 64-bit x86 whose bytes do not depend on where they stand. -/

namespace ObjectLens.Instruction.Table

def x8664Intel : List Row :=
  [row 0x00 [0x00] "add" "byte ptr [rax], al",
   row 0x01 [0x00] "add" "dword ptr [rax], eax",
   row 0x0f [0x05] "syscall" "",
   row 0x0f [0x0b] "ud2" "",
   row 0x0f [0x1f, 0x00] "nop" "dword ptr [rax]",
   row 0x0f [0x1f, 0x40, 0x00] "nop" "dword ptr [rax]",
   row 0x0f [0x1f, 0x44, 0x00, 0x00] "nop" "dword ptr [rax + rax]",
   row 0x0f [0x94, 0xc0] "sete" "al",
   row 0x0f [0xb6, 0xc0] "movzx" "eax, al",
   row 0x2b [0x45, 0xfc] "sub" "eax, dword ptr [rbp - 4]",
   row 0x31 [0xc0] "xor" "eax, eax",
   row 0x31 [0xd2] "xor" "edx, edx",
   row 0x31 [0xff] "xor" "edi, edi",
   row 0x39 [0xf7] "cmp" "edi, esi",
   row 0x41 [0x54] "push" "r12",
   row 0x41 [0x5c] "pop" "r12",
   row 0x48 [0x83, 0xc4, 0x10] "add" "rsp, 0x10",
   row 0x48 [0x83, 0xec, 0x10] "sub" "rsp, 0x10",
   row 0x48 [0x85, 0xc0] "test" "rax, rax",
   row 0x48 [0x89, 0xe5] "mov" "rbp, rsp",
   row 0x48 [0x89, 0xec] "mov" "rsp, rbp",
   row 0x48 [0x8d, 0x05, 0x10, 0x00, 0x00, 0x00] "lea" "rax, [rip + 0x10]",
   row 0x48 [0x98] "cdqe" "",
   row 0x48 [0xb8, 0x01, 0x02, 0x03, 0x04, 0x05, 0x06, 0x07, 0x08] "movabs" "rax, 0x807060504030201",
   row 0x48 [0xc7, 0xc0, 0x00, 0x00, 0x00, 0x00] "mov" "rax, 0",
   row 0x48 [0xff, 0xc0] "inc" "rax",
   row 0x50 [] "push" "rax",
   row 0x51 [] "push" "rcx",
   row 0x52 [] "push" "rdx",
   row 0x53 [] "push" "rbx",
   row 0x55 [] "push" "rbp",
   row 0x56 [] "push" "rsi",
   row 0x57 [] "push" "rdi",
   row 0x58 [] "pop" "rax",
   row 0x59 [] "pop" "rcx",
   row 0x5a [] "pop" "rdx",
   row 0x5b [] "pop" "rbx",
   row 0x5d [] "pop" "rbp",
   row 0x5e [] "pop" "rsi",
   row 0x5f [] "pop" "rdi",
   row 0x66 [0x0f, 0x1f, 0x44, 0x00, 0x00] "nop" "word ptr [rax + rax]",
   row 0x66 [0x90] "nop" "",
   row 0x68 [0x00, 0x00, 0x00, 0x00] "push" "0",
   row 0x6a [0x00] "push" "0",
   row 0x6a [0x01] "push" "1",
   row 0x85 [0xc0] "test" "eax, eax",
   row 0x89 [0x45, 0xfc] "mov" "dword ptr [rbp - 4], eax",
   row 0x89 [0xe5] "mov" "ebp, esp",
   row 0x89 [0xf8] "mov" "eax, edi",
   row 0x8b [0x45, 0xfc] "mov" "eax, dword ptr [rbp - 4]",
   row 0x8d [0x47, 0x01] "lea" "eax, [rdi + 1]",
   row 0x90 [] "nop" "",
   row 0x98 [] "cwde" "",
   row 0x99 [] "cdq" "",
   row 0xb8 [0x01, 0x00, 0x00, 0x00] "mov" "eax, 1",
   row 0xbf [0x00, 0x00, 0x00, 0x00] "mov" "edi, 0",
   row 0xc2 [0x08, 0x00] "ret" "8",
   row 0xc3 [] "ret" "",
   row 0xc9 [] "leave" "",
   row 0xcc [] "int3" "",
   row 0xcd [0x80] "int" "0x80",
   row 0xd1 [0xe0] "shl" "eax, 1",
   row 0xe5 [0xb8] "in" "eax, 0xb8",
   row 0xf2 [0xc3] "bnd ret" "",
   row 0xf3 [0x0f, 0x1e, 0xfa] "endbr64" "",
   row 0xf3 [0x0f, 0x1e, 0xfb] "endbr32" "",
   row 0xf4 [] "hlt" "",
   row 0xff [0x25, 0x00, 0x10, 0x00, 0x00] "jmp" "qword ptr [rip + 0x1000]",
   row 0xff [0xc0] "inc" "eax",
   row 0xff [0xd0] "call" "rax",
   row 0xff [0xe0] "jmp" "rax"]

def x8664Att : List Row :=
  [row 0x0f [0x05] "syscall" "",
   row 0x0f [0x0b] "ud2" "",
   row 0x0f [0x1f, 0x00] "nopl" "(%rax)",
   row 0x0f [0x1f, 0x40, 0x00] "nopl" "(%rax)",
   row 0x0f [0x1f, 0x44, 0x00, 0x00] "nopl" "(%rax, %rax)",
   row 0x0f [0x94, 0xc0] "sete" "%al",
   row 0x0f [0xb6, 0xc0] "movzbl" "%al, %eax",
   row 0x2b [0x45, 0xfc] "subl" "-4(%rbp), %eax",
   row 0x31 [0xc0] "xorl" "%eax, %eax",
   row 0x31 [0xd2] "xorl" "%edx, %edx",
   row 0x31 [0xff] "xorl" "%edi, %edi",
   row 0x39 [0xf7] "cmpl" "%esi, %edi",
   row 0x41 [0x54] "pushq" "%r12",
   row 0x41 [0x5c] "popq" "%r12",
   row 0x48 [0x83, 0xc4, 0x10] "addq" "$0x10, %rsp",
   row 0x48 [0x83, 0xec, 0x10] "subq" "$0x10, %rsp",
   row 0x48 [0x85, 0xc0] "testq" "%rax, %rax",
   row 0x48 [0x89, 0xe5] "movq" "%rsp, %rbp",
   row 0x48 [0x89, 0xec] "movq" "%rbp, %rsp",
   row 0x48 [0x8d, 0x05, 0x10, 0x00, 0x00, 0x00] "leaq" "0x10(%rip), %rax",
   row 0x48 [0x98] "cltq" "",
   row 0x48 [0xb8, 0x01, 0x02, 0x03, 0x04, 0x05, 0x06, 0x07, 0x08] "movabsq" "$0x807060504030201, %rax",
   row 0x48 [0xc7, 0xc0, 0x00, 0x00, 0x00, 0x00] "movq" "$0, %rax",
   row 0x48 [0xff, 0xc0] "incq" "%rax",
   row 0x50 [] "pushq" "%rax",
   row 0x51 [] "pushq" "%rcx",
   row 0x52 [] "pushq" "%rdx",
   row 0x53 [] "pushq" "%rbx",
   row 0x55 [] "pushq" "%rbp",
   row 0x56 [] "pushq" "%rsi",
   row 0x57 [] "pushq" "%rdi",
   row 0x58 [] "popq" "%rax",
   row 0x59 [] "popq" "%rcx",
   row 0x5a [] "popq" "%rdx",
   row 0x5b [] "popq" "%rbx",
   row 0x5d [] "popq" "%rbp",
   row 0x5e [] "popq" "%rsi",
   row 0x5f [] "popq" "%rdi",
   row 0x66 [0x0f, 0x1f, 0x44, 0x00, 0x00] "nopw" "(%rax, %rax)",
   row 0x66 [0x90] "nop" "",
   row 0x68 [0x00, 0x00, 0x00, 0x00] "pushq" "$0",
   row 0x6a [0x00] "pushq" "$0",
   row 0x6a [0x01] "pushq" "$1",
   row 0x85 [0xc0] "testl" "%eax, %eax",
   row 0x89 [0x45, 0xfc] "movl" "%eax, -4(%rbp)",
   row 0x89 [0xf8] "movl" "%edi, %eax",
   row 0x8b [0x45, 0xfc] "movl" "-4(%rbp), %eax",
   row 0x8d [0x47, 0x01] "leal" "1(%rdi), %eax",
   row 0x90 [] "nop" "",
   row 0x98 [] "cwtl" "",
   row 0x99 [] "cltd" "",
   row 0xb8 [0x01, 0x00, 0x00, 0x00] "movl" "$1, %eax",
   row 0xbf [0x00, 0x00, 0x00, 0x00] "movl" "$0, %edi",
   row 0xc2 [0x08, 0x00] "retq" "$8",
   row 0xc3 [] "retq" "",
   row 0xc9 [] "leave" "",
   row 0xcc [] "int3" "",
   row 0xcd [0x80] "int" "$0x80",
   row 0xd1 [0xe0] "shll" "$1, %eax",
   row 0xf2 [0xc3] "bnd retq" "",
   row 0xf3 [0x0f, 0x1e, 0xfa] "endbr64" "",
   row 0xf3 [0x0f, 0x1e, 0xfb] "endbr32" "",
   row 0xf4 [] "hlt" "",
   row 0xff [0x25, 0x00, 0x10, 0x00, 0x00] "jmpq" "*0x1000(%rip)",
   row 0xff [0xc0] "incl" "%eax",
   row 0xff [0xd0] "callq" "*%rax",
   row 0xff [0xe0] "jmpq" "*%rax"]

end ObjectLens.Instruction.Table

import ObjectLens.Proofs.CodeRanges
import ObjectLens.Proofs.OpenedImages
import ObjectLens.Proofs.TableLookup

/-! What a name is resolved to: the first symbol of that name, the bytes of its range, and instructions that make up
these bytes without a gap. A disassembler that stops early is never answered with a shorter body. -/

namespace ObjectLens

namespace Instruction

variable {disassembler : Disassembler} {encoding : Encoding} {dialect : Dialect} {address : Nat} {code : List UInt8}

/-- Decoding succeeds only with instructions that make up all of the code. -/
theorem decode_eq_ok_iff {found : List Instruction} :
    decode disassembler encoding dialect address code = .ok found ↔
      found = disassembler.list encoding dialect address code ∧ found.flatMap (·.bytes) = code := by
  have listed := disassembler.bytes_prefix encoding dialect address code
  have total := length_flatMap_bytes (disassembler.list encoding dialect address code)
  simp only [decode]
  split
  next short =>
    constructor
    · intro impossible
      cases impossible
    · rintro ⟨rfl, all⟩
      rw [all] at total
      omega
  next whole =>
    have all : (disassembler.list encoding dialect address code).flatMap (·.bytes) = code :=
      listed.eq_of_length_le (by omega)
    constructor
    · intro same
      cases same
      exact ⟨rfl, all⟩
    · rintro ⟨rfl, _⟩
      rfl

/-- Where the disassembler leaves something over, decoding fails at the address of what is left. -/
theorem decode_of_rest {rest : List UInt8} (nonempty : rest ≠ [])
    (left : (disassembler.list encoding dialect address code).flatMap (·.bytes) ++ rest = code) :
    decode disassembler encoding dialect address code =
      .error ⟨address + covered (disassembler.list encoding dialect address code),
        covered (disassembler.list encoding dialect address code)⟩ := by
  have positive : 0 < rest.length := List.length_pos_iff.mpr nonempty
  have total := congrArg List.length left
  rw [List.length_append, length_flatMap_bytes] at total
  simp only [decode]
  rw [if_pos (by omega)]

end Instruction

namespace Image

open Instruction (Disassembler Encoding BackToBack)

variable {image : Image} {disassembler : Disassembler} {symbol : Symbol} {code : Bytes} {arch : Arch}

def listing (image : Image) (disassembler : Disassembler) (arch : Arch) (address : Nat) (code : Bytes) :
    List Instruction :=
  disassembler.list (Encoding.ofArch arch (image.isThumb address)) image.dialect (image.codeAddress address) code.view

theorem function_of_size_zero (empty : symbol.size = 0) :
    image.function disassembler symbol = .ok ⟨symbol.name, symbol.address, 0, [], []⟩ := by
  simp only [function, empty, ite_true]
  rfl

theorem decodeBy_of_ok {address size : Nat} {listed : List Instruction}
    (here : image.instructions disassembler address size = .ok listed) :
    image.decodeBy disassembler address size = .ok listed := by
  rw [decodeBy, here]
  rfl

theorem decodeBy_of_error {address size : Nat} {fault : CodeFault}
    (here : image.instructions disassembler address size = .error fault) :
    image.decodeBy disassembler address size = .error (.badCode address size fault) := by
  rw [decodeBy, here]
  rfl

private theorem instructions_of_code {address size : Nat} (bytesRead : image.code address size = .ok code)
    (known : image.arch = some arch) : image.instructions disassembler address size =
      match Instruction.decode disassembler (Encoding.ofArch arch (image.isThumb address)) image.dialect
        (image.codeAddress address) code.view with
      | .ok found => .ok found
      | .error stopped => .error (.undecodable stopped.address stopped.decoded code.size) := by
  rw [instructions, known, bytesRead]
  rfl

/-- A function with a body needs its bytes, an architecture, and a listing of all of the bytes. -/
theorem function_eq_ok_iff {found : Function} (body : symbol.size ≠ 0) :
    image.function disassembler symbol = .ok found ↔
      ∃ code arch, image.code symbol.address symbol.size = .ok code ∧ image.arch = some arch ∧
        (image.listing disassembler arch symbol.address code).flatMap (·.bytes) = code.view ∧
        found = ⟨symbol.name, symbol.address, symbol.size, code.view,
          image.listing disassembler arch symbol.address code⟩ := by
  simp only [function, body, ite_false]
  cases bytesRead : image.code symbol.address symbol.size with
  | error fault => simp [codeBytes_of_error bytesRead, bind, Except.bind]
  | ok code =>
    cases known : image.arch with
    | none =>
      have failed : image.instructions disassembler symbol.address symbol.size = .error .unknownArch := by
        rw [instructions, known]
        rfl
      simp [codeBytes_of_ok bytesRead, decodeBy_of_error failed, bind, Except.bind]
    | some arch =>
      have answer : image.instructions disassembler symbol.address symbol.size = _ :=
        instructions_of_code bytesRead known
      cases decoded : Instruction.decode disassembler (Encoding.ofArch arch (image.isThumb symbol.address))
          image.dialect (image.codeAddress symbol.address) code.view with
      | error stopped =>
        have never : ¬ (image.listing disassembler arch symbol.address code).flatMap (·.bytes) = code.view := by
          intro all
          have whole := Instruction.decode_eq_ok_iff.mpr ⟨rfl, all⟩
          rw [decoded] at whole
          cases whole
        rw [decoded] at answer
        simp [codeBytes_of_ok bytesRead, decodeBy_of_error answer, bind, Except.bind, never]
      | ok listed =>
        obtain ⟨rfl, all⟩ := Instruction.decode_eq_ok_iff.mp decoded
        rw [decoded] at answer
        simp [codeBytes_of_ok bytesRead, decodeBy_of_ok answer, bind, Except.bind, pure, Except.pure, listing, all,
          eq_comm]

/-- A listing that leaves something over is an error at the address of what is left. -/
theorem function_of_rest (body : symbol.size ≠ 0) (bytesRead : image.code symbol.address symbol.size = .ok code)
    (known : image.arch = some arch) {rest : List UInt8} (nonempty : rest ≠ [])
    (left : (image.listing disassembler arch symbol.address code).flatMap (·.bytes) ++ rest = code.view) :
    image.function disassembler symbol =
      .error (.badCode symbol.address symbol.size (.undecodable
        (image.codeAddress symbol.address + Instruction.covered (image.listing disassembler arch symbol.address code))
        (Instruction.covered (image.listing disassembler arch symbol.address code)) symbol.size)) := by
  have decoded := Instruction.decode_of_rest nonempty left
  have answer : image.instructions disassembler symbol.address symbol.size = _ := instructions_of_code bytesRead known
  rw [decoded] at answer
  simp only [function, body, ite_false, codeBytes_of_ok bytesRead, decodeBy_of_error answer]
  simp [bind, Except.bind, size_of_code bytesRead, listing]

theorem resolveBy_of_named {name : String}
    (first : image.symbols.named? name = some symbol) :
    image.resolveBy disassembler name = image.function disassembler symbol := by
  simp only [resolveBy, first]

theorem resolveBy_of_unnamed {name : String} (unknown : image.symbols.named? name = none) :
    image.resolveBy disassembler name = .error (.unknownSymbol name) := by
  simp only [resolveBy, unknown]
  rfl

/-- In an opened image the index by name is no more than a way to read the symbols from front to back. -/
theorem named?_of_load {format : Option Format} {config : Config} {file : FileState}
    (opened : load format config file = .ok image) (name : String) :
    image.symbols.named? name = image.symbols.entries.find? (·.name == name) := by
  obtain ⟨bytes, found, rfl⟩ := ofContents_of_load opened
  exact SymbolTable.named?_ofList found.symbols name

/-- The instructions of a listing that leaves nothing over make up the code from its first address on. -/
theorem backToBack_listing (bytesRead : image.code symbol.address symbol.size = .ok code) :
    BackToBack (image.codeAddress symbol.address) (image.listing disassembler arch symbol.address code) := by
  obtain ⟨word, _⟩ := code_eq_ok_iff.mp bytesRead
  apply disassembler.backToBack
  rw [Bytes.length_view, size_of_code bytesRead]
  exact word

end Image

end ObjectLens

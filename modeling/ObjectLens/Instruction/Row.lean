/-! Rows of the instruction tables: fixed byte patterns with the text they are listed as. -/

namespace ObjectLens.Instruction

structure Phrase where
  mnemonic : String
  operands : String
  deriving DecidableEq, Repr, Inhabited

structure Row where
  bytes : List UInt8
  phrase : Phrase
  bytes_ne_nil : bytes ≠ [] := by exact List.cons_ne_nil _ _

abbrev row (first : UInt8) (rest : List UInt8) (mnemonic operands : String) : Row where
  bytes := first :: rest
  phrase := ⟨mnemonic, operands⟩

end ObjectLens.Instruction

import ObjectLens.Hex
import ObjectLens.Word

/-! Addresses as users write them: hexadecimal always, with or without `0x` in front. -/

namespace ObjectLens

inductive AddressError where
  | empty
  | invalidDigit
  | tooLarge
  deriving DecidableEq, Repr, Inhabited

def AddressError.message : AddressError → String
  | .empty => "cannot parse integer from empty string"
  | .invalidDigit => "invalid digit found in string"
  | .tooLarge => "number too large to fit in target type"

/-- The sentence that answers a text which is no address. -/
def AddressError.describe (error : AddressError) (text : String) : String :=
  "Failed to parse address: " ++ text ++ ": " ++ error.message

namespace Address

/-- Reads digits from the left on to a value. Of two faults the leftmost one is told; a digit is looked at before
the value it would make. -/
def readDigits (value : Nat) : List Char → Except AddressError Nat
  | [] => .ok value
  | char :: rest =>
    match Hex.digit? char with
    | none => .error .invalidDigit
    | some digit =>
      if 16 * value + digit < Word.limit then readDigits (16 * value + digit) rest else .error .tooLarge

/-- Reads what is left of an address after its `0x`: one plus sign may stand before the digits, of which there is
at least one. -/
def readNumber : List Char → Except AddressError Nat
  | [] => .error .empty
  | ['+'] => .error .invalidDigit
  | '+' :: digits => readDigits 0 digits
  | digits => readDigits 0 digits

def withoutMark : List Char → List Char
  | '0' :: 'x' :: rest => rest
  | '0' :: 'X' :: rest => rest
  | text => text

def parse (text : String) : Except AddressError Nat := readNumber (withoutMark text.toList)

end Address

end ObjectLens

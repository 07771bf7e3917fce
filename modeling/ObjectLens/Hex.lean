/-! Hexadecimal text: the form in which addresses, file magics and byte strings are printed. -/

namespace ObjectLens.Hex

/-- The lower-case digits of a number, without leading zeros; zero has one digit. -/
def digits (number : Nat) : String := String.ofList (Nat.toDigits 16 number)

/-- The upper-case digits of a number, without leading zeros. -/
def upperDigits (number : Nat) : String := String.ofList ((Nat.toDigits 16 number).map Char.toUpper)

/-- A number as an address is usually printed, such as `0x1a`. -/
def word (number : Nat) : String := "0x" ++ digits number

def padded (number : Nat) : String :=
  let text := Nat.toDigits 16 number
  "0x" ++ String.ofList (List.replicate (16 - text.length) '0' ++ text)

def byte (value : UInt8) : List Char :=
  [Nat.digitChar (value.toNat / 16), Nat.digitChar (value.toNat % 16)]

/-- A byte string, two digits a byte, without separators. -/
def bytes (values : List UInt8) : String := String.ofList (values.flatMap byte)

def digit? (char : Char) : Option Nat :=
  if '0' ≤ char ∧ char ≤ '9' then some (char.toNat - '0'.toNat)
  else if 'a' ≤ char ∧ char ≤ 'f' then some (char.toNat - 'a'.toNat + 10)
  else if 'A' ≤ char ∧ char ≤ 'F' then some (char.toNat - 'A'.toNat + 10)
  else none

end ObjectLens.Hex

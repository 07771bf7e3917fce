import ObjectLens.StringTable

/-! Archives of object files. They are recognised, so that they can be told from files that make no sense, and are
not looked into any further. -/

namespace ObjectLens.Archive

def magic : List UInt8 := Bytes.view "!<arch>\n".toUTF8

def headerSize : Nat := 60

/-- The decimal number in a field that is filled up with blanks. -/
def decimal? (field : String) : Option Nat :=
  let digits := (field.toList.reverse.dropWhile (·.isWhitespace)).reverse
  if digits.isEmpty then none
  else digits.foldlM (fun front char => if char.isDigit then some (10 * front + (char.toNat - 48)) else none) 0

/-- The length of a name that follows the header, for members whose name field tells it. -/
def longNameLength? (name : String) : Option Nat :=
  match name.toList with
  | '#' :: '1' :: '/' :: digits => decimal? (String.ofList digits)
  | _ => none

/-- Whether the index of an archive makes sense: a count, so many offsets, and a string table. -/
def indexFits (content : Bytes) : Bool :=
  match content.number? .big 0 4 with
  | none => false
  | some count =>
    count ≤ content.size / 4 && 4 + 4 * count ≤ content.size &&
      (StringTable.read? content (4 + 4 * count) (content.size - (4 + 4 * count))).isSome

/-- Whether members follow each other from a position up to the end of the archive, each at an even position. `left`
bounds their number. -/
def membersFit (bytes : Bytes) : Nat → Nat → Bool
  | 0, _ => false
  | left + 1, position =>
    if bytes.size ≤ position + 1 then true
    else
      let start := position + position % 2
      let member? := do
        let header ← bytes.part? start headerSize
        let name ← (header.part 0 16).text?
        let size ← decimal? (← (header.part 48 10).text?)
        let long := (longNameLength? name).getD 0
        let _ ← (← bytes.part? (start + headerSize) long).text?
        if size < long then none
        if name.toList.dropLast = '/' :: List.replicate 14 ' ' then
          if !indexFits (← bytes.part? (start + headerSize) size) then none
        return start + headerSize + size
      match member? with
      | none => false
      | some next => membersFit bytes left next

def isWellFormed (bytes : Bytes) : Bool := membersFit bytes (bytes.size + 1) magic.length

end ObjectLens.Archive

import ObjectLens.Bytes
import ObjectLens.Hex

/-! The SHA-256 digest, by which a report tells exactly which file it describes. -/

namespace ObjectLens.Sha256

structure State where
  a : UInt32
  b : UInt32
  c : UInt32
  d : UInt32
  e : UInt32
  f : UInt32
  g : UInt32
  h : UInt32

namespace State

/-- The state before the first block: the fractions of the square roots of the first eight primes. -/
def initial : State :=
  ⟨0x6a09e667, 0xbb67ae85, 0x3c6ef372, 0xa54ff53a,
   0x510e527f, 0x9b05688c, 0x1f83d9ab, 0x5be0cd19⟩

def add (left right : State) : State :=
  ⟨left.a + right.a, left.b + right.b, left.c + right.c, left.d + right.d,
   left.e + right.e, left.f + right.f, left.g + right.g, left.h + right.h⟩

def words (state : State) : List UInt32 :=
  [state.a, state.b, state.c, state.d, state.e, state.f, state.g, state.h]

end State

/-- One constant for each round: the fractions of the cube roots of the first sixty-four primes. -/
def roundConstants : List UInt32 :=
  [0x428a2f98, 0x71374491, 0xb5c0fbcf, 0xe9b5dba5, 0x3956c25b, 0x59f111f1, 0x923f82a4, 0xab1c5ed5,
   0xd807aa98, 0x12835b01, 0x243185be, 0x550c7dc3, 0x72be5d74, 0x80deb1fe, 0x9bdc06a7, 0xc19bf174,
   0xe49b69c1, 0xefbe4786, 0x0fc19dc6, 0x240ca1cc, 0x2de92c6f, 0x4a7484aa, 0x5cb0a9dc, 0x76f988da,
   0x983e5152, 0xa831c66d, 0xb00327c8, 0xbf597fc7, 0xc6e00bf3, 0xd5a79147, 0x06ca6351, 0x14292967,
   0x27b70a85, 0x2e1b2138, 0x4d2c6dfc, 0x53380d13, 0x650a7354, 0x766a0abb, 0x81c2c92e, 0x92722c85,
   0xa2bfe8a1, 0xa81a664b, 0xc24b8b70, 0xc76c51a3, 0xd192e819, 0xd6990624, 0xf40e3585, 0x106aa070,
   0x19a4c116, 0x1e376c08, 0x2748774c, 0x34b0bcb5, 0x391c0cb3, 0x4ed8aa4a, 0x5b9cca4f, 0x682e6ff3,
   0x748f82ee, 0x78a5636f, 0x84c87814, 0x8cc70208, 0x90befffa, 0xa4506ceb, 0xbef9a3f7, 0xc67178f2]

def rotate (word amount : UInt32) : UInt32 := (word >>> amount) ||| (word <<< (32 - amount))

/-- The words of a block, extended from sixteen to one for each round. -/
def schedule (block : Array UInt32) : Array UInt32 :=
  (List.range 48).foldl
    (fun words index =>
      let near := words.getD (index + 14) 0
      let far := words.getD (index + 1) 0
      let mixedNear := rotate near 17 ^^^ rotate near 19 ^^^ (near >>> 10)
      let mixedFar := rotate far 7 ^^^ rotate far 18 ^^^ (far >>> 3)
      words.push (mixedNear + words.getD (index + 9) 0 + mixedFar + words.getD index 0))
    block

/-- One round, with the sum of its constant and its word. -/
def round (state : State) (input : UInt32) : State :=
  let mixedE := rotate state.e 6 ^^^ rotate state.e 11 ^^^ rotate state.e 25
  let choice := (state.e &&& state.f) ^^^ (~~~state.e &&& state.g)
  let first := state.h + mixedE + choice + input
  let mixedA := rotate state.a 2 ^^^ rotate state.a 13 ^^^ rotate state.a 22
  let majority := (state.a &&& state.b) ^^^ (state.a &&& state.c) ^^^ (state.b &&& state.c)
  ⟨first + mixedA + majority, state.a, state.b, state.c, state.d + first, state.e, state.f, state.g⟩

def wordsOf : List UInt8 → List UInt32
  | b0 :: b1 :: b2 :: b3 :: rest =>
    ((b0.toUInt32 <<< 24) ||| (b1.toUInt32 <<< 16) ||| (b2.toUInt32 <<< 8) ||| b3.toUInt32) :: wordsOf rest
  | _ => []

def absorb (state : State) (block : List UInt8) : State :=
  let words := schedule (wordsOf block).toArray
  state.add ((roundConstants.zip words.toList).foldl (fun mixed input => round mixed (input.1 + input.2)) state)

/-- Mixes blocks into the state as long as there are whole ones, `left` at most. -/
def absorbAll : Nat → State → List UInt8 → State
  | 0, state, _ => state
  | left + 1, state, message => absorbAll left (absorb state (message.take 64)) (message.drop 64)

/-- The bytes that fill a message of a given length up to whole blocks: a one bit, zeros, the length in bits. -/
def padding (length : Nat) : List UInt8 :=
  0x80 :: List.replicate ((119 - length % 64) % 64) 0 ++ (littleEndian 8 (8 * length)).reverse

def digest (bytes : Bytes) : List UInt8 :=
  let message := bytes.view ++ padding bytes.size
  (absorbAll (message.length / 64) .initial message).words.flatMap fun word =>
    (littleEndian 4 word.toNat).reverse

/-- The digest as it is printed: lower-case hexadecimal digits. -/
def hex (bytes : Bytes) : String := Hex.bytes (digest bytes)

end ObjectLens.Sha256

import ObjectLens.Bytes

/-! Laying out a file block by block. Each block has a place; what no block covers is zero, and the file ends where the
last block does. -/

namespace ObjectLens.Fixture

structure Block where
  offset : Nat
  content : List UInt8
  deriving DecidableEq, Repr, Inhabited

namespace Block

def stop (block : Block) : Nat := block.offset + block.content.length

/-- Puts a block into a file, over whatever is there. The file grows as far as the block needs it to. -/
def putInto (file : List UInt8) (block : Block) : List UInt8 :=
  let grown := file ++ List.replicate (block.stop - file.length) 0
  grown.take block.offset ++ block.content ++ grown.drop block.stop

def assemble (blocks : List Block) : List UInt8 := blocks.foldl putInto []

def extent (blocks : List Block) : Nat := (blocks.map stop).foldl max 0

/-- A file with a block put into it is as long as it was, or reaches to the end of the block. -/
theorem length_putInto (file : List UInt8) (block : Block) :
    (putInto file block).length = max file.length block.stop := by
  simp only [putInto, stop, List.length_append, List.length_take, List.length_drop, List.length_replicate]
  omega

end Block

def alignedToEight (position : Nat) : Nat := (position + 7) / 8 * 8

/-- Names as a string table stores them: after an empty name, each is ended by a zero byte. -/
def storedNames (names : List String) : List UInt8 :=
  0 :: names.flatMap fun name => Bytes.view name.toUTF8 ++ [0]

/-- Where the name of an index starts in the table: after all names before it. -/
def nameOffset (names : List String) (index : Nat) : Nat := (storedNames (names.take index)).length

end ObjectLens.Fixture

import SecretCodec.Aes.Byte

/-!
# The block cipher AES-128

A block is sixteen bytes, four columns of four, column by column. A round substitutes every byte,
rotates the rows, mixes the columns and adds a round key; the last round does not mix. Decryption
undoes the steps in the opposite order, each by its own inverse.

The key schedule is a first key, the keys of the rounds that mix, and a last key. The number of
rounds is the length of that list and nothing else depends on it.
-/

namespace SecretCodec.Aes

/-- A block of sixteen bytes, column by column. -/
abbrev Block := Vector UInt8 16

namespace Block

/-- The sum of two blocks. -/
def add (a b : Block) : Block := Vector.ofFn fun i => a[i] ^^^ b[i]

/-- Every byte replaced by its substitute. -/
def substitute (b : Block) : Block := b.map Aes.substitute

/-- Every byte replaced by the one it is the substitute of. -/
def unsubstitute (b : Block) : Block := b.map Aes.unsubstitute

/-- The row `r` rotated by `r` columns: the byte for place `i` stands `i % 4` columns further on,
which is at place `5 * i`. -/
def rotateRows (b : Block) : Block := Vector.ofFn fun i => b[5 * i.val % 16]

/-- The rows rotated back. As 5 times 13 is 1 modulo 16, this inverts `rotateRows`. -/
def unrotateRows (b : Block) : Block := Vector.ofFn fun i => b[13 * i.val % 16]

/-- The byte `n` rows below place `i` in the same column; the top row follows the bottom row. -/
def below (b : Block) (i : Fin 16) (n : Nat) : UInt8 := b[i.val / 4 * 4 + (i.val + n) % 4]

/-- Every column multiplied by a fixed matrix whose rows are rotations of (x, x + 1, 1, 1). -/
def mixColumns (b : Block) : Block :=
  Vector.ofFn fun i =>
    double (b.below i 0) ^^^ (double (b.below i 1) ^^^ b.below i 1) ^^^ b.below i 2 ^^^ b.below i 3

/-- The columns as they were before `mixColumns`. The fourth power of the matrix is 1, so its
inverse is its third power. -/
def unmixColumns (b : Block) : Block := b.mixColumns.mixColumns.mixColumns

end Block

/-- The keys of the rounds: the one added before the first round, those of the rounds that mix
columns, and the one of the last round. -/
structure KeySchedule where
  first : Block
  middle : List Block
  last : Block

namespace KeySchedule

/-- The next round key. Its first column is the sum of the first column, the substituted and rotated
last column and a constant; every further column is the sum of the one before and the old one. -/
def next (key : Block) (constant : UInt8) : Block :=
  let turned : Vector UInt8 4 := #v[substitute key[13] ^^^ constant, substitute key[14],
    substitute key[15], substitute key[12]]
  let column₀ : Vector UInt8 4 := Vector.ofFn fun r => turned[r] ^^^ key[r.val]
  let column₁ : Vector UInt8 4 := Vector.ofFn fun r => column₀[r] ^^^ key[4 + r.val]
  let column₂ : Vector UInt8 4 := Vector.ofFn fun r => column₁[r] ^^^ key[8 + r.val]
  let column₃ : Vector UInt8 4 := Vector.ofFn fun r => column₂[r] ^^^ key[12 + r.val]
  column₀ ++ column₁ ++ column₂ ++ column₃

/-- The round keys that follow a key, one for each constant. -/
def successors (key : Block) : List UInt8 → List Block
  | [] => []
  | constant :: constants =>
    let following := next key constant
    following :: successors following constants

/-- The key schedule of a key. The constants are the powers of x. -/
def ofKey (key : Block) : KeySchedule :=
  let middle := successors key [0x01, 0x02, 0x04, 0x08, 0x10, 0x20, 0x40, 0x80, 0x1b]
  ⟨key, middle, next (middle.getLastD key) 0x36⟩

/-- The encryption of a block. -/
def encrypt (keys : KeySchedule) (b : Block) : Block :=
  let mixed := keys.middle.foldl
    (fun s key => s.substitute.rotateRows.mixColumns.add key) (b.add keys.first)
  mixed.substitute.rotateRows.add keys.last

/-- The decryption of a block. -/
def decrypt (keys : KeySchedule) (b : Block) : Block :=
  let mixed := (b.add keys.last).unrotateRows.unsubstitute
  (keys.middle.foldr
    (fun key s => (s.add key).unmixColumns.unrotateRows.unsubstitute) mixed).add keys.first

end KeySchedule

end SecretCodec.Aes

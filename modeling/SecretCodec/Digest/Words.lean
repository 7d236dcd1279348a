import SecretCodec.Text.Utf8

/-!
# Words in byte strings

Hash functions read a block as words and write a state as bytes, the high byte of a word first or
last. Positions are bounded by the types, so no reading can miss.
-/

namespace SecretCodec.Digest

/-- The word of four bytes, the high byte first. -/
def word32 (a b c d : UInt8) : UInt32 :=
  a.toUInt32 <<< 24 ||| b.toUInt32 <<< 16 ||| c.toUInt32 <<< 8 ||| d.toUInt32

/-- The double word of two words, the high one first. -/
def word64 (high low : UInt32) : UInt64 := high.toUInt64 <<< 32 ||| low.toUInt64

/-- The sixteen words of a block of 64 bytes, the high byte of each first. -/
def wordsHighFirst (block : Vector UInt8 64) : Vector UInt32 16 :=
  Vector.ofFn fun i => word32 block[4 * i.val] block[4 * i.val + 1] block[4 * i.val + 2]
    block[4 * i.val + 3]

/-- The sixteen words of a block of 64 bytes, the low byte of each first. -/
def wordsLowFirst (block : Vector UInt8 64) : Vector UInt32 16 :=
  Vector.ofFn fun i => word32 block[4 * i.val + 3] block[4 * i.val + 2] block[4 * i.val + 1]
    block[4 * i.val]

/-- The sixteen double words of a block of 128 bytes, the high byte of each first. -/
def doubleWords (block : Vector UInt8 128) : Vector UInt64 16 :=
  Vector.ofFn fun i => word64
    (word32 block[8 * i.val] block[8 * i.val + 1] block[8 * i.val + 2] block[8 * i.val + 3])
    (word32 block[8 * i.val + 4] block[8 * i.val + 5] block[8 * i.val + 6] block[8 * i.val + 7])

/-- The byte of a word that has `n` bytes below it. -/
def byte32 (w : UInt32) (n : Nat) : UInt8 := (w >>> UInt32.ofNat (8 * n)).toUInt8

/-- The byte of a double word that has `n` bytes below it. -/
def byte64 (w : UInt64) (n : Nat) : UInt8 := (w >>> UInt64.ofNat (8 * n)).toUInt8

/-- A number in `count` bytes, the high byte first; what does not fit is dropped. -/
def bytesHighFirst (count n : Nat) : Bytes :=
  (List.range count).map fun i => UInt8.ofNat (n >>> (8 * (count - 1 - i)))

/-- A number in `count` bytes, the low byte first; what does not fit is dropped. -/
def bytesLowFirst (count n : Nat) : Bytes :=
  (List.range count).map fun i => UInt8.ofNat (n >>> (8 * i))

theorem mod_sixteen_lt (t : Nat) : t % 16 < 16 := Nat.mod_lt t (by decide)

/-- The word of step `t` in a window of the last sixteen words. -/
def wordOf {W : Type} (window : Vector W 16) (t : Nat) : W :=
  window.get ⟨t % 16, mod_sixteen_lt t⟩

/-- The window in which the word of step `t` makes room for a later one. -/
def replaceWord {W : Type} (window : Vector W 16) (t : Nat) (word : W) : Vector W 16 :=
  window.set (t % 16) word (mod_sixteen_lt t)

/-- Rotation to the left by `n`, for `n` between 1 and 31. -/
def rotateLeft (w n : UInt32) : UInt32 := w <<< n ||| w >>> (32 - n)

/-- Rotation to the right by `n`, for `n` between 1 and 31. -/
def rotateRight (w n : UInt32) : UInt32 := w >>> n ||| w <<< (32 - n)

/-- Rotation of a double word to the right by `n`, for `n` between 1 and 63. -/
def rotateRight64 (w n : UInt64) : UInt64 := w >>> n ||| w <<< (64 - n)

end SecretCodec.Digest

import SecretCodec.Text.Utf8

/-!
# Random bytes

An operation that needs a salt takes it from the front of an endless stream of bytes, so its result
is a function of that stream.
-/

namespace SecretCodec

/-- An endless stream of random bytes. -/
abbrev Entropy := Nat → UInt8

namespace Entropy

/-- The first `n` bytes of a stream. -/
def draw (random : Entropy) (n : Nat) : Bytes := (List.range n).map random

/-- The stream that repeats a byte string for ever. The empty string gives zeros. -/
def cycle (bytes : Bytes) : Entropy :=
  let table := bytes.toArray
  fun i => table[i % table.size]?.getD 0

@[simp] theorem length_draw (random : Entropy) (n : Nat) : (random.draw n).length = n := by
  simp [draw]

/-- Every byte string is the front of some stream. -/
theorem exists_draw (bytes : Bytes) : ∃ random : Entropy, random.draw bytes.length = bytes := by
  refine ⟨fun i => bytes[i]?.getD 0, List.ext_getElem (length_draw _ _) fun i _ inside => ?_⟩
  simp [draw, inside]

end Entropy

end SecretCodec

import SecretCodec.Digest.Iterated
import SecretCodec.Digest.Words

/-!
# SHA-1

Eighty steps on five words. Each step takes one word of the schedule, which starts with the words of
the block and goes on by a recurrence. Only the last sixteen words are kept, the word of step `t` at
position `t % 16`.
-/

namespace SecretCodec.Digest

namespace Sha1

/-- The five words of the state. -/
structure State where
  a : UInt32
  b : UInt32
  c : UInt32
  d : UInt32
  e : UInt32

/-- The mixing function and the constant of a step. -/
def mix (s : State) (t : Nat) : UInt32 × UInt32 :=
  if t < 20 then ((s.b &&& s.c) ||| (~~~s.b &&& s.d), 0x5a827999)
  else if t < 40 then (s.b ^^^ s.c ^^^ s.d, 0x6ed9eba1)
  else if t < 60 then ((s.b &&& s.c) ||| (s.b &&& s.d) ||| (s.c &&& s.d), 0x8f1bbcdc)
  else (s.b ^^^ s.c ^^^ s.d, 0xca62c1d6)

/-- The word of the schedule sixteen steps after step `t`. -/
def scheduled (window : Vector UInt32 16) (t : Nat) : UInt32 :=
  rotateLeft (wordOf window (t + 13) ^^^ wordOf window (t + 8) ^^^ wordOf window (t + 2) ^^^
    wordOf window t) 1

/-- One of the eighty steps. -/
def step (acc : State × Vector UInt32 16) (t : Fin 80) : State × Vector UInt32 16 :=
  let (s, window) := acc
  let (mixed, constant) := mix s t.val
  let word := wordOf window t.val
  let next := scheduled window t.val
  (⟨rotateLeft s.a 5 + mixed + s.e + constant + word, s.a, rotateLeft s.b 30, s.c, s.d⟩,
    replaceWord window t.val next)

/-- Compression of one block. -/
def compress (s : State) (block : Vector UInt8 64) : State :=
  let (t, _) := Fin.foldl 80 step (s, wordsHighFirst block)
  ⟨s.a + t.a, s.b + t.b, s.c + t.c, s.d + t.d, s.e + t.e⟩

/-- The digest that a state stands for. -/
def output (s : State) : Vector UInt8 20 :=
  Vector.ofFn fun i => byte32 #v[s.a, s.b, s.c, s.d, s.e][i.val / 4] (3 - i.val % 4)

end Sha1

/-- SHA-1. The length of the message is counted in bits, modulo 2^64, the high byte first. -/
def sha1 : IteratedHash where
  State := Sha1.State
  blockLength := 64
  outputLength := 20
  initial := ⟨0x67452301, 0xefcdab89, 0x98badcfe, 0x10325476, 0xc3d2e1f0⟩
  compress := Sha1.compress
  lengthField length := bytesHighFirst 8 (8 * length)
  output := Sha1.output

end SecretCodec.Digest

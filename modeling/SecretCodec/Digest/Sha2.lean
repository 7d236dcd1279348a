import SecretCodec.Digest.Iterated
import SecretCodec.Digest.Words

/-!
# SHA-2

SHA-256 and SHA-512 are one construction over words of different widths: eight words of state, a
schedule that starts with the sixteen words of the block, and as many steps as there are constants.
The two functions differ in the rotations, the constants and the number of steps, which are the data
of `Sha2.Parameters`. Only the last sixteen words of the schedule are kept, the word of step `t` at
position `t % 16`.
-/

namespace SecretCodec.Digest

namespace Sha2

/-- What distinguishes the members of the family: the constants, one for each step, the two linear
functions of a step and the two of the schedule. -/
structure Parameters (W : Type) where
  steps : Nat
  constants : Vector W steps
  mixA : W → W
  mixE : W → W
  spreadEarly : W → W
  spreadLate : W → W

/-- The eight words of the state. -/
structure State (W : Type) where
  a : W
  b : W
  c : W
  d : W
  e : W
  f : W
  g : W
  h : W

/-- The words of a state in order. -/
def State.words {W : Type} (s : State W) : Vector W 8 :=
  #v[s.a, s.b, s.c, s.d, s.e, s.f, s.g, s.h]

variable {W : Type} [Add W] [AndOp W] [XorOp W] [Complement W]

/-- The word of the schedule sixteen steps after step `t`. -/
def scheduled (p : Parameters W) (window : Vector W 16) (t : Nat) : W :=
  p.spreadLate (wordOf window (t + 14)) + wordOf window (t + 9) +
    p.spreadEarly (wordOf window (t + 1)) + wordOf window t

/-- One step. -/
def step (p : Parameters W) (acc : State W × Vector W 16) (t : Fin p.steps) :
    State W × Vector W 16 :=
  let (s, window) := acc
  let word := wordOf window t.val
  let next := scheduled p window t.val
  let choice := (s.e &&& s.f) ^^^ (~~~s.e &&& s.g)
  let majority := (s.a &&& s.b) ^^^ (s.a &&& s.c) ^^^ (s.b &&& s.c)
  let x := s.h + p.mixE s.e + choice + p.constants[t] + word
  let y := p.mixA s.a + majority
  (⟨x + y, s.a, s.b, s.c, s.d + x, s.e, s.f, s.g⟩, replaceWord window t.val next)

/-- Compression of one block, given as its sixteen words. -/
def compress (p : Parameters W) (s : State W) (words : Vector W 16) : State W :=
  let (t, _) := Fin.foldl p.steps (step p) (s, words)
  ⟨s.a + t.a, s.b + t.b, s.c + t.c, s.d + t.d, s.e + t.e, s.f + t.f, s.g + t.g, s.h + t.h⟩

/-- The parameters for words of 32 bits. The constants are the first 32 bits of the fractional parts
of the cube roots of the first 64 primes. -/
def parameters32 : Parameters UInt32 where
  steps := 64
  constants := #v[
  0x428a2f98, 0x71374491, 0xb5c0fbcf, 0xe9b5dba5, 0x3956c25b, 0x59f111f1, 0x923f82a4, 0xab1c5ed5,
  0xd807aa98, 0x12835b01, 0x243185be, 0x550c7dc3, 0x72be5d74, 0x80deb1fe, 0x9bdc06a7, 0xc19bf174,
  0xe49b69c1, 0xefbe4786, 0x0fc19dc6, 0x240ca1cc, 0x2de92c6f, 0x4a7484aa, 0x5cb0a9dc, 0x76f988da,
  0x983e5152, 0xa831c66d, 0xb00327c8, 0xbf597fc7, 0xc6e00bf3, 0xd5a79147, 0x06ca6351, 0x14292967,
  0x27b70a85, 0x2e1b2138, 0x4d2c6dfc, 0x53380d13, 0x650a7354, 0x766a0abb, 0x81c2c92e, 0x92722c85,
  0xa2bfe8a1, 0xa81a664b, 0xc24b8b70, 0xc76c51a3, 0xd192e819, 0xd6990624, 0xf40e3585, 0x106aa070,
  0x19a4c116, 0x1e376c08, 0x2748774c, 0x34b0bcb5, 0x391c0cb3, 0x4ed8aa4a, 0x5b9cca4f, 0x682e6ff3,
  0x748f82ee, 0x78a5636f, 0x84c87814, 0x8cc70208, 0x90befffa, 0xa4506ceb, 0xbef9a3f7, 0xc67178f2]
  mixA w := rotateRight w 2 ^^^ rotateRight w 13 ^^^ rotateRight w 22
  mixE w := rotateRight w 6 ^^^ rotateRight w 11 ^^^ rotateRight w 25
  spreadEarly w := rotateRight w 7 ^^^ rotateRight w 18 ^^^ w >>> 3
  spreadLate w := rotateRight w 17 ^^^ rotateRight w 19 ^^^ w >>> 10

/-- The parameters for words of 64 bits. The constants are the first 64 bits of the fractional parts
of the cube roots of the first 80 primes. -/
def parameters64 : Parameters UInt64 where
  steps := 80
  constants := #v[
  0x428a2f98d728ae22, 0x7137449123ef65cd, 0xb5c0fbcfec4d3b2f, 0xe9b5dba58189dbbc,
  0x3956c25bf348b538, 0x59f111f1b605d019, 0x923f82a4af194f9b, 0xab1c5ed5da6d8118,
  0xd807aa98a3030242, 0x12835b0145706fbe, 0x243185be4ee4b28c, 0x550c7dc3d5ffb4e2,
  0x72be5d74f27b896f, 0x80deb1fe3b1696b1, 0x9bdc06a725c71235, 0xc19bf174cf692694,
  0xe49b69c19ef14ad2, 0xefbe4786384f25e3, 0x0fc19dc68b8cd5b5, 0x240ca1cc77ac9c65,
  0x2de92c6f592b0275, 0x4a7484aa6ea6e483, 0x5cb0a9dcbd41fbd4, 0x76f988da831153b5,
  0x983e5152ee66dfab, 0xa831c66d2db43210, 0xb00327c898fb213f, 0xbf597fc7beef0ee4,
  0xc6e00bf33da88fc2, 0xd5a79147930aa725, 0x06ca6351e003826f, 0x142929670a0e6e70,
  0x27b70a8546d22ffc, 0x2e1b21385c26c926, 0x4d2c6dfc5ac42aed, 0x53380d139d95b3df,
  0x650a73548baf63de, 0x766a0abb3c77b2a8, 0x81c2c92e47edaee6, 0x92722c851482353b,
  0xa2bfe8a14cf10364, 0xa81a664bbc423001, 0xc24b8b70d0f89791, 0xc76c51a30654be30,
  0xd192e819d6ef5218, 0xd69906245565a910, 0xf40e35855771202a, 0x106aa07032bbd1b8,
  0x19a4c116b8d2d0c8, 0x1e376c085141ab53, 0x2748774cdf8eeb99, 0x34b0bcb5e19b48a8,
  0x391c0cb3c5c95a63, 0x4ed8aa4ae3418acb, 0x5b9cca4f7763e373, 0x682e6ff3d6b2b8a3,
  0x748f82ee5defb2fc, 0x78a5636f43172f60, 0x84c87814a1f0ab72, 0x8cc702081a6439ec,
  0x90befffa23631e28, 0xa4506cebde82bde9, 0xbef9a3f7b2c67915, 0xc67178f2e372532b,
  0xca273eceea26619c, 0xd186b8c721c0c207, 0xeada7dd6cde0eb1e, 0xf57d4f7fee6ed178,
  0x06f067aa72176fba, 0x0a637dc5a2c898a6, 0x113f9804bef90dae, 0x1b710b35131c471b,
  0x28db77f523047d84, 0x32caab7b40c72493, 0x3c9ebe0a15c9bebc, 0x431d67c49c100d4c,
  0x4cc5d4becb3e42b6, 0x597f299cfc657e2a, 0x5fcb6fab3ad6faec, 0x6c44198c4a475817]
  mixA w := rotateRight64 w 28 ^^^ rotateRight64 w 34 ^^^ rotateRight64 w 39
  mixE w := rotateRight64 w 14 ^^^ rotateRight64 w 18 ^^^ rotateRight64 w 41
  spreadEarly w := rotateRight64 w 1 ^^^ rotateRight64 w 8 ^^^ w >>> 7
  spreadLate w := rotateRight64 w 19 ^^^ rotateRight64 w 61 ^^^ w >>> 6

end Sha2

/-- SHA-256. The length of the message is counted in bits, modulo 2^64, the high byte first. -/
def sha256 : IteratedHash where
  State := Sha2.State UInt32
  blockLength := 64
  outputLength := 32
  initial := ⟨
  0x6a09e667, 0xbb67ae85, 0x3c6ef372, 0xa54ff53a,
  0x510e527f, 0x9b05688c, 0x1f83d9ab, 0x5be0cd19⟩
  compress s block := Sha2.compress Sha2.parameters32 s (wordsHighFirst block)
  lengthField length := bytesHighFirst 8 (8 * length)
  output s := Vector.ofFn fun i => byte32 s.words[i.val / 4] (3 - i.val % 4)

/-- SHA-512. The length of the message is counted in bits, modulo 2^128, the high byte first. -/
def sha512 : IteratedHash where
  State := Sha2.State UInt64
  blockLength := 128
  outputLength := 64
  initial := ⟨
  0x6a09e667f3bcc908, 0xbb67ae8584caa73b, 0x3c6ef372fe94f82b, 0xa54ff53a5f1d36f1,
  0x510e527fade682d1, 0x9b05688c2b3e6c1f, 0x1f83d9abfb41bd6b, 0x5be0cd19137e2179⟩
  compress s block := Sha2.compress Sha2.parameters64 s (doubleWords block)
  lengthField length := bytesHighFirst 16 (8 * length)
  output s := Vector.ofFn fun i => byte64 s.words[i.val / 8] (7 - i.val % 8)

end SecretCodec.Digest

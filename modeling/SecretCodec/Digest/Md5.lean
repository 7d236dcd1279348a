import SecretCodec.Digest.Iterated
import SecretCodec.Digest.Words

/-!
# MD5

Sixty-four steps on four words, in four rounds that differ in the mixing function and in the order
in which they take the words of the block. Words are read and written with the low byte first.
-/

namespace SecretCodec.Digest

namespace Md5

/-- The four words of the state. -/
structure State where
  a : UInt32
  b : UInt32
  c : UInt32
  d : UInt32

/-- The integer parts of 2^32 times the absolute values of the sines of 1 to 64. -/
def sines : Vector UInt32 64 := #v[
  0xd76aa478, 0xe8c7b756, 0x242070db, 0xc1bdceee, 0xf57c0faf, 0x4787c62a, 0xa8304613, 0xfd469501,
  0x698098d8, 0x8b44f7af, 0xffff5bb1, 0x895cd7be, 0x6b901122, 0xfd987193, 0xa679438e, 0x49b40821,
  0xf61e2562, 0xc040b340, 0x265e5a51, 0xe9b6c7aa, 0xd62f105d, 0x02441453, 0xd8a1e681, 0xe7d3fbc8,
  0x21e1cde6, 0xc33707d6, 0xf4d50d87, 0x455a14ed, 0xa9e3e905, 0xfcefa3f8, 0x676f02d9, 0x8d2a4c8a,
  0xfffa3942, 0x8771f681, 0x6d9d6122, 0xfde5380c, 0xa4beea44, 0x4bdecfa9, 0xf6bb4b60, 0xbebfbc70,
  0x289b7ec6, 0xeaa127fa, 0xd4ef3085, 0x04881d05, 0xd9d4d039, 0xe6db99e5, 0x1fa27cf8, 0xc4ac5665,
  0xf4292244, 0x432aff97, 0xab9423a7, 0xfc93a039, 0x655b59c3, 0x8f0ccc92, 0xffeff47d, 0x85845dd1,
  0x6fa87e4f, 0xfe2ce6e0, 0xa3014314, 0x4e0811a1, 0xf7537e82, 0xbd3af235, 0x2ad7d2bb, 0xeb86d391]

/-- The rotations of each round, which repeat every four steps. -/
def rotations : Vector (Vector UInt32 4) 4 :=
  #v[#v[7, 12, 17, 22], #v[5, 9, 14, 20], #v[4, 11, 16, 23], #v[6, 10, 15, 21]]

/-- The mixing function of a step, and the word of the block that the step takes, modulo sixteen. -/
def mix (s : State) (t : Nat) : UInt32 × Nat :=
  if t < 16 then ((s.b &&& s.c) ||| (~~~s.b &&& s.d), t)
  else if t < 32 then ((s.d &&& s.b) ||| (~~~s.d &&& s.c), 5 * t + 1)
  else if t < 48 then (s.b ^^^ s.c ^^^ s.d, 3 * t + 5)
  else (s.c ^^^ (s.b ||| ~~~s.d), 7 * t)

/-- One of the sixty-four steps. -/
def step (words : Vector UInt32 16) (s : State) (t : Fin 64) : State :=
  let (mixed, word) := mix s t.val
  let sum := s.a + mixed + sines[t] + wordOf words word
  ⟨s.d, s.b + rotateLeft sum rotations[t.val / 16][t.val % 4], s.b, s.c⟩

/-- Compression of one block. -/
def compress (s : State) (block : Vector UInt8 64) : State :=
  let words := wordsLowFirst block
  let t := Fin.foldl 64 (step words) s
  ⟨s.a + t.a, s.b + t.b, s.c + t.c, s.d + t.d⟩

/-- The digest that a state stands for. -/
def output (s : State) : Vector UInt8 16 :=
  Vector.ofFn fun i => byte32 #v[s.a, s.b, s.c, s.d][i.val / 4] (i.val % 4)

end Md5

/-- MD5. The length of the message is counted in bits, modulo 2^64, the low byte first. -/
def md5 : IteratedHash where
  State := Md5.State
  blockLength := 64
  outputLength := 16
  initial := ⟨0x67452301, 0xefcdab89, 0x98badcfe, 0x10325476⟩
  compress := Md5.compress
  lengthField length := bytesLowFirst 8 (8 * length)
  output := Md5.output

end SecretCodec.Digest

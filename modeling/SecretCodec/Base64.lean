import SecretCodec.Text.Utf8

/-!
# Base64

A byte string is cut into numbers of six bits, and each number is written as a symbol of an
alphabet. Three bytes make four symbols; one or two bytes at the end make two or three, whose last
one has spare bits, which are zero. A padding rule may fill the last group up to four with pad
bytes.

Reading is strict, so that each byte string has exactly one written form: the padding has to be just
as it is written, and the spare bits have to be zero. It reports the first defect in the order of
the bytes; only when every byte is in its place is the length judged, then the padding, then the
spare bits. That it accepts exactly what is written is the main statement of `Base64/Lemmas`.
-/

namespace SecretCodec.Base64

/-- Whether the last group is filled up to four bytes with the pad byte. -/
inductive Padding where
  | full
  | none
  deriving DecidableEq, Repr

/-- The pad byte `=`. -/
def pad : UInt8 := 61

/-- Sixty-four different ASCII symbols in the order of their values, none of them the pad byte, and
the padding rule. -/
structure Alphabet where
  symbols : Bytes
  padding : Padding
  length_symbols : symbols.length = 64
  nodup_symbols : symbols.Nodup
  symbols_lt : ∀ s ∈ symbols, s < 128
  pad_not_mem : pad ∉ symbols

/-- Why a byte string is not in the written form. Symbols are given by their code, and positions
count from the start. -/
inductive Error where
  | invalidSymbol (symbol : UInt8) (offset : Nat)
  | invalidLastSymbol (symbol : UInt8) (offset : Nat)
  | invalidLength (length : Nat)
  | invalidPadding
  deriving DecidableEq, Repr

/-- The wording of an error. -/
def Error.message : Error → String
  | .invalidSymbol symbol offset =>
    "Invalid symbol " ++ symbol.toNat.repr ++ ", offset " ++ offset.repr ++ "."
  | .invalidLastSymbol symbol offset =>
    "Invalid last symbol " ++ symbol.toNat.repr ++ ", offset " ++ offset.repr ++ "."
  | .invalidLength length => "Invalid input length: " ++ length.repr
  | .invalidPadding => "Invalid padding"

/-- The six-bit numbers of a byte string. -/
def toSixes : Bytes → List Nat
  | x :: y :: z :: rest =>
    x.toNat / 4 :: (x.toNat % 4 * 16 + y.toNat / 16) :: (y.toNat % 16 * 4 + z.toNat / 64) ::
      z.toNat % 64 :: toSixes rest
  | [x, y] => [x.toNat / 4, x.toNat % 4 * 16 + y.toNat / 16, y.toNat % 16 * 4]
  | [x] => [x.toNat / 4, x.toNat % 4 * 16]
  | [] => []

/-- The bytes that six-bit numbers make up. Spare bits at the end are dropped. -/
def ofSixes : List Nat → Bytes
  | p :: q :: r :: s :: rest =>
    UInt8.ofNat (p * 4 + q / 16) :: UInt8.ofNat (q % 16 * 16 + r / 4) ::
      UInt8.ofNat (r % 4 * 64 + s) :: ofSixes rest
  | [p, q, r] => [UInt8.ofNat (p * 4 + q / 16), UInt8.ofNat (q % 16 * 16 + r / 4)]
  | [p, q] => [UInt8.ofNat (p * 4 + q / 16)]
  | _ => []

/-- The spare bits of the last number. -/
def spareBits (sixes : List Nat) : Nat :=
  match sixes.length % 4 with
  | 2 => sixes.getLastD 0 % 16
  | 3 => sixes.getLastD 0 % 4
  | _ => 0

namespace Alphabet

/-- The symbol for a number below sixty-four. -/
def symbol (a : Alphabet) (n : Nat) : UInt8 :=
  have : n % 64 < a.symbols.length := by
    rw [a.length_symbols]
    exact Nat.mod_lt n (by decide)
  a.symbols[n % 64]

/-- The number that a symbol stands for. -/
def value? (a : Alphabet) (b : UInt8) : Option Nat := a.symbols.idxOf? b

/-- The pad bytes after the given number of symbols. -/
def fill (a : Alphabet) (count : Nat) : Bytes :=
  match a.padding with
  | .full => List.replicate ((4 - count % 4) % 4) pad
  | .none => []

/-- The written form of a byte string. -/
def encode (a : Alphabet) (bytes : Bytes) : Bytes :=
  (toSixes bytes).map a.symbol ++ a.fill (toSixes bytes).length

/-- The written form of a byte string, as a text. -/
def text (a : Alphabet) (bytes : Bytes) : String := Text.ofAscii (a.encode bytes)

/-- The numbers of symbols that stand at `offset` and after. -/
def readSymbols (a : Alphabet) (offset : Nat) : Bytes → Except Error (List Nat)
  | [] => .ok []
  | b :: rest =>
    match a.value? b with
    | none => .error (.invalidSymbol b offset)
    | some n => (a.readSymbols (offset + 1) rest).map (n :: ·)

/-- What stands before the last group, which has one to four bytes. -/
def frontLength (written : Bytes) : Nat := (written.length - 1) / 4 * 4

/-- The numbers that a written form spells. In the last group pad bytes come after at least two
symbols, and nothing but pad bytes comes after the first. -/
def readSixes (a : Alphabet) (written : Bytes) : Except Error (List Nat) := do
  let offset := frontLength written
  let last := written.drop offset
  let symbols := last.takeWhile (· ≠ pad)
  let tail := last.dropWhile (· ≠ pad)
  let front ← a.readSymbols 0 (written.take offset)
  let back ← a.readSymbols offset symbols
  let count := offset + symbols.length
  if tail ≠ [] ∧ (symbols.length < 2 ∨ tail.any (· ≠ pad)) then .error (.invalidSymbol pad count)
  else if symbols.length = 1 then .error (.invalidLength count)
  else if tail ≠ a.fill count then .error .invalidPadding
  else .ok (front ++ back)

/-- The bytes that a written form stands for. -/
def decode (a : Alphabet) (written : Bytes) : Except Error Bytes :=
  match a.readSixes written with
  | .error e => .error e
  | .ok sixes =>
    if spareBits sixes = 0 then .ok (ofSixes sixes)
    else .error (.invalidLastSymbol (a.symbol (sixes.getLastD 0)) (sixes.length - 1))

/-- The alphabet for general use: letters, digits, plus and slash, with padding. -/
def standard : Alphabet where
  symbols := Text.utf8 "ABCDEFGHIJKLMNOPQRSTUVWXYZabcdefghijklmnopqrstuvwxyz0123456789+/"
  padding := .full
  length_symbols := by decide +kernel
  nodup_symbols := by decide +kernel
  symbols_lt := by decide +kernel
  pad_not_mem := by decide +kernel

/-- The alphabet of password hashes: point, slash, letters and digits, without padding. -/
def password : Alphabet where
  symbols := Text.utf8 "./ABCDEFGHIJKLMNOPQRSTUVWXYZabcdefghijklmnopqrstuvwxyz0123456789"
  padding := .none
  length_symbols := by decide +kernel
  nodup_symbols := by decide +kernel
  symbols_lt := by decide +kernel
  pad_not_mem := by decide +kernel

end Alphabet

end SecretCodec.Base64

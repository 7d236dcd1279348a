import SecretCodec.Text.Quoted

/-!
# Hexadecimal

A byte is written as two upper-case digits, the high half first; digits of either case are read.
Reading fails at the first defect: an odd number of digits is noticed before any digit is looked at,
and then the first byte that is no digit is reported with its position. What was written reads back
(`decode_encode`).
-/

namespace SecretCodec.Hex

/-- Why a byte string is not a hexadecimal numeral of whole bytes. -/
inductive Error where
  | oddLength
  | invalidDigit (digit : UInt8) (index : Nat)
  deriving DecidableEq, Repr

/-- The wording of an error. A byte that is no digit is shown as the character of that code. -/
def Error.message : Error → String
  | .oddLength => "Odd number of digits"
  | .invalidDigit digit index =>
    "Invalid character " ++ Text.quoteChar (Char.ofUInt8 digit) ++ " at position " ++ index.repr

/-- The upper-case digit for a number below sixteen. -/
def digit (n : Nat) : UInt8 := UInt8.ofNat (if n < 10 then 48 + n else 55 + n)

/-- The number that the digit with the given code stands for, in either case. -/
def value? (code : Nat) : Option Nat :=
  if 48 ≤ code ∧ code ≤ 57 then some (code - 48)
  else if 65 ≤ code ∧ code ≤ 70 then some (code - 55)
  else if 97 ≤ code ∧ code ≤ 102 then some (code - 87)
  else none

/-- The digits of a byte string, two for each byte. -/
def encode (bytes : Bytes) : Bytes :=
  bytes.flatMap fun b => [digit (b.toNat / 16), digit (b.toNat % 16)]

/-- The hexadecimal numeral of a byte string, as a text. -/
def text (bytes : Bytes) : String := Text.ofAscii (encode bytes)

/-- The number of the digit that stands at `index`. -/
def readDigit (index : Nat) (b : UInt8) : Except Error Nat :=
  match value? b.toNat with
  | some n => .ok n
  | none => .error (.invalidDigit b index)

/-- The bytes that pairs of digits stand for, the first pair at `index`. -/
def decodePairs (index : Nat) : Bytes → Except Error Bytes
  | high :: low :: rest => do
    let h ← readDigit index high
    let l ← readDigit (index + 1) low
    let more ← decodePairs (index + 2) rest
    pure (UInt8.ofNat (16 * h + l) :: more)
  | _ => pure []

/-- The bytes that a hexadecimal numeral stands for. -/
def decode (digits : Bytes) : Except Error Bytes :=
  if digits.length % 2 = 1 then .error .oddLength else decodePairs 0 digits

theorem toNat_digit {n : Nat} (h : n < 16) :
    (digit n).toNat = if n < 10 then 48 + n else 55 + n := by
  simp only [digit, UInt8.toNat_ofNat']
  split <;> omega

/-- Every digit reads back as its number. -/
theorem value?_digit {n : Nat} (h : n < 16) : value? (digit n).toNat = some n := by
  simp only [value?, toNat_digit h]
  grind

@[simp] theorem length_encode (bytes : Bytes) : (encode bytes).length = 2 * bytes.length := by
  induction bytes with
  | nil => rfl
  | cons b rest ih =>
    rw [encode] at ih
    simp [encode, ih]
    omega

theorem decodePairs_encode (index : Nat) (bytes : Bytes) :
    decodePairs index (encode bytes) = .ok bytes := by
  induction bytes generalizing index with
  | nil => rfl
  | cons b rest ih =>
    have high : b.toNat / 16 < 16 := by have := b.toNat_lt; omega
    have low : b.toNat % 16 < 16 := Nat.mod_lt _ (by decide)
    have halves : 16 * (b.toNat / 16) + b.toNat % 16 = b.toNat := Nat.div_add_mod ..
    have : encode (b :: rest) = digit (b.toNat / 16) :: digit (b.toNat % 16) :: encode rest := rfl
    simp [this, decodePairs, readDigit, value?_digit high, value?_digit low, ih, halves, bind,
      Except.bind, pure, Except.pure]

/-- What was written reads back. -/
@[simp] theorem decode_encode (bytes : Bytes) : decode (encode bytes) = .ok bytes := by
  rw [decode, length_encode, if_neg (by omega), decodePairs_encode]

end SecretCodec.Hex

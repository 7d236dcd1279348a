/-!
# Decimal numbers in texts

Numbers are written as `Nat.repr` writes them and read from a list of digits. `read?_toDigits` says
that every number is read back from its own text, with leading zeros or without.
-/

namespace SecretCodec.Decimal

/-- The number that a non-empty list of decimal digits stands for. -/
def read? (digits : List Char) : Option Nat :=
  if digits ≠ [] ∧ digits.all Char.isDigit then some (Nat.ofDigitChars 10 digits 0) else none

/-- The number as a 32-bit word, if it fits. -/
def toWord? (n : Nat) : Option UInt32 :=
  if n < UInt32.size then some (UInt32.ofNat n) else none

/-- A word written as an unsigned number. One plus sign before the digits is allowed. -/
def readWord? (text : List Char) : Option UInt32 :=
  match text with
  | '+' :: digits => (read? digits).bind toWord?
  | digits => (read? digits).bind toWord?

/-- A number below one hundred in two digits; a larger one in as many as it takes. -/
def twoDigits (n : Nat) : String := if n < 10 then "0" ++ n.repr else n.repr

theorem read?_toDigits (n zeros : Nat) :
    read? (List.replicate zeros '0' ++ Nat.toDigits 10 n) = some n := by
  have digits : (List.replicate zeros '0' ++ Nat.toDigits 10 n).all Char.isDigit := by
    rw [List.all_append, Bool.and_eq_true, List.all_eq_true, List.all_eq_true]
    refine ⟨fun c hc => ?_, fun c hc => Nat.isDigit_of_mem_toDigits (by decide) (by decide) hc⟩
    rw [List.eq_of_mem_replicate hc]
    rfl
  rw [read?, if_pos ⟨by simp [Nat.toDigits_ne_nil], digits⟩, Nat.ofDigitChars_append,
    Nat.ofDigitChars_replicate_zero, Nat.mul_zero, Nat.ofDigitChars_ten_toDigits]

@[simp] theorem toWord?_toNat (w : UInt32) : toWord? w.toNat = some w := by
  simp [toWord?, w.toNat_lt]

end SecretCodec.Decimal

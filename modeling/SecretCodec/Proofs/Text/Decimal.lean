import SecretCodec.Text.Decimal

/-!
# Decimal numerals

A text is read as a number exactly if it is a numeral of that number: decimal digits and nothing
else, at least one of them (`read?_eq_some_iff`). A word may have a plus sign before its digits
(`readWord?_eq_some_iff`).
-/

namespace SecretCodec.Decimal

variable {digits text : List Char} {n : Nat} {w : UInt32}

/-- Whether decimal digits are a numeral of a number, with leading zeros or without. -/
def IsNumeralOf (digits : List Char) (n : Nat) : Prop :=
  digits ≠ [] ∧ (∀ c ∈ digits, c.isDigit) ∧ Nat.ofDigitChars 10 digits 0 = n

/-- Whether a text is a word in decimal digits, after a plus sign or without. -/
def IsWordOf (text : List Char) (w : UInt32) : Prop :=
  IsNumeralOf text w.toNat ∨ ∃ digits, text = '+' :: digits ∧ IsNumeralOf digits w.toNat

theorem read?_eq_some_iff : read? digits = some n ↔ IsNumeralOf digits n := by
  rw [read?, IsNumeralOf, ← List.all_eq_true, ← and_assoc]
  split
  · next numeral => rw [Option.some.injEq, and_iff_right numeral]
  · next other =>
    constructor
    · intro h
      cases h
    · intro h
      exact absurd h.1 other

theorem toWord?_eq_some_iff : toWord? n = some w ↔ n = w.toNat := by
  constructor
  · intro fits
    rw [toWord?] at fits
    split at fits
    · next small =>
      cases fits
      exact (UInt32.toNat_ofNat_of_lt' small).symm
    · cases fits
  · rintro rfl
    exact toWord?_toNat w

theorem read?_bind_toWord?_eq_some_iff :
    (read? digits).bind toWord? = some w ↔ IsNumeralOf digits w.toNat := by
  simp only [Option.bind_eq_some_iff, toWord?_eq_some_iff, exists_eq_right, read?_eq_some_iff]

/-- A plus sign is no digit, so it is not itself part of a numeral. -/
theorem not_isNumeralOf_plus : ¬IsNumeralOf ('+' :: digits) n := by
  rintro ⟨-, all, -⟩
  cases all '+' List.mem_cons_self

theorem readWord?_eq_some_iff : readWord? text = some w ↔ IsWordOf text w := by
  rw [readWord?.eq_def, IsWordOf]
  split
  · next digits => simp [read?_bind_toWord?_eq_some_iff, not_isNumeralOf_plus]
  · next unsigned =>
    rw [read?_bind_toWord?_eq_some_iff, or_iff_left]
    rintro ⟨digits, same, -⟩
    exact unsigned digits same

end SecretCodec.Decimal

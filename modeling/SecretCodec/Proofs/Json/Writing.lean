import SecretCodec.Proofs.Json.Grammar
import SecretCodec.Proofs.Text.Ascii

/-!
# Every value can be written

A string can be spelled with an escape for each of its code units, whether they are a text or not,
and a number in its digits. So there is a document for every value whose numbers are spelled as
numbers (`exists_document`).
-/

namespace SecretCodec.Json

/-! ### Numbers -/

theorem head?_toDigits {n : Nat} (pos : 0 < n) : (Nat.toDigits 10 n).head? ≠ some '0' := by
  induction n using Nat.strongRecOn with
  | ind n ih =>
    have small : ∀ d < 10, 0 < d → [Nat.digitChar d].head? ≠ some '0' := by decide
    by_cases one : n < 10
    · rw [Nat.toDigits_of_lt_base one]
      exact small n one pos
    · -- The first digit is that of the number without its last digit.
      have front := ih (n / 10) (by omega) (by omega)
      obtain ⟨c, more, same⟩ :=
        List.exists_cons_of_ne_nil (Nat.toDigits_ne_nil (b := 10) (n := n / 10))
      rw [Nat.toDigits_of_base_le (by decide) (Nat.le_of_not_lt one), same]
      rw [same] at front
      exact front

/-- The digits of a number spell it. -/
theorem isNumber_toDigits (n : Nat) : IsNumber (Nat.toDigits 10 n) := by
  have integer : IsInteger (Nat.toDigits 10 n) := by
    obtain rfl | pos := Nat.eq_zero_or_pos n
    · exact .inl rfl
    · exact .inr ⟨⟨Nat.toDigits_ne_nil,
        fun _ digit => Nat.isDigit_of_mem_toDigits (by decide) (by decide) digit⟩,
        head?_toDigits pos⟩
  refine .inl ⟨_, [], [], ?_, integer, .inl rfl, .inl rfl⟩
  simp only [List.append_nil]

/-! ### Strings -/

theorem exists_hexDigit {n : Nat} (h : n < 16) : ∃ c : Char, Hex.value? c.toNat = some n :=
  ⟨Char.ofUInt8 (Hex.digit n), Text.toNat_ofUInt8 _ ▸ Hex.value?_digit h⟩

theorem exists_isHexOf (unit : UInt16) : ∃ a b c d, IsHexOf a b c d unit := by
  have := unit.toNat_lt
  obtain ⟨a, isA⟩ := exists_hexDigit (n := unit.toNat / 4096) (by omega)
  obtain ⟨b, isB⟩ := exists_hexDigit (n := unit.toNat / 256 % 16) (by omega)
  obtain ⟨c, isC⟩ := exists_hexDigit (n := unit.toNat / 16 % 16) (by omega)
  obtain ⟨d, isD⟩ := exists_hexDigit (n := unit.toNat % 16) (by omega)
  exact ⟨a, b, c, d, _, _, _, _, isA, isB, isC, isD, by omega⟩

theorem exists_denotes (units : Units) : ∃ between, Denotes between units := by
  induction units with
  | nil => exact ⟨[], .nil⟩
  | cons unit units ih =>
    obtain ⟨between, denotes⟩ := ih
    obtain ⟨a, b, c, d, digits⟩ := exists_isHexOf unit
    exact ⟨_, .hex digits denotes⟩

/-! ### Documents -/

theorem Token.exists_isSpelled (token : Token)
    (number : ∀ spelling, token = .number spelling → IsNumber spelling) :
    ∃ cs, token.IsSpelled cs := by
  cases token with
  | number spelling => exact ⟨spelling, rfl, number spelling rfl⟩
  | string units =>
    obtain ⟨between, denotes⟩ := exists_denotes units
    exact ⟨_, between, rfl, denotes⟩
  | truth value => cases value <;> exact ⟨_, rfl⟩
  | _ => exact ⟨_, rfl⟩

theorem exists_spells {tokens : List Token}
    (number : ∀ spelling, .number spelling ∈ tokens → IsNumber spelling) :
    ∃ cs, Spells cs tokens := by
  induction tokens with
  | nil => exact ⟨[], .nil nofun⟩
  | cons token tokens ih =>
    obtain ⟨rest, more⟩ := ih fun spelling later => number spelling (List.mem_cons_of_mem _ later)
    obtain ⟨cs, spelled⟩ := token.exists_isSpelled fun spelling same =>
      number spelling (same ▸ List.mem_cons_self)
    have noBlanks : ∀ c ∈ ([] : List Char), isSpace c := nofun
    exact ⟨_, .cons noBlanks spelled more⟩

/-- There is a document for every value whose numbers are spelled as numbers. -/
theorem exists_document {v : Value}
    (number : ∀ spelling, .number spelling ∈ v.tokens → IsNumber spelling) :
    ∃ text, IsDocument text v := by
  obtain ⟨cs, spells⟩ := exists_spells number
  refine ⟨String.ofList cs, ?_⟩
  rw [IsDocument, String.toList_ofList]
  exact spells

end SecretCodec.Json

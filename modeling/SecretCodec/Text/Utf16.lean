/-!
# UTF-16

Some formats write characters as code units of sixteen bits: one unit for most, and a pair of
surrogates for the rest. A list of units need not be a text, since a surrogate may stand alone.
`decode?_eq_some_iff` says that decoding accepts exactly the encodings of texts.
-/

namespace SecretCodec.Text.Utf16

/-- The code units of a character. -/
def units (c : Char) : List UInt16 :=
  if c.toNat < 0x10000 then [UInt16.ofNat c.toNat]
  else
    let n := c.toNat - 0x10000
    [UInt16.ofNat (0xD800 + n / 0x400), UInt16.ofNat (0xDC00 + n % 0x400)]

/-- The code units of a text. -/
def encode (cs : List Char) : List UInt16 := cs.flatMap units

/-- Whether a unit is the first of a pair. -/
def isHigh (u : UInt16) : Bool := 0xD800 ≤ u && u < 0xDC00

/-- Whether a unit is the second of a pair. -/
def isLow (u : UInt16) : Bool := 0xDC00 ≤ u && u < 0xE000

/-- The character that a pair of surrogates stands for. -/
def pair (high low : UInt16) : Char :=
  Char.ofNat (0x10000 + (high.toNat - 0xD800) * 0x400 + (low.toNat - 0xDC00))

/-- The text that code units spell, unless a surrogate stands alone. -/
def decode? : List UInt16 → Option (List Char)
  | [] => some []
  | [u] => if isHigh u || isLow u then none else some [Char.ofNat u.toNat]
  | u :: v :: rest =>
    if isHigh u && isLow v then (decode? rest).map (pair u v :: ·)
    else if isHigh u || isLow u then none
    else (decode? (v :: rest)).map (Char.ofNat u.toNat :: ·)

theorem isHigh_iff {u : UInt16} : isHigh u ↔ 0xD800 ≤ u.toNat ∧ u.toNat < 0xDC00 := by
  simp [isHigh, UInt16.le_iff_toNat_le, UInt16.lt_iff_toNat_lt]

theorem isLow_iff {u : UInt16} : isLow u ↔ 0xDC00 ≤ u.toNat ∧ u.toNat < 0xE000 := by
  simp [isLow, UInt16.le_iff_toNat_le, UInt16.lt_iff_toNat_lt]

private theorem toNat_unit {n : Nat} (h : n < 65536) : (UInt16.ofNat n).toNat = n :=
  UInt16.toNat_ofNat_of_lt' h

private theorem toNat_char {n : Nat} (h : n.isValidChar) : (Char.ofNat n).toNat = n := by
  rw [Char.ofNat, dif_pos h]
  rfl

/-- A unit that is no surrogate is the encoding of the character it stands for. -/
theorem units_ofNat {u : UInt16} (high : ¬isHigh u) (low : ¬isLow u) :
    units (Char.ofNat u.toNat) = [u] := by
  have := u.toNat_lt
  rw [isHigh_iff] at high
  rw [isLow_iff] at low
  have valid : u.toNat.isValidChar := by
    simp only [Nat.isValidChar]
    omega
  rw [units, toNat_char valid, if_pos this, UInt16.ofNat_toNat]

/-- A pair of surrogates is the encoding of the character it stands for. -/
theorem units_pair {u v : UInt16} (high : isHigh u) (low : isLow v) :
    units (pair u v) = [u, v] := by
  rw [isHigh_iff] at high
  rw [isLow_iff] at low
  have valid : (0x10000 + (u.toNat - 0xD800) * 0x400 + (v.toNat - 0xDC00)).isValidChar := by
    simp only [Nat.isValidChar]
    omega
  rw [units, pair, toNat_char valid, if_neg (by omega)]
  simp only [List.cons.injEq, and_true]
  constructor <;> apply UInt16.toNat_inj.1 <;> rw [toNat_unit (by omega)] <;> omega

/-- The units of a character are read as that character. -/
theorem decode?_units_append (c : Char) (rest : List UInt16) :
    decode? (units c ++ rest) = (decode? rest).map (c :: ·) := by
  have valid : c.toNat.isValidChar := c.valid
  simp only [Nat.isValidChar] at valid
  by_cases small : c.toNat < 0x10000
  · have toNat : (UInt16.ofNat c.toNat).toNat = c.toNat := toNat_unit small
    have high : isHigh (UInt16.ofNat c.toNat) = false := by
      rw [← Bool.not_eq_true, isHigh_iff]
      omega
    have low : isLow (UInt16.ofNat c.toNat) = false := by
      rw [← Bool.not_eq_true, isLow_iff]
      omega
    cases rest <;> simp [units, small, decode?, high, low, toNat]
  · have high : isHigh (UInt16.ofNat (0xD800 + (c.toNat - 0x10000) / 0x400)) = true := by
      rw [isHigh_iff, toNat_unit (by omega)]
      omega
    have low : isLow (UInt16.ofNat (0xDC00 + (c.toNat - 0x10000) % 0x400)) = true := by
      rw [isLow_iff, toNat_unit (by omega)]
      omega
    have same : pair (UInt16.ofNat (0xD800 + (c.toNat - 0x10000) / 0x400))
        (UInt16.ofNat (0xDC00 + (c.toNat - 0x10000) % 0x400)) = c := by
      rw [pair, toNat_unit (by omega), toNat_unit (by omega)]
      have : 0x10000 + (0xD800 + (c.toNat - 0x10000) / 0x400 - 0xD800) * 0x400 +
          (0xDC00 + (c.toNat - 0x10000) % 0x400 - 0xDC00) = c.toNat := by omega
      rw [this, Char.ofNat_toNat]
    rw [units, if_neg small, List.cons_append, List.cons_append, List.nil_append, decode?, high,
      low, same]
    rfl

/-- What is written reads back. -/
@[simp] theorem decode?_encode (cs : List Char) : decode? (encode cs) = some cs := by
  induction cs with
  | nil => rfl
  | cons c cs ih =>
    rw [encode] at ih
    rw [encode, List.flatMap_cons, decode?_units_append, ih]
    rfl

/-- Exactly the encodings of texts are accepted. -/
theorem decode?_eq_some_iff {us : List UInt16} {cs : List Char} :
    decode? us = some cs ↔ us = encode cs := by
  refine ⟨fun h => ?_, fun h => h ▸ decode?_encode cs⟩
  fun_induction decode? us generalizing cs with
  | case1 => cases h; rfl
  | case2 u surrogate => cases h
  | case3 u plain =>
    cases h
    simp only [Bool.or_eq_true, not_or] at plain
    simp [encode, units_ofNat plain.1 plain.2]
  | case4 u v rest surrogates ih =>
    obtain ⟨ds, read, rfl⟩ := Option.map_eq_some_iff.1 h
    simp only [Bool.and_eq_true] at surrogates
    rw [encode, List.flatMap_cons, units_pair surrogates.1 surrogates.2, ih read]
    rfl
  | case5 => cases h
  | case6 u v rest _ plain ih =>
    obtain ⟨ds, read, rfl⟩ := Option.map_eq_some_iff.1 h
    simp only [Bool.or_eq_true, not_or] at plain
    rw [encode, List.flatMap_cons, units_ofNat plain.1 plain.2, ih read]
    rfl

end SecretCodec.Text.Utf16

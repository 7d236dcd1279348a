import Mathlib.Data.List.Basic
import SecretCodec.Text.Blank
import SecretCodec.Text.Utf8

/-!
# Texts of ASCII characters

The formats write visible ASCII characters only, so `trim` leaves alone what they write
(`trim_ofAscii`). A text of ASCII characters has one byte for each character
(`utf8_eq_map_toUInt8`), and upper case is a map of bytes as well as of characters
(`utf8_toUpper`): no byte of a character outside ASCII is the code of a letter.
-/

namespace SecretCodec.Text

/-- Whether a byte stands for a visible ASCII character. -/
def IsVisible (b : UInt8) : Prop := 32 < b.toNat ∧ b.toNat < 127

instance (b : UInt8) : Decidable (IsVisible b) := inferInstanceAs (Decidable (_ ∧ _))

@[simp] theorem toNat_ofUInt8 (b : UInt8) : (Char.ofUInt8 b).toNat = b.toNat :=
  UInt8.toNat_toUInt32 b

theorem toNat_toUInt8 {c : Char} (h : c.toNat < 128) : c.toUInt8.toNat = c.toNat :=
  Nat.mod_eq_of_lt (Nat.lt_trans h (by decide))

theorem isBlank_eq_false {c : Char} (low : 32 < c.toNat) (high : c.toNat < 127) :
    isBlank c = false := by
  simp only [isBlank, blankRanges, List.any_cons, List.any_nil, Bool.or_eq_false_iff,
    Bool.and_eq_false_iff, decide_eq_false_iff_not, and_true]
  omega

theorem isBlank_ofUInt8 {b : UInt8} (h : IsVisible b) : isBlank (Char.ofUInt8 b) = false := by
  obtain ⟨low, high⟩ := h
  rw [← toNat_ofUInt8] at low high
  exact isBlank_eq_false low high

/-- A text of visible ASCII characters has no blanks at its ends. -/
theorem trim_ofAscii {bytes : Bytes} (h : ∀ b ∈ bytes, IsVisible b) :
    trim (ofAscii bytes) = ofAscii bytes := by
  have visible : ∀ c ∈ bytes.map Char.ofUInt8, isBlank c = false := by
    intro c member
    obtain ⟨b, inBytes, rfl⟩ := List.mem_map.1 member
    exact isBlank_ofUInt8 (h b inBytes)
  apply String.toList_inj.1
  rw [toList_trim, toList_ofAscii]
  apply strip_eq_self
  · intro c first
    exact visible c (List.mem_of_mem_head? first)
  · intro c last
    exact visible c (List.mem_of_mem_getLast? last)

/-! ### Characters and their bytes -/

/-- An ASCII character is encoded by the one byte of its code. -/
theorem utf8EncodeChar_of_lt {c : Char} (h : c.toNat < 128) :
    String.utf8EncodeChar c = [c.toUInt8] := by
  have small : c.val.toNat ≤ 127 := Nat.le_of_lt_succ h
  rw [String.utf8EncodeChar, if_pos small]
  rfl

/-- Every byte of a character outside ASCII is outside ASCII. -/
theorem le_of_mem_utf8EncodeChar {c : Char} (h : 128 ≤ c.toNat) :
    ∀ b ∈ String.utf8EncodeChar c, 128 ≤ b.toNat := by
  have large : ¬c.val.toNat ≤ 127 := Nat.not_le_of_lt h
  -- Each byte is a mark of at least 128 with some bits of the code below it.
  have marked : ∀ bits mark : Nat, 128 ≤ mark → bits + mark < 256 →
      128 ≤ (UInt8.ofNat (bits + mark)).toNat := by
    intro bits mark high fits
    rw [UInt8.toNat_ofNat_of_lt' fits]
    exact Nat.le_add_left_of_le high
  intro b member
  rw [String.utf8EncodeChar, if_neg large] at member
  split at member
  · simp only [List.mem_cons, List.not_mem_nil, or_false] at member
    obtain rfl | rfl := member <;> exact marked _ _ (by decide) (by omega)
  · split at member
    · simp only [List.mem_cons, List.not_mem_nil, or_false] at member
      obtain rfl | rfl | rfl := member <;> exact marked _ _ (by decide) (by omega)
    · simp only [List.mem_cons, List.not_mem_nil, or_false] at member
      obtain rfl | rfl | rfl | rfl := member <;> exact marked _ _ (by decide) (by omega)

/-- A text of ASCII characters has one byte for each character. -/
theorem utf8_eq_map_toUInt8 {t : String} (h : ∀ c ∈ t.toList, c.toNat < 128) :
    utf8 t = t.toList.map Char.toUInt8 := by
  rw [utf8_eq_flatMap, List.map_eq_flatMap]
  exact List.flatMap_congr fun c member => utf8EncodeChar_of_lt (h c member)

/-- Bytes of ASCII characters are those characters' codes. -/
theorem toList_eq_map_ofUInt8 {t : String} (h : ∀ b ∈ utf8 t, b < 128) :
    t.toList = (utf8 t).map Char.ofUInt8 := by
  have same : ofAscii (utf8 t) = t := utf8_injective (utf8_ofAscii h)
  rw [← toList_ofAscii, same]

/-! ### Upper case -/

/-- The upper-case form of a byte that is the code of an ASCII letter; other bytes stand for
themselves. -/
def upperByte (b : UInt8) : UInt8 := if 97 ≤ b.toNat ∧ b.toNat ≤ 122 then b - 32 else b

theorem toNat_upperByte (b : UInt8) :
    (upperByte b).toNat = if 97 ≤ b.toNat ∧ b.toNat ≤ 122 then b.toNat - 32 else b.toNat := by
  rw [upperByte]
  split
  · rw [UInt8.toNat_sub_of_le]
    · rfl
    · rw [UInt8.le_iff_toNat_le]
      have : (32 : UInt8).toNat = 32 := rfl
      omega
  · rfl

theorem toNat_toUpper (c : Char) :
    c.toUpper.toNat = if 97 ≤ c.toNat ∧ c.toNat ≤ 122 then c.toNat - 32 else c.toNat := by
  have range : ('a'.val ≤ c.val ∧ c.val ≤ 'z'.val) ↔ (97 ≤ c.toNat ∧ c.toNat ≤ 122) := by
    rw [UInt32.le_iff_toNat_le, UInt32.le_iff_toNat_le]
    exact Iff.rfl
  delta Char.toUpper
  by_cases letter : 97 ≤ c.toNat ∧ c.toNat ≤ 122
  · rw [dif_pos (range.2 letter), if_pos letter]
    change (c.val + ('A'.val - 'a'.val)).toNat = c.val.toNat - 32
    have code : c.val.toNat = c.toNat := rfl
    have shift : ('A'.val - 'a'.val).toNat = 2 ^ 32 - 32 := by decide
    rw [UInt32.toNat_add, shift, code]
    omega
  · rw [dif_neg (fun h => letter (range.1 h)), if_neg letter]

theorem utf8EncodeChar_toUpper (c : Char) :
    String.utf8EncodeChar c.toUpper = (String.utf8EncodeChar c).map upperByte := by
  have code := toNat_toUpper c
  by_cases ascii : c.toNat < 128
  · have upper : c.toUpper.toNat < 128 := by
      rw [code]
      split <;> omega
    rw [utf8EncodeChar_of_lt upper, utf8EncodeChar_of_lt ascii, List.map_singleton,
      List.cons.injEq, ← UInt8.toNat_inj]
    refine ⟨?_, rfl⟩
    rw [toNat_upperByte, toNat_toUInt8 upper, toNat_toUInt8 ascii, code]
  · have same : c.toUpper = c := by
      rw [← Char.toNat_inj, code, if_neg (by omega)]
    have kept : ∀ b ∈ String.utf8EncodeChar c, upperByte b = id b := by
      intro b member
      have high := le_of_mem_utf8EncodeChar (Nat.le_of_not_lt ascii) b member
      exact if_neg (by omega)
    rw [same, List.map_congr_left kept, List.map_id]

/-- Upper case maps the bytes of a text. -/
theorem utf8_toUpper (t : String) : utf8 t.toUpper = (utf8 t).map upperByte := by
  rw [utf8_eq_flatMap, utf8_eq_flatMap, String.toUpper, String.toList_map, List.flatMap_map,
    List.map_flatMap]
  exact List.flatMap_congr fun c _ => utf8EncodeChar_toUpper c

end SecretCodec.Text

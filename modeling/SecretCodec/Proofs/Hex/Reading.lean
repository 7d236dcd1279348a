import SecretCodec.Hex
import SecretCodec.Proofs.Success
import SecretCodec.Proofs.Text.Ascii

/-!
# Reading hexadecimal numerals

What is read is what is written, but for the case of the letters: a text stands for a byte string
exactly when its upper-case form is the numeral of that byte string (`decode_utf8_eq_ok_iff`). So
the texts that can be read are those of an even number of digits (`isNumeral_iff`), and there is
only one byte string for each of them (`text_injective`).
-/

namespace SecretCodec.Hex

open Text (upperByte)

/-- Whether a character is a hexadecimal digit, in either case. -/
def isDigit (c : Char) : Bool :=
  ('0' ≤ c && c ≤ '9') || ('A' ≤ c && c ≤ 'F') || ('a' ≤ c && c ≤ 'f')

/-- A text of exactly `count` hexadecimal digits. -/
def IsNumeral (count : Nat) (t : String) : Prop :=
  t.length = count ∧ ∀ c ∈ t.toList, isDigit c

instance (count : Nat) (t : String) : Decidable (IsNumeral count t) :=
  inferInstanceAs (Decidable (_ ∧ _))

/-! ### Digits -/

/-- A byte stands for a number exactly when its upper-case form is the digit of that number. -/
theorem value?_eq_some_iff {b : UInt8} {n : Nat} :
    value? b.toNat = some n ↔ n < 16 ∧ upperByte b = digit n := by
  have small : n < 16 → (upperByte b = digit n ↔
      (if 97 ≤ b.toNat ∧ b.toNat ≤ 122 then b.toNat - 32 else b.toNat) =
        if n < 10 then 48 + n else 55 + n) := by
    intro lt
    rw [← UInt8.toNat_inj, Text.toNat_upperByte, toNat_digit lt]
  constructor
  · intro read
    have lt : n < 16 := by grind [value?]
    exact ⟨lt, (small lt).2 (by grind [value?])⟩
  · rintro ⟨lt, same⟩
    have codes := (small lt).1 same
    grind [value?]

theorem isDigit_iff {c : Char} : isDigit c ↔ ∃ n, value? c.toNat = some n := by
  have codes : ∀ d e : Char, d ≤ e ↔ d.toNat ≤ e.toNat := by
    intro d e
    exact UInt32.le_iff_toNat_le
  rw [← Option.isSome_iff_exists, value?]
  simp only [isDigit, Bool.or_eq_true, Bool.and_eq_true, decide_eq_true_eq, codes]
  change ((48 ≤ c.toNat ∧ c.toNat ≤ 57) ∨ (65 ≤ c.toNat ∧ c.toNat ≤ 70)) ∨
    (97 ≤ c.toNat ∧ c.toNat ≤ 102) ↔ _
  grind

theorem lt_of_value? {code n : Nat} (h : value? code = some n) : code < 128 := by
  grind [value?]

/-- The digits that are written are visible. -/
theorem isVisible_of_mem_encode {bytes : Bytes} : ∀ b ∈ encode bytes, Text.IsVisible b := by
  have visible : ∀ n, n < 16 → Text.IsVisible (digit n) := by decide
  intro b member
  obtain ⟨source, -, digits⟩ := List.mem_flatMap.1 member
  have bound := source.toNat_lt
  simp only [List.mem_cons, List.not_mem_nil, or_false] at digits
  obtain rfl | rfl := digits
  · exact visible _ (by omega)
  · exact visible _ (by omega)

/-! ### Numerals -/

theorem encode_cons (b : UInt8) (bytes : Bytes) :
    encode (b :: bytes) = digit (b.toNat / 16) :: digit (b.toNat % 16) :: encode bytes := rfl

/-- The byte that two numbers below sixteen make up is written as their digits. -/
theorem encode_ofNat_cons {h l : Nat} (high : h < 16) (low : l < 16) (bytes : Bytes) :
    encode (UInt8.ofNat (16 * h + l) :: bytes) = digit h :: digit l :: encode bytes := by
  have value : (UInt8.ofNat (16 * h + l)).toNat = 16 * h + l :=
    UInt8.toNat_ofNat_of_lt' (by change _ < 256; omega)
  have top : (16 * h + l) / 16 = h := by omega
  have bottom : (16 * h + l) % 16 = l := by omega
  rw [encode_cons, value, top, bottom]

/-- Different byte strings have different numerals. -/
theorem encode_injective {b c : Bytes} (h : encode b = encode c) : b = c := by
  have read := decode_encode b
  rw [h, decode_encode] at read
  exact (Except.ok.inj read).symm

theorem readDigit_eq_ok_iff {index n : Nat} {b : UInt8} :
    readDigit index b = .ok n ↔ n < 16 ∧ upperByte b = digit n := by
  rw [← value?_eq_some_iff, readDigit]
  cases value? b.toNat with
  | none => simp
  | some m => simp

theorem decodePairs_cons_cons {index : Nat} {high low : UInt8} {rest bytes : Bytes} :
    decodePairs index (high :: low :: rest) = .ok bytes ↔
      ∃ h l more, readDigit index high = .ok h ∧ readDigit (index + 1) low = .ok l ∧
        decodePairs (index + 2) rest = .ok more ∧ UInt8.ofNat (16 * h + l) :: more = bytes := by
  rw [decodePairs]
  simp only [bind_eq_ok_iff, pure_eq_ok_iff]
  constructor
  · rintro ⟨h, readHigh, l, readLow, more, readRest, same⟩
    exact ⟨h, l, more, readHigh, readLow, readRest, same⟩
  · rintro ⟨h, l, more, readHigh, readLow, readRest, same⟩
    exact ⟨h, readHigh, l, readLow, more, readRest, same⟩

/-- Pairs of digits are read as the bytes they are written for, whatever the case of the letters. -/
theorem decodePairs_eq_ok_iff {digits bytes : Bytes} {index : Nat} (even : digits.length % 2 = 0) :
    decodePairs index digits = .ok bytes ↔ digits.map upperByte = encode bytes := by
  induction index, digits using decodePairs.induct generalizing bytes with
  | case1 index high low rest ih =>
    have evenRest : rest.length % 2 = 0 := by
      simp only [List.length_cons] at even
      omega
    simp only [decodePairs_cons_cons, readDigit_eq_ok_iff, List.map_cons]
    constructor
    · rintro ⟨h, l, more, ⟨small, isHigh⟩, ⟨small', isLow⟩, readRest, rfl⟩
      rw [encode_ofNat_cons small small', isHigh, isLow, (ih evenRest).1 readRest]
    · intro same
      cases bytes with
      | nil => cases same
      | cons b more =>
        rw [encode_cons] at same
        obtain ⟨isHigh, isLow, isRest⟩ : upperByte high = digit (b.toNat / 16) ∧
            upperByte low = digit (b.toNat % 16) ∧ rest.map upperByte = encode more := by
          simpa using same
        have bound := b.toNat_lt
        refine ⟨b.toNat / 16, b.toNat % 16, more, ⟨by omega, isHigh⟩, ⟨by omega, isLow⟩,
          (ih evenRest).2 isRest, ?_⟩
        rw [Nat.div_add_mod, UInt8.ofNat_toNat]
  | case2 digits index short =>
    match digits with
    | [] => cases bytes <;> simp [decodePairs, pure_eq_ok_iff, encode]
    | [_] => cases even
    | high :: low :: rest => exact (short high low rest rfl).elim

/-- Every byte has two digits. -/
theorem length_of_map_eq_encode {digits bytes : Bytes}
    (same : digits.map upperByte = encode bytes) : digits.length = 2 * bytes.length := by
  rw [← length_encode, ← same, List.length_map]

/-- What is read is what is written, whatever the case of the letters. -/
theorem decode_eq_ok_iff {digits bytes : Bytes} :
    decode digits = .ok bytes ↔ digits.map upperByte = encode bytes := by
  rw [decode]
  split
  · next odd =>
    constructor
    · intro read
      cases read
    · intro same
      have lengths := length_of_map_eq_encode same
      omega
  · next even => exact decodePairs_eq_ok_iff (by omega)

/-! ### Numerals as texts -/

@[simp] theorem utf8_text (bytes : Bytes) : Text.utf8 (text bytes) = encode bytes := by
  apply Text.utf8_ofAscii
  intro b member
  obtain ⟨-, high⟩ := isVisible_of_mem_encode b member
  rw [UInt8.lt_iff_toNat_lt]
  exact Nat.lt_succ_of_lt high

@[simp] theorem trim_text (bytes : Bytes) : Text.trim (text bytes) = text bytes :=
  Text.trim_ofAscii isVisible_of_mem_encode

theorem text_injective {b c : Bytes} (h : text b = text c) : b = c := by
  apply encode_injective
  rw [← utf8_text, ← utf8_text, h]

/-- A text stands for a byte string exactly when its upper-case form is how that is written. -/
theorem decode_utf8_eq_ok_iff {t : String} {bytes : Bytes} :
    decode (Text.utf8 t) = .ok bytes ↔ t.toUpper = text bytes := by
  rw [decode_eq_ok_iff, ← Text.utf8_toUpper, ← utf8_text, Text.utf8_inj]

/-- Written numerals are in upper case. -/
@[simp] theorem toUpper_text (bytes : Bytes) : (text bytes).toUpper = text bytes := by
  apply decode_utf8_eq_ok_iff.1
  rw [utf8_text, decode_encode]

theorem exists_map_eq_encode {digits : Bytes} (even : digits.length % 2 = 0)
    (known : ∀ b ∈ digits, ∃ n, value? b.toNat = some n) :
    ∃ bytes, digits.map upperByte = encode bytes := by
  match digits with
  | [] => exact ⟨[], rfl⟩
  | [_] => cases even
  | high :: low :: rest =>
    obtain ⟨h, isHigh⟩ := known high (by simp)
    obtain ⟨l, isLow⟩ := known low (by simp)
    have evenRest : rest.length % 2 = 0 := by
      simp only [List.length_cons] at even
      omega
    obtain ⟨more, isRest⟩ :=
      exists_map_eq_encode evenRest (fun b member => known b (by simp [member]))
    obtain ⟨small, isHigh⟩ := value?_eq_some_iff.1 isHigh
    obtain ⟨small', isLow⟩ := value?_eq_some_iff.1 isLow
    refine ⟨UInt8.ofNat (16 * h + l) :: more, ?_⟩
    rw [List.map_cons, List.map_cons, encode_ofNat_cons small small', isHigh, isLow, isRest]

theorem exists_value?_of_map_eq_encode {digits bytes : Bytes}
    (same : digits.map upperByte = encode bytes) :
    ∀ b ∈ digits, ∃ n, value? b.toNat = some n := by
  intro b member
  have written : upperByte b ∈ encode bytes := same ▸ List.mem_map_of_mem member
  obtain ⟨source, -, pair⟩ := List.mem_flatMap.1 written
  have bound := source.toNat_lt
  simp only [List.mem_cons, List.not_mem_nil, or_false] at pair
  obtain high | low := pair
  · exact ⟨_, value?_eq_some_iff.2 ⟨by omega, high⟩⟩
  · exact ⟨_, value?_eq_some_iff.2 ⟨by omega, low⟩⟩

theorem lt_of_isDigit {c : Char} (h : isDigit c) : c.toNat < 128 := by
  obtain ⟨n, known⟩ := isDigit_iff.1 h
  exact lt_of_value? known

/-- A text of digits has one byte for each of them. -/
theorem length_utf8_of_isDigit {t : String} (h : ∀ c ∈ t.toList, isDigit c) :
    (Text.utf8 t).length = t.length := by
  have codes := Text.utf8_eq_map_toUInt8 fun c member => lt_of_isDigit (h c member)
  rw [codes, List.length_map, String.length_toList]

/-- The characters of a text are digits exactly when its bytes are. -/
theorem forall_isDigit_iff {t : String} :
    (∀ c ∈ t.toList, isDigit c) ↔ ∀ b ∈ Text.utf8 t, ∃ n, value? b.toNat = some n := by
  constructor
  · intro digits b member
    have codes := Text.utf8_eq_map_toUInt8 fun c member => lt_of_isDigit (digits c member)
    rw [codes] at member
    obtain ⟨c, inText, rfl⟩ := List.mem_map.1 member
    rw [Text.toNat_toUInt8 (lt_of_isDigit (digits c inText))]
    exact isDigit_iff.1 (digits c inText)
  · intro known c member
    have ascii : ∀ b ∈ Text.utf8 t, b < 128 := by
      intro b inBytes
      obtain ⟨n, value⟩ := known b inBytes
      rw [UInt8.lt_iff_toNat_lt]
      exact lt_of_value? value
    rw [Text.toList_eq_map_ofUInt8 ascii] at member
    obtain ⟨b, inBytes, rfl⟩ := List.mem_map.1 member
    rw [isDigit_iff, Text.toNat_ofUInt8]
    exact known b inBytes

/-- The texts that stand for byte strings of a given length are those of twice as many digits. -/
theorem isNumeral_iff {count : Nat} {t : String} :
    IsNumeral (2 * count) t ↔ ∃ bytes : Bytes, bytes.length = count ∧ t.toUpper = text bytes := by
  constructor
  · rintro ⟨lengthText, digits⟩
    have lengthBytes : (Text.utf8 t).length = 2 * count := by
      rw [length_utf8_of_isDigit digits, lengthText]
    obtain ⟨bytes, same⟩ := exists_map_eq_encode (by omega) (forall_isDigit_iff.1 digits)
    refine ⟨bytes, ?_, decode_utf8_eq_ok_iff.1 (decode_eq_ok_iff.2 same)⟩
    have lengths := length_of_map_eq_encode same
    omega
  · rintro ⟨bytes, rfl, same⟩
    have written := decode_eq_ok_iff.1 (decode_utf8_eq_ok_iff.2 same)
    have digits := forall_isDigit_iff.2 (exists_value?_of_map_eq_encode written)
    refine ⟨?_, digits⟩
    rw [← length_utf8_of_isDigit digits, length_of_map_eq_encode written]

end SecretCodec.Hex

import SecretCodec.Proofs.Codec.Dispatch
import SecretCodec.Proofs.Digest.Overflow
import SecretCodec.Proofs.Hex.Refusal

/-!
# The first defect of a stored digest

A stored digest can have several defects at once: an odd number of digits, bytes that are no digits,
the wrong length. It is diagnosed by the first of them in this order, and among the bytes by the
first that is no digit (`Diagnosed`). Positions count in the text without the blanks around it, and
in bytes. The diagnosis is the wording of the error in which verification fails, and no other part of
the input has an influence on it; what has no diagnosis does not fail. A codec reports the diagnosis
in its event.

This is so for salts of every length up to the one at which the length of the digest with its salt
overflows. From there on it is so for values that are no numerals, and for no others
(`first_defect_diagnosed_iff`).
-/

namespace SecretCodec

/-! ### Digits by their places -/

namespace Hex

variable {t bytes : Bytes} {b : UInt8} {i m : Nat}

/-- Whether a byte is the code of a hexadecimal digit, in either case. -/
def IsDigitByte (b : UInt8) : Prop := isDigit (Char.ofUInt8 b)

theorem isDigitByte_iff : IsDigitByte b ↔ ∃ n, value? b.toNat = some n := by
  rw [IsDigitByte, isDigit_iff, Text.toNat_ofUInt8]

theorem not_isDigitByte_iff : ¬IsDigitByte b ↔ value? b.toNat = none := by
  rw [isDigitByte_iff, Option.eq_none_iff_forall_ne_some, not_exists]

/-- The first defect stands at the least place of a byte that is no digit. -/
theorem isFirstDefect_iff :
    IsFirstDefect t i b ↔
      t[i]? = some b ∧ ¬IsDigitByte b ∧ ∀ j d, j < i → t[j]? = some d → IsDigitByte d := by
  have digit : ∀ d : UInt8, value? d.toNat ≠ none ↔ IsDigitByte d := by
    intro d
    rw [ne_eq, ← not_isDigitByte_iff, not_not]
  rw [not_isDigitByte_iff]
  constructor
  · rintro ⟨front, back, rfl, rfl, known, unknown⟩
    refine ⟨by simp, unknown, fun j d before found => (digit d).1 (known d ?_)⟩
    rw [List.getElem?_append_left before] at found
    exact List.mem_of_getElem? found
  · rintro ⟨found, unknown, before⟩
    obtain ⟨inside, rfl⟩ := List.getElem?_eq_some_iff.1 found
    refine ⟨t.take i, t.drop (i + 1), ?_, ?_, fun d member => ?_, unknown⟩
    · rw [List.getElem_cons_drop, List.take_append_drop]
    · rw [List.length_take, Nat.min_eq_left (Nat.le_of_lt inside)]
    · obtain ⟨j, place, rfl⟩ := List.mem_take_iff_getElem.1 member
      rw [Nat.lt_min] at place
      exact (digit _).2 (before j _ place.1 (List.getElem?_eq_getElem place.2))

/-- What can be read as a number of bytes is twice as many digits. -/
theorem exists_decode_iff :
    (∃ bytes, decode t = .ok bytes ∧ bytes.length = m) ↔
      t.length = 2 * m ∧ ∀ b ∈ t, IsDigitByte b := by
  simp only [decode_eq_ok_iff, isDigitByte_iff]
  constructor
  · rintro ⟨bytes, same, rfl⟩
    exact ⟨length_of_map_eq_encode same, exists_value?_of_map_eq_encode same⟩
  · rintro ⟨count, digits⟩
    obtain ⟨bytes, same⟩ := exists_map_eq_encode (by omega) digits
    have lengths := length_of_map_eq_encode same
    exact ⟨bytes, same, by omega⟩

end Hex

/-! ### Diagnoses -/

/-- How a text in place of a digest and salt of `expected` bytes is diagnosed. Each of the three
defects counts only where the text has none of those before it. -/
inductive Diagnosed (expected : Nat) (t : Bytes) : String → Prop
  | odd (odd : t.length % 2 = 1) : Diagnosed expected t "Odd number of digits"
  | noDigit {i : Nat} {b : UInt8} (even : t.length % 2 = 0) (here : t[i]? = some b)
      (noDigit : ¬Hex.IsDigitByte b) (first : ∀ j d, j < i → t[j]? = some d → Hex.IsDigitByte d) :
      Diagnosed expected t
        ("Invalid character " ++ Text.quoteChar (Char.ofUInt8 b) ++ " at position " ++ i.repr)
  | length {m : Nat} (count : t.length = 2 * m) (digits : ∀ b ∈ t, Hex.IsDigitByte b)
      (other : m ≠ expected) :
      Diagnosed expected t ("expected " ++ expected.repr ++ " bytes, found " ++ m.repr)

namespace DigestKind

variable {kind : DigestKind} {o : Overflow} {plaintext stored text : String}

/-- What cannot be read is diagnosed. -/
theorem exists_defect_message_iff {saltLength : Nat} :
    (∃ defect, kind.storedBytes saltLength stored = .error defect ∧ defect.message = text) ↔
      Diagnosed (kind.outputLength + saltLength) (Text.utf8 (Text.trim stored)) text := by
  constructor
  · rintro ⟨defect, unread, rfl⟩
    obtain ⟨cause, refused, rfl⟩ | ⟨bytes, read, other, rfl⟩ := storedBytes_eq_error_iff.1 unread
    · obtain ⟨odd, rfl⟩ | ⟨even, i, b, defect, rfl⟩ := Hex.decode_eq_error_iff.1 refused
      · exact .odd odd
      · obtain ⟨here, noDigit, first⟩ := Hex.isFirstDefect_iff.1 defect
        exact .noDigit even here noDigit first
    · obtain ⟨count, digits⟩ := Hex.exists_decode_iff.1 ⟨bytes, read, rfl⟩
      exact .length count digits other
  · intro diagnosed
    simp only [storedBytes_eq_error_iff]
    cases diagnosed with
    | odd odd =>
      exact ⟨_, .inl ⟨.oddLength, Hex.decode_eq_error_iff.2 (.inl ⟨odd, rfl⟩), rfl⟩, rfl⟩
    | noDigit even here noDigit first =>
      have defect := Hex.isFirstDefect_iff.2 ⟨here, noDigit, first⟩
      exact ⟨_, .inl ⟨.invalidDigit _ _,
        Hex.decode_eq_error_iff.2 (.inr ⟨even, _, _, defect, rfl⟩), rfl⟩, rfl⟩
    | length count digits other =>
      obtain ⟨bytes, read, rfl⟩ := Hex.exists_decode_iff.2 ⟨count, digits⟩
      exact ⟨_, .inr ⟨bytes, read, other, rfl⟩, rfl⟩

/-- A digest is refused with its diagnosis. -/
theorem exists_malformed_iff {saltLength : Nat} :
    (∃ defect, kind.check saltLength plaintext stored = .error (.malformedStoredValue defect) ∧
        defect.message = text) ↔
      Diagnosed (kind.outputLength + saltLength) (Text.utf8 (Text.trim stored)) text := by
  simp only [← exists_defect_message_iff, check_eq_error_iff, Error.malformedStoredValue.injEq,
    exists_eq_right']

theorem exists_answer_iff {saltLength : Nat} :
    (∃ answer, kind.check saltLength plaintext stored = .ok answer) ↔
      ∀ text,
        ¬Diagnosed (kind.outputLength + saltLength) (Text.utf8 (Text.trim stored)) text := by
  simp only [← exists_defect_message_iff, check_eq_match]
  cases kind.storedBytes saltLength stored with
  | ok bytes => simp
  | error defect => simp

/-- How the first defect of a stored value shows when a plaintext is checked against it. -/
structure Diagnoses (kind : DigestKind) (o : Overflow) (saltLength : UInt64)
    (plaintext stored : String) : Prop where
  /-- Verification fails where there is a defect, with the diagnosis for its message. -/
  refused (text : String) :
    (∃ defect, kind.verify o saltLength plaintext stored =
        some (.error (.malformedStoredValue defect)) ∧ defect.message = text) ↔
      Diagnosed (kind.outputLength + saltLength.toNat) (Text.utf8 (Text.trim stored)) text
  /-- Otherwise it does not fail. -/
  answered :
    (∃ answer, kind.verify o saltLength plaintext stored = some (.ok answer)) ↔
      ∀ text,
        ¬Diagnosed (kind.outputLength + saltLength.toNat) (Text.utf8 (Text.trim stored)) text
  /-- A codec reports just this message, under every algorithm that is a digest of this kind with a
  salt of this length. -/
  reported (c : Codec) (a : Algorithm) (text : String) :
    a.entry.digestKind? = some kind → a.entry.saltLength = saltLength.toNat →
      Diagnosed (kind.outputLength + saltLength.toNat) (Text.utf8 (Text.trim stored)) text →
        c.verify (some plaintext) (some a) (some stored) =
          ⟨false, [⟨.debug, "verification failed",
            [("algorithm", a.name), ("error", "malformed stored value: " ++ text)]⟩]⟩

/-- A codec reports the diagnosis. -/
theorem reported_of_diagnosed {c : Codec} {a : Algorithm} (digest : a.entry.digestKind? = some kind)
    (diagnosed : Diagnosed (kind.outputLength + a.entry.saltLength)
      (Text.utf8 (Text.trim stored)) text) :
    c.verify (some plaintext) (some a) (some stored) =
      ⟨false, [⟨.debug, "verification failed",
        [("algorithm", a.name), ("error", "malformed stored value: " ++ text)]⟩]⟩ := by
  have refused : ∃ defect, c.checkText plaintext a stored =
      .error (.malformedStoredValue defect) ∧ defect.message = text := by
    rw [Codec.checkText_digest digest]
    exact exists_malformed_iff.2 diagnosed
  obtain ⟨defect, checked, rfl⟩ := refused
  rw [Codec.verify, checked]
  rfl

theorem diagnoses_of_check {saltLength : UInt64}
    (same : kind.verify o saltLength plaintext stored =
      some (kind.check saltLength.toNat plaintext stored)) :
    kind.Diagnoses o saltLength plaintext stored where
  refused text := by
    simp only [same, Option.some.injEq]
    exact exists_malformed_iff
  answered := by
    simp only [same, Option.some.injEq]
    exact exists_answer_iff
  reported c a text digest salt diagnosed := reported_of_diagnosed digest (salt ▸ diagnosed)

theorem message_length_inj {expected expected' found : Nat} :
    (Defect.length expected found).message = (Defect.length expected' found).message ↔
      expected = expected' := by
  show "expected " ++ expected.repr ++ " bytes, found " ++ found.repr =
    "expected " ++ expected'.repr ++ " bytes, found " ++ found.repr ↔ _
  rw [String.append_left_inj, String.append_left_inj, String.append_right_inj]
  constructor
  · intro same
    have digits := congrArg String.toList same
    rw [Nat.toList_repr, Nat.toList_repr] at digits
    rw [← Nat.ofDigitChars_toDigits (n := expected) (by decide : 1 < 10) (Nat.le_refl 10), digits,
      Nat.ofDigitChars_toDigits (by decide) (Nat.le_refl 10)]
  · rintro rfl
    rfl

/-- Past the last machine word a numeral is not diagnosed: there is no message, or it names a length
that nobody asked for. -/
theorem not_diagnoses_of_not_fits {saltLength : UInt64} {bytes : Bytes}
    (read : Hex.decode (Text.utf8 (Text.trim stored)) = .ok bytes)
    (large : ¬kind.Fits saltLength) : ¬kind.Diagnoses o saltLength plaintext stored := by
  intro diagnoses
  cases unread : kind.storedBytes saltLength.toNat stored with
  | ok bytes =>
    have none : ∀ text, ¬Diagnosed (kind.outputLength + saltLength.toNat)
        (Text.utf8 (Text.trim stored)) text := by
      simp [← exists_defect_message_iff, unread]
    obtain ⟨answer, answered⟩ := diagnoses.answered.2 none
    exact nomatch ((verify_eq_some_iff_of_not_fits read large).1 answered).2.2
  | error defect =>
    obtain ⟨found, refused, message⟩ :=
      (diagnoses.refused defect.message).2 (exists_defect_message_iff.1 ⟨defect, unread, rfl⟩)
    obtain ⟨-, -, wrapped⟩ := (verify_eq_some_iff_of_not_fits read large).1 refused
    cases wrapped
    obtain ⟨cause, failed, -⟩ | ⟨bytes', read', -, rfl⟩ := storedBytes_eq_error_iff.1 unread
    · cases read.symm.trans failed
    · cases read.symm.trans read'
      have same := message_length_inj.1 message
      rw [Fits, Nat.not_lt] at large
      simp only [UInt64.size] at large same
      omega

/-- A malformed digest is diagnosed by its first defect, whatever else is wrong with it and whatever
the plaintext, for every salt with which the length of the digest is still a machine word. For
longer salts this fails for all numerals, and for them only. -/
theorem first_defect_diagnosed_iff (kind : DigestKind) (o : Overflow) (saltLength : UInt64)
    (plaintext stored : String) :
    kind.Diagnoses o saltLength plaintext stored ↔
      kind.Fits saltLength ∨ ∀ m, ¬Hex.IsNumeral (2 * m) (Text.trim stored) := by
  constructor
  · intro diagnoses
    by_contra neither
    obtain ⟨large, numeral⟩ := not_or.1 neither
    simp only [not_forall, not_not, Hex.isNumeral_iff] at numeral
    obtain ⟨m, bytes, -, same⟩ := numeral
    exact not_diagnoses_of_not_fits (Hex.decode_utf8_eq_ok_iff.2 same) large diagnoses
  · intro h
    exact diagnoses_of_check (verify_eq_check h)

/-- The empty value is of too few bytes for every salt. At the first salt that is too long the
program stops instead of refusing it, and at the last one it may give a message about another
length. -/
theorem not_diagnoses_of_empty :
    (∀ o, DigestKind.md5.verify o 18446744073709551600 "p" "" = none) ∧
      DigestKind.md5.verify .stop 18446744073709551615 "p" "" = none ∧
      DigestKind.md5.verify .wrap 18446744073709551615 "p" "" =
        some (.error (.malformedStoredValue (.length 15 0))) ∧
      ∀ o, ¬DigestKind.md5.Diagnoses o 18446744073709551600 "p" "" ∧
        ¬DigestKind.md5.Diagnoses o 18446744073709551615 "p" "" := by
  refine ⟨fun o => by cases o <;> rfl, rfl, rfl, fun o => ?_⟩
  have read : Hex.decode (Text.utf8 (Text.trim "")) = .ok [] := by decide +kernel
  constructor
  · exact not_diagnoses_of_not_fits read (by decide)
  · exact not_diagnoses_of_not_fits read (by decide)

/-- A letter outside ASCII and one that is no digit, in a text that is too short, after a blank of two
bytes. The letter has two bytes, and the first of them is reported, as if it were a character. -/
example :
    (({} : Codec).verify (some "") (some .sha1) (some "\u00a0A0é0G")).events =
      [⟨.debug, "verification failed", [("algorithm", "SHA1"),
        ("error", "malformed stored value: Invalid character 'Ã' at position 2")]⟩] := by
  decide +kernel

end DigestKind

end SecretCodec

import SecretCodec.Proofs.Digest.Acceptance

/-!
# Salts of any length

The length of a salt is a machine word, and the length of a digest is added to it. While the sum is
a machine word as well (`Fits`), verification is the check of numbers, and so it is for a stored
value that is no numeral, which is refused before the sum is taken (`verify_eq_check`). For a numeral
of any length the sum is taken. If it overflows then, the program stops, or it goes on with a sum
that is too small by 2^64; and it still stops if the numeral has just that length
(`verify_eq_some_iff_of_not_fits`).

`verify_exact_iff` says for which lengths and which stored values verification is exact.
-/

namespace SecretCodec

namespace Overflow

variable {o : Overflow} {a b : UInt64}

theorem exists_add_of_lt (fits : a.toNat + b.toNat < UInt64.size) :
    ∃ s, o.add a b = some s ∧ s.toNat = a.toNat + b.toNat := by
  refine ⟨a + b, ?_, ?_⟩
  · cases o with
    | stop => rw [add, if_pos fits]
    | wrap => rfl
  · rw [UInt64.toNat_add]
    exact Nat.mod_eq_of_lt fits

theorem add_stop_of_le (large : UInt64.size ≤ a.toNat + b.toNat) : stop.add a b = none :=
  if_neg (Nat.not_lt.2 large)

theorem exists_add_wrap_of_le (large : UInt64.size ≤ a.toNat + b.toNat) :
    ∃ s, wrap.add a b = some s ∧ s.toNat + UInt64.size = a.toNat + b.toNat := by
  refine ⟨a + b, rfl, ?_⟩
  have first := a.toNat_lt
  have second := b.toNat_lt
  rw [UInt64.toNat_add]
  simp only [UInt64.size] at large ⊢
  omega

end Overflow

namespace DigestKind

variable {kind : DigestKind} {o : Overflow} {saltLength : UInt64} {plaintext stored : String}
  {bytes : Bytes} {result : Except Error Bool} {m : Nat}

/-- Whether the length of a digest with its salt is a machine word. -/
def Fits (kind : DigestKind) (saltLength : UInt64) : Prop :=
  kind.outputLength + saltLength.toNat < UInt64.size

instance (kind : DigestKind) (saltLength : UInt64) : Decidable (kind.Fits saltLength) :=
  inferInstanceAs (Decidable (_ < _))

theorem toNat_outputLength (kind : DigestKind) :
    (UInt64.ofNat kind.outputLength).toNat = kind.outputLength := by
  cases kind <;> rfl

/-! ### Numerals -/

/-- A numeral has one length. -/
theorem isNumeral_iff_eq_length (read : Hex.decode (Text.utf8 (Text.trim stored)) = .ok bytes) :
    Hex.IsNumeral (2 * m) (Text.trim stored) ↔ bytes.length = m := by
  simp only [Hex.isNumeral_iff, ← Hex.decode_utf8_eq_ok_iff, read, Except.ok.injEq]
  constructor
  · rintro ⟨bytes, rfl, rfl⟩
    rfl
  · rintro rfl
    exact ⟨bytes, rfl, rfl⟩

/-! ### Verification with a machine word -/

theorem verify_of_decode (read : Hex.decode (Text.utf8 (Text.trim stored)) = .ok bytes) :
    kind.verify o saltLength plaintext stored =
      (o.add (UInt64.ofNat kind.outputLength) saltLength).bind fun expected =>
        if bytes.length = expected.toNat ∧ bytes.length < kind.outputLength then none
        else some (kind.checkBytes expected.toNat plaintext bytes) := by
  rw [verify, read]
  rfl

/-- Verification takes numbers where the sum is a machine word, and where it is not taken. -/
theorem verify_eq_check
    (h : kind.Fits saltLength ∨ ∀ m, ¬Hex.IsNumeral (2 * m) (Text.trim stored)) :
    kind.verify o saltLength plaintext stored =
      some (kind.check saltLength.toNat plaintext stored) := by
  cases read : Hex.decode (Text.utf8 (Text.trim stored)) with
  | error cause => rw [verify, check, read]
  | ok bytes =>
    have fits := h.resolve_right fun noNumeral => noNumeral _ ((isNumeral_iff_eq_length read).2 rfl)
    rw [Fits, ← toNat_outputLength] at fits
    obtain ⟨expected, sum, value⟩ := Overflow.exists_add_of_lt (o := o) fits
    rw [toNat_outputLength] at value
    have whole : ¬(bytes.length = expected.toNat ∧ bytes.length < kind.outputLength) := by
      omega
    rw [verify_of_decode read, sum, Option.bind_some, if_neg whole, check, read, value]

/-- Past the last machine word a numeral has an answer in one case only, and that is a refusal. It
names a length that is too small by 2^64. -/
theorem verify_eq_some_iff_of_not_fits
    (read : Hex.decode (Text.utf8 (Text.trim stored)) = .ok bytes)
    (large : ¬kind.Fits saltLength) :
    kind.verify o saltLength plaintext stored = some result ↔
      o = .wrap ∧ bytes.length + UInt64.size ≠ kind.outputLength + saltLength.toNat ∧
        result = .error (.malformedStoredValue
          (.length (kind.outputLength + saltLength.toNat - UInt64.size) bytes.length)) := by
  rw [Fits, ← toNat_outputLength, Nat.not_lt] at large
  rw [verify_of_decode read]
  cases o with
  | stop => simp [Overflow.add_stop_of_le large]
  | wrap =>
    obtain ⟨expected, sum, value⟩ := Overflow.exists_add_wrap_of_le large
    rw [toNat_outputLength] at value
    have small : expected.toNat < kind.outputLength := by
      have word := saltLength.toNat_lt
      simp only [UInt64.size] at value
      omega
    rw [sum, Option.bind_some]
    by_cases found : bytes.length = expected.toNat
    · rw [if_pos ⟨found, found ▸ small⟩]
      refine iff_of_false nofun ?_
      rintro ⟨-, other, -⟩
      exact other (found ▸ value)
    · have other : bytes.length + UInt64.size ≠ kind.outputLength + saltLength.toNat := by
        omega
      rw [if_neg (found ·.1), checkBytes, if_pos found, Option.some.injEq, ← value,
        Nat.add_sub_cancel]
      simp only [value, other, eq_comm, ne_eq, true_and, not_false_eq_true]

/-- What is refused is no numeral, or is said not to have a length that is a machine word. -/
theorem verify_eq_error {cause : Error}
    (refused : kind.verify o saltLength plaintext stored = some (.error cause)) :
    (∃ reason, Hex.decode (Text.utf8 (Text.trim stored)) = .error reason ∧
        cause = .malformedStoredValue (.hex reason)) ∨
      ∃ (bytes : Bytes) (expected : UInt64),
        Hex.decode (Text.utf8 (Text.trim stored)) = .ok bytes ∧
          cause = .malformedStoredValue (.length expected.toNat bytes.length) := by
  cases read : Hex.decode (Text.utf8 (Text.trim stored)) with
  | error reason =>
    rw [verify, read] at refused
    cases refused
    exact .inl ⟨reason, rfl, rfl⟩
  | ok bytes =>
    rw [verify_of_decode read, Option.bind_eq_some_iff] at refused
    obtain ⟨expected, -, answer⟩ := refused
    split at answer
    · cases answer
    · rw [checkBytes] at answer
      split at answer
      · cases answer
        exact .inr ⟨bytes, expected, rfl, rfl⟩
      · cases answer

/-! ### Exactness -/

/-- What is to be expected of a verification of stored digests. -/
structure IsExact (kind : DigestKind) (o : Overflow) (saltLength : UInt64)
    (plaintext stored : String) : Prop where
  /-- What is accepted are the stored forms of the plaintext under a salt of the given length. -/
  accepted :
    kind.verify o saltLength plaintext stored = some (.ok true) ↔
      kind.Stores saltLength.toNat plaintext (Text.trim stored)
  /-- Without salt it is the one stored form there is. -/
  plain :
    saltLength = 0 →
      (kind.verify o saltLength plaintext stored = some (.ok true) ↔
        (Text.trim stored).toUpper = kind.encodePlain plaintext)
  /-- The answer is no for all other numerals of that length. -/
  denied :
    kind.verify o saltLength plaintext stored = some (.ok false) ↔
      Hex.IsNumeral (kind.storedDigits saltLength.toNat) (Text.trim stored) ∧
        ¬kind.Stores saltLength.toNat plaintext (Text.trim stored)
  /-- Everything else is refused as malformed, whatever the plaintext. -/
  refused :
    (∃ defect, ∀ other, kind.verify o saltLength other stored =
        some (.error (.malformedStoredValue defect))) ↔
      ¬Hex.IsNumeral (kind.storedDigits saltLength.toNat) (Text.trim stored)

/-- What is accepted without salt follows from what is accepted in general. -/
theorem isExact_of_accepted
    (accepted : kind.verify o saltLength plaintext stored = some (.ok true) ↔
      kind.Stores saltLength.toNat plaintext (Text.trim stored))
    (denied : kind.verify o saltLength plaintext stored = some (.ok false) ↔
      Hex.IsNumeral (kind.storedDigits saltLength.toNat) (Text.trim stored) ∧
        ¬kind.Stores saltLength.toNat plaintext (Text.trim stored))
    (refused : (∃ defect, ∀ other, kind.verify o saltLength other stored =
        some (.error (.malformedStoredValue defect))) ↔
      ¬Hex.IsNumeral (kind.storedDigits saltLength.toNat) (Text.trim stored)) :
    kind.IsExact o saltLength plaintext stored where
  accepted := accepted
  plain := by
    rintro rfl
    exact accepted.trans stores_zero_iff
  denied := denied
  refused := refused

theorem isExact_of_check (same : ∀ other,
      kind.verify o saltLength other stored = some (kind.check saltLength.toNat other stored)) :
    kind.IsExact o saltLength plaintext stored := by
  apply isExact_of_accepted
  · rw [same, Option.some.injEq, check_eq_ok_true_iff]
  · rw [same, Option.some.injEq, check_eq_ok_iff, Bool.false_eq_true, false_iff]
  · simp only [same, Option.some.injEq]
    exact exists_defect_iff

theorem isExact_of_refused {defect : Defect}
    (refused : ∀ other,
      kind.verify o saltLength other stored = some (.error (.malformedStoredValue defect)))
    (noNumeral : ¬Hex.IsNumeral (kind.storedDigits saltLength.toNat) (Text.trim stored)) :
    kind.IsExact o saltLength plaintext stored := by
  apply isExact_of_accepted
  · rw [refused]
    exact iff_of_false (by simp) (mt isNumeral_of_stores noNumeral)
  · rw [refused]
    exact iff_of_false (by simp) fun denied => noNumeral denied.1
  · exact iff_of_true ⟨defect, refused⟩ noNumeral

theorem isExact_iff_of_not_fits
    (read : Hex.decode (Text.utf8 (Text.trim stored)) = .ok bytes)
    (large : ¬kind.Fits saltLength) :
    kind.IsExact o saltLength plaintext stored ↔
      o = .wrap ∧ bytes.length ≠ kind.outputLength + saltLength.toNat ∧
        bytes.length + UInt64.size ≠ kind.outputLength + saltLength.toNat := by
  constructor
  · intro isExact
    have unanswered (answer : Bool) :
        kind.verify o saltLength plaintext stored ≠ some (.ok answer) := fun answered =>
      nomatch ((verify_eq_some_iff_of_not_fits read large).1 answered).2.2
    have noNumeral : ¬Hex.IsNumeral (kind.storedDigits saltLength.toNat) (Text.trim stored) := by
      intro numeral
      by_cases stores : kind.Stores saltLength.toNat plaintext (Text.trim stored)
      · exact unanswered _ (isExact.accepted.2 stores)
      · exact unanswered _ (isExact.denied.2 ⟨numeral, stores⟩)
    obtain ⟨defect, refused⟩ := isExact.refused.2 noNumeral
    obtain ⟨wraps, other, -⟩ := (verify_eq_some_iff_of_not_fits read large).1 (refused plaintext)
    exact ⟨wraps, mt (isNumeral_iff_eq_length read).2 noNumeral, other⟩
  · rintro ⟨wraps, asked, other⟩
    exact isExact_of_refused
      (fun _ => (verify_eq_some_iff_of_not_fits read large).2 ⟨wraps, other, rfl⟩)
      (mt (isNumeral_iff_eq_length read).1 asked)

/-- Verification is exact where the length of a digest with its salt is a machine word, and where
there is no numeral to read. Past the last machine word it is not, unless the program goes on
without the carry and the numeral has neither the length that is asked for nor the one without the
carry. -/
theorem verify_exact_iff (kind : DigestKind) (o : Overflow) (saltLength : UInt64)
    (plaintext stored : String) :
    kind.IsExact o saltLength plaintext stored ↔
      kind.Fits saltLength ∨ ∀ m, Hex.IsNumeral (2 * m) (Text.trim stored) →
        o = .wrap ∧ m ≠ kind.outputLength + saltLength.toNat ∧
          m + UInt64.size ≠ kind.outputLength + saltLength.toNat := by
  by_cases fits : kind.Fits saltLength
  · exact iff_of_true (isExact_of_check fun _ => verify_eq_check (.inl fits)) (.inl fits)
  rw [or_iff_right fits]
  cases read : Hex.decode (Text.utf8 (Text.trim stored)) with
  | error cause =>
    have noNumeral (m : Nat) : ¬Hex.IsNumeral (2 * m) (Text.trim stored) := by
      rw [Hex.isNumeral_iff]
      rintro ⟨bytes, -, same⟩
      cases read.symm.trans (Hex.decode_utf8_eq_ok_iff.2 same)
    exact iff_of_true (isExact_of_check fun _ => verify_eq_check (.inr noNumeral))
      fun m numeral => (noNumeral m numeral).elim
  | ok bytes =>
    rw [isExact_iff_of_not_fits read fits]
    constructor
    · intro conditions m numeral
      cases (isNumeral_iff_eq_length read).1 numeral
      exact conditions
    · intro h
      exact h _ ((isNumeral_iff_eq_length read).2 rfl)

/-- With a salt so long that the sum is just past the last machine word, the empty value has none
of the digits that are asked for. It is not refused, since the program stops. -/
theorem not_isExact_of_stops :
    (∀ o, DigestKind.md5.verify o 18446744073709551600 "p" "" = none) ∧
      ∀ o, ¬DigestKind.md5.IsExact o 18446744073709551600 "p" "" := by
  have stops (o : Overflow) : DigestKind.md5.verify o 18446744073709551600 "p" "" = none := by
    cases o <;> rfl
  refine ⟨stops, fun o isExact => ?_⟩
  have noNumeral : ¬Hex.IsNumeral
      (md5.storedDigits (18446744073709551600 : UInt64).toNat) (Text.trim "") :=
    fun numeral => absurd numeral.1 (by decide +kernel)
  obtain ⟨defect, refused⟩ := isExact.refused.2 noNumeral
  cases (stops o).symm.trans (refused "p")

end DigestKind

end SecretCodec

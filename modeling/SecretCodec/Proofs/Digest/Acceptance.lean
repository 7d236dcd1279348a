import SecretCodec.Digest.Stored
import SecretCodec.Proofs.Hex.Reading

/-!
# Which stored digests are accepted

A stored value is first read, and only then compared with the plaintext (`check_eq_match`). What
can be read are the numerals of one length (`isNumeral_iff_storedBytes`); all else is refused,
whatever the plaintext. A numeral of that length splits in one way into a digest and a salt, and it
is accepted exactly when it is the stored form of the plaintext under that salt (`stores_iff`).
Neither the case of the digits nor blanks around them matter.
-/

namespace SecretCodec.DigestKind

variable {kind : DigestKind} {saltLength : Nat} {plaintext stored t : String} {bytes : Bytes}

/-- A text that is, up to the case of its letters, the stored form of a plaintext under some salt of
the given length. -/
def Stores (kind : DigestKind) (saltLength : Nat) (plaintext t : String) : Prop :=
  ∃ salt : Bytes, salt.length = saltLength ∧ t.toUpper = kind.encodeWithSalt plaintext salt

/-- The number of digits of a stored digest with its salt. -/
def storedDigits (kind : DigestKind) (saltLength : Nat) : Nat := 2 * (kind.outputLength + saltLength)

/-- A digest without salt is one with the empty salt. -/
theorem encodeWithSalt_nil (kind : DigestKind) (plaintext : String) :
    kind.encodeWithSalt plaintext [] = kind.encodePlain plaintext := by
  rw [encodeWithSalt, encodePlain, List.append_nil, digest_eq, digest_eq]
  rfl

theorem stores_zero_iff : kind.Stores 0 plaintext t ↔ t.toUpper = kind.encodePlain plaintext := by
  constructor
  · rintro ⟨salt, none, same⟩
    rw [List.eq_nil_of_length_eq_zero none, encodeWithSalt_nil] at same
    exact same
  · intro same
    exact ⟨[], rfl, by rw [encodeWithSalt_nil, same]⟩

/-- The bytes of a numeral of the right length begin with the digest and end with the salt. -/
theorem stores_iff (read : t.toUpper = Hex.text bytes)
    (size : bytes.length = kind.outputLength + saltLength) :
    kind.Stores saltLength plaintext t ↔
      kind.digest [Text.utf8 plaintext, bytes.drop kind.outputLength] =
        bytes.take kind.outputLength := by
  constructor
  · rintro ⟨salt, -, same⟩
    have split : bytes = kind.digest [Text.utf8 plaintext, salt] ++ salt :=
      Hex.text_injective (read.symm.trans same)
    have length := kind.length_digest [Text.utf8 plaintext, salt]
    rw [split, List.take_left' length, List.drop_left' length]
  · intro same
    refine ⟨bytes.drop kind.outputLength, ?_, ?_⟩
    · rw [List.length_drop, size, Nat.add_sub_cancel_left]
    · rw [read, encodeWithSalt, same, List.take_append_drop]

/-! ### What is read before the plaintext is looked at -/

/-- The digest and the salt that a stored value spells, or what is wrong with it. -/
def storedBytes (kind : DigestKind) (saltLength : Nat) (stored : String) : Except Defect Bytes :=
  match Hex.decode (Text.utf8 (Text.trim stored)) with
  | .error cause => .error (.hex cause)
  | .ok bytes =>
    if bytes.length = kind.outputLength + saltLength then .ok bytes
    else .error (.length (kind.outputLength + saltLength) bytes.length)

/-- The plaintext plays no part until the stored value has been read. -/
theorem check_eq_match (kind : DigestKind) (saltLength : Nat) (plaintext stored : String) :
    kind.check saltLength plaintext stored =
      match kind.storedBytes saltLength stored with
      | .error defect => .error (.malformedStoredValue defect)
      | .ok bytes => .ok (kind.digest [Text.utf8 plaintext, bytes.drop kind.outputLength] =
          bytes.take kind.outputLength) := by
  rw [check, storedBytes]
  cases Hex.decode (Text.utf8 (Text.trim stored)) with
  | error cause => rfl
  | ok bytes =>
    by_cases size : bytes.length = kind.outputLength + saltLength
    · simp [checkBytes, size]
    · simp [checkBytes, size]

/-- A digest is refused for a defect of the stored value and for nothing else. -/
theorem check_eq_error_iff {cause : Error} :
    kind.check saltLength plaintext stored = .error cause ↔
      ∃ defect, kind.storedBytes saltLength stored = .error defect ∧
        cause = .malformedStoredValue defect := by
  rw [check_eq_match]
  cases kind.storedBytes saltLength stored with
  | error defect => simp [eq_comm]
  | ok bytes => simp

theorem storedBytes_eq_ok_iff :
    kind.storedBytes saltLength stored = .ok bytes ↔
      (Text.trim stored).toUpper = Hex.text bytes ∧
        bytes.length = kind.outputLength + saltLength := by
  rw [← Hex.decode_utf8_eq_ok_iff, storedBytes]
  cases Hex.decode (Text.utf8 (Text.trim stored)) with
  | error cause => simp
  | ok found =>
    by_cases size : found.length = kind.outputLength + saltLength
    · simp only [if_pos size, Except.ok.injEq]
      constructor
      · rintro rfl
        exact ⟨rfl, size⟩
      · exact And.left
    · simp only [if_neg size, Except.ok.injEq]
      constructor
      · nofun
      · rintro ⟨rfl, fits⟩
        exact (size fits).elim

/-- A value that cannot be read is no numeral of whole bytes, or one of another length. -/
theorem storedBytes_eq_error_iff {defect : Defect} :
    kind.storedBytes saltLength stored = .error defect ↔
      (∃ cause, Hex.decode (Text.utf8 (Text.trim stored)) = .error cause ∧ defect = .hex cause) ∨
        ∃ bytes, Hex.decode (Text.utf8 (Text.trim stored)) = .ok bytes ∧
          bytes.length ≠ kind.outputLength + saltLength ∧
          defect = .length (kind.outputLength + saltLength) bytes.length := by
  rw [storedBytes]
  cases Hex.decode (Text.utf8 (Text.trim stored)) with
  | error cause => simp [eq_comm]
  | ok bytes =>
    by_cases size : bytes.length = kind.outputLength + saltLength
    · simp [size]
    · simp [size, eq_comm]

/-- The values that can be read are the numerals of the right length. -/
theorem isNumeral_iff_storedBytes :
    Hex.IsNumeral (kind.storedDigits saltLength) (Text.trim stored) ↔
      ∃ bytes, kind.storedBytes saltLength stored = .ok bytes := by
  simp only [storedDigits, Hex.isNumeral_iff, storedBytes_eq_ok_iff, and_comm]

/-! ### The three classes -/

theorem isNumeral_of_stores (h : kind.Stores saltLength plaintext (Text.trim stored)) :
    Hex.IsNumeral (kind.storedDigits saltLength) (Text.trim stored) := by
  obtain ⟨salt, length, same⟩ := h
  refine isNumeral_iff_storedBytes.2 ⟨_, storedBytes_eq_ok_iff.2 ⟨same, ?_⟩⟩
  rw [List.length_append, length_digest, length]

theorem check_eq_ok_iff {answer : Bool} :
    kind.check saltLength plaintext stored = .ok answer ↔
      Hex.IsNumeral (kind.storedDigits saltLength) (Text.trim stored) ∧
        (answer = true ↔ kind.Stores saltLength plaintext (Text.trim stored)) := by
  rw [isNumeral_iff_storedBytes]
  cases read : kind.storedBytes saltLength stored with
  | error defect => simp [check_eq_match, read]
  | ok bytes =>
    obtain ⟨same, size⟩ := storedBytes_eq_ok_iff.1 read
    simp only [check_eq_match, read, stores_iff same size]
    cases answer <;> simp

theorem check_eq_ok_true_iff :
    kind.check saltLength plaintext stored = .ok true ↔
      kind.Stores saltLength plaintext (Text.trim stored) := by
  rw [check_eq_ok_iff]
  constructor
  · rintro ⟨-, same⟩
    exact same.1 rfl
  · intro stores
    exact ⟨isNumeral_of_stores stores, iff_of_true rfl stores⟩

/-- A stored form is accepted with every salt of the given length. -/
theorem check_encodeWithSalt {salt : Bytes} (length : salt.length = saltLength) :
    kind.check saltLength plaintext (kind.encodeWithSalt plaintext salt) = .ok true := by
  refine check_eq_ok_true_iff.2 ⟨salt, length, ?_⟩
  rw [encodeWithSalt, Hex.trim_text, Hex.toUpper_text]

theorem exists_defect_iff :
    (∃ defect, ∀ plaintext,
        kind.check saltLength plaintext stored = .error (.malformedStoredValue defect)) ↔
      ¬Hex.IsNumeral (kind.storedDigits saltLength) (Text.trim stored) := by
  rw [isNumeral_iff_storedBytes]
  cases read : kind.storedBytes saltLength stored with
  | error defect => simp [check_eq_match, read]
  | ok bytes => simp [check_eq_match, read]

end SecretCodec.DigestKind

import SecretCodec.Proofs.Bcrypt.Refusal
import SecretCodec.Proofs.Codec.Verification
import SecretCodec.Proofs.Text.Containment

/-!
# The forms of stored values

What is stored under an algorithm has a form by which it can be told from what is stored under
others (`HasForm`): the number of hexadecimal digits, dollar signs, or whole blocks in base64. A
value is only accepted under an algorithm if it has that algorithm's form, whatever the key and the
plaintext (`hasForm_of_checkText`). Two forms have a text in common only for algorithms that do the
same under two names, and for the cipher and a digest whose digits are also the symbols of whole
blocks (`same_or_overlaps`, `isBlocks_iff_of_isNumeral`). So nothing is accepted under an algorithm
that was written under another (`verify_eq_false_of_encode`).
-/

namespace SecretCodec

namespace Algorithm

variable {a b : Algorithm} {kind : DigestKind} {t : String} {n : Nat} {bytes : Bytes}

/-- The two names of each algorithm that has two. -/
def aliases : List (Algorithm × Algorithm) :=
  [(.sha, .sha1), (.saltedSha1, .saltedSha1Alias)]

/-- Whether two names stand for the same algorithm. -/
def Same (a b : Algorithm) : Prop := a = b ∨ (a, b) ∈ aliases ∨ (b, a) ∈ aliases

instance (a b : Algorithm) : Decidable (a.Same b) := inferInstanceAs (Decidable (_ ∨ _ ∨ _))

/-- The cipher and the digests of which a value's digits can be the symbols of whole blocks. -/
def overlaps : List (Algorithm × Algorithm) := [(.aes, .sha256), (.aes, .sha512)]

/-- Whether a text may have the forms of two algorithms. -/
def Overlaps (a b : Algorithm) : Prop := (a, b) ∈ overlaps ∨ (b, a) ∈ overlaps

instance (a b : Algorithm) : Decidable (a.Overlaps b) := inferInstanceAs (Decidable (_ ∨ _))

/-- Whole blocks in base64. -/
def IsBlocks (t : String) : Prop :=
  ∃ bytes : Bytes, bytes ≠ [] ∧ 16 ∣ bytes.length ∧ t = Base64.Alphabet.standard.text bytes

/-- The form of what is stored under an algorithm. -/
def HasForm (a : Algorithm) (t : String) : Prop :=
  match a.entry.shape with
  | .plainDigest kind | .saltedDigest kind =>
    Hex.IsNumeral (kind.storedDigits a.entry.saltLength) t
  | .adaptive => '$' ∈ t.toList
  | .reversible => IsBlocks t

theorem hasForm_digest (h : a.entry.digestKind? = some kind) :
    a.HasForm t ↔ Hex.IsNumeral (kind.storedDigits a.entry.saltLength) t := by
  obtain ⟨shape, -⟩ | shape := shape_of_digestKind? h
  · rw [HasForm, shape]
  · rw [HasForm, shape]

/-! ### Texts of two forms -/

theorem dollar_not_mem_numeral (h : Hex.IsNumeral n t) : '$' ∉ t.toList := by
  intro dollar
  have digit := h.2 '$' dollar
  cases digit

theorem dollar_not_mem_blocks (h : IsBlocks t) : '$' ∉ t.toList := by
  obtain ⟨bytes, -, -, rfl⟩ := h
  have absent : ∀ s ∈ Base64.Alphabet.standard.symbols, Char.ofUInt8 s ≠ '$' := by decide +kernel
  exact Base64.Alphabet.standard.not_mem_text absent (by decide) bytes

/-- Every hexadecimal digit is a symbol of base64. -/
theorem mem_symbols_of_isNumeral (numeral : Hex.IsNumeral n t) :
    ∀ b ∈ Text.utf8 t, b ∈ Base64.Alphabet.standard.symbols := by
  have digits : ∀ m < 256, (Hex.value? m).isSome →
      UInt8.ofNat m ∈ Base64.Alphabet.standard.symbols := by
    decide +kernel
  intro b member
  obtain ⟨digit, known⟩ := Hex.forall_isDigit_iff.1 numeral.2 b member
  rw [← UInt8.ofNat_toNat (x := b)]
  exact digits b.toNat b.toNat_lt (Option.isSome_of_eq_some known)

/-- The pad byte is no digit, so the length of a numeral that is base64 says how many bytes it stands
for there. -/
theorem length_of_isNumeral_text {bytes : Bytes}
    (numeral : Hex.IsNumeral (2 * n) (Base64.Alphabet.standard.text bytes)) :
    2 * bytes.length = 3 * n := by
  have symbols := mem_symbols_of_isNumeral numeral
  have count := Hex.length_utf8_of_isDigit numeral.2
  rw [numeral.1, Base64.Alphabet.utf8_text, Base64.Alphabet.length_encode] at count
  rw [Base64.Alphabet.utf8_text] at symbols
  have unpadded : Base64.pad ∉ Base64.Alphabet.standard.encode bytes :=
    fun member => Base64.Alphabet.standard.pad_not_mem (symbols _ member)
  have groups := Base64.Alphabet.standard.dvd_length_of_pad_not_mem rfl unpadded
  change 4 * ((bytes.length + 2) / 3) = 2 * n at count
  omega

/-- Digits are whole blocks exactly if they are whole groups of three blocks, which have sixty-four
symbols. -/
theorem isBlocks_iff_of_isNumeral (pos : 0 < n) (numeral : Hex.IsNumeral (2 * n) t) :
    IsBlocks t ↔ 32 ∣ n := by
  constructor
  · rintro ⟨bytes, -, whole, rfl⟩
    have length := length_of_isNumeral_text numeral
    omega
  · intro whole
    have count : (Text.utf8 t).length = 2 * n := by
      rw [Hex.length_utf8_of_isDigit numeral.2, numeral.1]
    obtain ⟨bytes, written⟩ := Base64.Alphabet.standard.exists_encode_of_symbols
      (mem_symbols_of_isNumeral numeral) (by omega)
    have same : t = Base64.Alphabet.standard.text bytes := by
      rw [← Text.utf8_inj, Base64.Alphabet.utf8_text, written]
    have length := length_of_isNumeral_text (same ▸ numeral)
    refine ⟨bytes, ?_, by omega, same⟩
    rintro rfl
    rw [List.length_nil] at length
    omega

/-- Digests of one length are of the same algorithm. -/
theorem same_of_encodedLength? (ha : a.entry.encodedLength? = some n)
    (hb : b.entry.encodedLength? = some n) : a.Same b := by
  have lengths : ∀ a ∈ all, ∀ b ∈ all, a.entry.encodedLength?.isSome →
      a.entry.encodedLength? = b.entry.encodedLength? → a.Same b := by
    decide +kernel
  refine lengths a (mem_all a) b (mem_all b) ?_ (ha.trans hb.symm)
  rw [ha]
  rfl

theorem overlaps_of_encodedLength? (h : a.entry.encodedLength? = some n) (whole : 32 ∣ n) :
    Overlaps .aes a := by
  have lengths : ∀ a ∈ all, ∀ n ∈ a.entry.encodedLength?, 32 ∣ n → Overlaps .aes a := by
    decide +kernel
  exact lengths a (mem_all a) n h whole

theorem encodedLength?_digest (h : a.entry.digestKind? = some kind) :
    a.entry.encodedLength? = some (kind.outputLength + a.entry.saltLength) := by
  rw [Entry.encodedLength?, Entry.digestLength?, h]
  rfl

theorem same_or_overlaps_of_digest (ha : a.entry.digestKind? = some kind)
    (numeral : Hex.IsNumeral (kind.storedDigits a.entry.saltLength) t) (hb : b.HasForm t) :
    a.Same b ∨ b.Overlaps a := by
  have lengthA := encodedLength?_digest ha
  obtain ⟨other, digest⟩ | rfl | rfl := b.digest_or_bcrypt_or_aes
  · obtain ⟨count, -⟩ := numeral
    obtain ⟨sameCount, -⟩ := (hasForm_digest digest).1 hb
    have lengths : kind.outputLength + a.entry.saltLength =
        other.outputLength + b.entry.saltLength := by
      rw [count, DigestKind.storedDigits, DigestKind.storedDigits] at sameCount
      omega
    refine .inl (same_of_encodedLength? lengthA ?_)
    rw [lengths, encodedLength?_digest digest]
  · exact (dollar_not_mem_numeral numeral hb).elim
  · have pos : 0 < kind.outputLength + a.entry.saltLength := by
      cases kind <;> exact Nat.lt_add_right _ (by decide)
    have whole := (isBlocks_iff_of_isNumeral pos numeral).1 hb
    exact .inr (overlaps_of_encodedLength? lengthA whole)

theorem Same.symm (h : a.Same b) : b.Same a := by
  obtain rfl | forward | backward := h
  · exact .inl rfl
  · exact .inr (.inr forward)
  · exact .inr (.inl backward)

theorem Overlaps.symm (h : a.Overlaps b) : b.Overlaps a := Or.symm h

/-- A text has the forms of two algorithms only if they are the same or their forms overlap. -/
theorem same_or_overlaps (ha : a.HasForm t) (hb : b.HasForm t) : a.Same b ∨ a.Overlaps b := by
  obtain ⟨kind, digest⟩ | rfl | rfl := a.digest_or_bcrypt_or_aes
  · have numeral := (hasForm_digest digest).1 ha
    exact (same_or_overlaps_of_digest digest numeral hb).imp_right Overlaps.symm
  · obtain ⟨kind, digest⟩ | rfl | rfl := b.digest_or_bcrypt_or_aes
    · exact (dollar_not_mem_numeral ((hasForm_digest digest).1 hb) ha).elim
    · exact .inl (.inl rfl)
    · exact (dollar_not_mem_blocks hb ha).elim
  · obtain ⟨kind, digest⟩ | rfl | rfl := b.digest_or_bcrypt_or_aes
    · have numeral := (hasForm_digest digest).1 hb
      exact (same_or_overlaps_of_digest digest numeral ha).imp_left Same.symm
    · exact (dollar_not_mem_blocks ha hb).elim
    · exact .inl (.inl rfl)

end Algorithm

/-- Encryptions are whole blocks. -/
theorem SecretKey.isBlocks_encrypt (key : SecretKey) (plaintext : String) :
    Algorithm.IsBlocks (key.encrypt plaintext) := by
  refine ⟨_, ?_, ?_, rfl⟩
  · intro empty
    have length := congrArg List.length empty
    rw [Aes.KeySchedule.length_encryptBytes, List.length_nil] at length
    omega
  · rw [Aes.KeySchedule.length_encryptBytes]
    exact Nat.dvd_mul_right 16 _

namespace Codec

variable {c c' : Codec} {random : Entropy} {plaintext stored : String} {a b : Algorithm}

/-! ### What is accepted -/

/-- Whatever the key and the plaintext, only values of an algorithm's form are accepted under it. -/
theorem hasForm_of_checkText (h : c.checkText plaintext a stored = .ok true) :
    a.HasForm (Text.trim stored) := by
  obtain ⟨kind, digest⟩ | rfl | rfl := a.digest_or_bcrypt_or_aes
  · rw [checkText_digest digest, DigestKind.check_eq_ok_true_iff] at h
    exact (Algorithm.hasForm_digest digest).2 (DigestKind.isNumeral_of_stores h)
  · rw [checkText_bcrypt, Password.verify, mapError_eq_ok_iff, Bcrypt.verify, bind_eq_ok_iff] at h
    obtain ⟨parts, read, -⟩ := h
    obtain ⟨version, cost, symbols, same⟩ := Bcrypt.exists_pieces_of_parse read
    exact Text.mem_trim rfl (Bcrypt.dollar_mem_of_pieces same)
  · rw [checkText_aes_eq_bind] at h
    obtain ⟨key, -, accepted⟩ := bind_eq_ok_iff.1 h
    have read := SecretKey.verify_eq_ok_true_iff.1 accepted
    rw [Algorithm.HasForm, SecretKey.decrypt_eq_ok_iff.1 read]
    exact key.isBlocks_encrypt plaintext

/-- A verification that answers yes has been checked. -/
theorem checkText_of_verify
    (h : (c.verify (some plaintext) (some a) (some stored)).value = true) :
    c.checkText plaintext a stored = .ok true := by
  rw [verify] at h
  split at h
  · next answer checked =>
    rw [checked]
    exact congrArg Except.ok h
  · cases h

/-- What was written under one algorithm is not accepted under another, by any codec and for any
plaintext, not even the one that was written. -/
theorem verify_eq_false_of_encode {other : String} (distinct : ¬a.Same b) (apart : ¬a.Overlaps b)
    (written : c.encode random (some plaintext) (some a) = .ok (some stored)) :
    (c'.verify (some other) (some b) (some stored)).value = false := by
  rw [encode_some_eq_ok_iff] at written
  have own : c.checkText plaintext a stored = .ok true :=
    checkText_of_encodeText written fun _ => rfl
  rw [← Bool.not_eq_true]
  intro accepted
  have foreign := checkText_of_verify accepted
  have forms := Algorithm.same_or_overlaps (hasForm_of_checkText own) (hasForm_of_checkText foreign)
  exact forms.elim distinct apart

/-- A salted value under the name of the digest without salt. -/
theorem verify_salted_as_plain :
    let salted := DigestKind.sha512.encodeWithSalt "fabiano" (List.replicate 8 0)
    let writer : Codec := {}
    ¬Algorithm.Same .saltedSha512 .sha512 ∧ ¬Algorithm.Overlaps .saltedSha512 .sha512 ∧
      writer.encode (fun _ => 0) (some "fabiano") (some .saltedSha512) = .ok (some salted) ∧
      (writer.verify (some "fabiano") (some .sha512) (some salted)).value = false := by
  intro salted writer
  have distinct : ¬Algorithm.Same .saltedSha512 .sha512 := by decide
  have apart : ¬Algorithm.Overlaps .saltedSha512 .sha512 := by decide
  have written : writer.encode (fun _ => 0) (some "fabiano") (some .saltedSha512) =
      .ok (some salted) := encode_some_eq_ok_iff.2 (encodeText_digest rfl)
  exact ⟨distinct, apart, written, verify_eq_false_of_encode distinct apart written⟩

end Codec

end SecretCodec

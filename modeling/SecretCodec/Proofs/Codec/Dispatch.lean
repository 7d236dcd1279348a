import SecretCodec.Codec
import SecretCodec.Proofs.Bcrypt.Written
import SecretCodec.Proofs.Digest.Overflow
import SecretCodec.Proofs.SecretKey.Storage

/-!
# What a codec does under each algorithm

An algorithm is a digest, the password hash or the cipher (`digest_or_bcrypt_or_aes`), and a digest
without salt is one with a salt of no bytes. For each of the three this module says what is stored
and what a stored value is checked against, so that statements about a codec are proved in three
cases and not once for every algorithm.
-/

namespace SecretCodec

namespace Algorithm

variable {a : Algorithm} {kind : DigestKind}

theorem digest_or_bcrypt_or_aes (a : Algorithm) :
    (∃ kind, a.entry.digestKind? = some kind) ∨ a = .bcrypt ∨ a = .aes := by
  cases a <;> simp [entry, Entry.plain, Entry.salted, Entry.digestKind?]

/-- A digest has a shape of its kind, and no salt where the shape has none. -/
theorem shape_of_digestKind? (h : a.entry.digestKind? = some kind) :
    (a.entry.shape = .plainDigest kind ∧ a.entry.saltLength = 0) ∨
      a.entry.shape = .saltedDigest kind := by
  cases a <;> simp_all [entry, Entry.plain, Entry.salted, Entry.digestKind?]

end Algorithm

namespace Codec

variable {c : Codec} {random : Entropy} {plaintext stored : String} {a : Algorithm}

/-! ### Present input -/

theorem encode_some_eq_ok_iff :
    c.encode random (some plaintext) (some a) = .ok (some stored) ↔
      c.encodeText random plaintext a = .ok stored := by
  change (c.encodeText random plaintext a).map some = .ok (some stored) ↔ _
  simp [map_eq_ok_iff]

theorem decode_some_eq_ok_iff :
    c.decode (some stored) (some a) = .ok (some plaintext) ↔
      c.decodeText stored a = .ok plaintext := by
  change (c.decodeText stored a).map some = .ok (some plaintext) ↔ _
  simp [map_eq_ok_iff]

/-- What the check answers is passed on without events. -/
theorem verify_of_checkText {answer : Bool} (h : c.checkText plaintext a stored = .ok answer) :
    c.verify (some plaintext) (some a) (some stored) = { value := answer } := by
  rw [verify, h]

/-! ### Digests -/

section Digest

variable {kind : DigestKind}

theorem encodeText_digest (h : a.entry.digestKind? = some kind) :
    c.encodeText random plaintext a =
      .ok (kind.encodeWithSalt plaintext (random.draw a.entry.saltLength)) := by
  obtain ⟨shape, unsalted⟩ | shape := Algorithm.shape_of_digestKind? h
  · rw [encodeText, shape, unsalted]
    exact congrArg Except.ok (DigestKind.encodeWithSalt_nil kind plaintext).symm
  · rw [encodeText, shape]
    rfl

theorem checkText_digest (h : a.entry.digestKind? = some kind) :
    c.checkText plaintext a stored = kind.check a.entry.saltLength plaintext stored := by
  obtain ⟨shape, -⟩ | shape := Algorithm.shape_of_digestKind? h
  · rw [checkText, shape]
  · rw [checkText, shape]

/-- The salts of the catalog are short, so a codec answers what verification of a digest answers,
whatever is done at an overflow. -/
theorem verify_eq_checkText (h : a.entry.digestKind? = some kind) (o : Overflow) :
    kind.verify o (UInt64.ofNat a.entry.saltLength) plaintext stored =
      some (c.checkText plaintext a stored) := by
  have word : (UInt64.ofNat a.entry.saltLength).toNat = a.entry.saltLength := by
    cases a <;> rfl
  have fits : kind.Fits (UInt64.ofNat a.entry.saltLength) := by
    have output : kind.outputLength ≤ 64 := by cases kind <;> decide
    have salt : a.entry.saltLength ≤ 8 := by cases a <;> decide
    rw [DigestKind.Fits, word]
    exact Nat.lt_of_le_of_lt (Nat.add_le_add output salt) (by decide)
  rw [DigestKind.verify_eq_check (.inl fits), word, checkText_digest h]

end Digest

/-! ### The password hash -/

theorem encodeText_bcrypt :
    c.encodeText random plaintext .bcrypt = Password.hash c.bcryptCost random plaintext := rfl

theorem checkText_bcrypt :
    c.checkText plaintext .bcrypt stored = Password.verify plaintext stored := rfl

theorem encodeText_bcrypt_eq_ok_iff :
    c.encodeText random plaintext .bcrypt = .ok stored ↔
      Bcrypt.isCost c.bcryptCost ∧
        Bcrypt.encode c.bcryptCost (random.draw 16) plaintext = stored := by
  rw [encodeText_bcrypt, Password.hash, mapError_eq_ok_iff, Bcrypt.encodeFresh_eq_ok_iff]

/-- Any codec checks a password against a stored value by comparing two hashes. -/
theorem checkText_bcrypt_encode {cost : UInt32} {salt : Bytes} {other : String}
    (inRange : Bcrypt.isCost cost) (whole : salt.length = 16) :
    c.checkText other .bcrypt (Bcrypt.encode cost salt plaintext) =
      .ok (decide (Bcrypt.hash cost.toNat salt other = Bcrypt.hash cost.toNat salt plaintext)) := by
  rw [checkText_bcrypt, Password.verify, mapError_eq_ok_iff]
  exact Bcrypt.verify_encode inRange whole other

/-! ### The cipher -/

theorem encodeText_aes_eq_bind :
    c.encodeText random plaintext .aes =
      c.requireKey >>= fun key => pure (key.encrypt plaintext) := rfl

theorem decodeText_aes_eq_bind :
    c.decodeText stored .aes = c.requireKey >>= fun key => key.decrypt stored := rfl

theorem checkText_aes_eq_bind :
    c.checkText plaintext .aes stored =
      c.requireKey >>= fun key => key.verify plaintext stored := rfl

theorem requireKey_eq_ok_iff {key : SecretKey} : c.requireKey = .ok key ↔ c.key = some key := by
  rw [requireKey]
  cases c.key with
  | none => simp
  | some held => simp

theorem encodeText_aes_eq_ok_iff :
    c.encodeText random plaintext .aes = .ok stored ↔
      ∃ key, c.key = some key ∧ key.encrypt plaintext = stored := by
  rw [encodeText_aes_eq_bind, bind_eq_ok_iff]
  simp only [requireKey_eq_ok_iff, pure_eq_ok_iff]

theorem checkText_aes {key : SecretKey} (h : c.key = some key) :
    c.checkText plaintext .aes stored = key.verify plaintext stored := by
  rw [checkText_aes_eq_bind, requireKey_eq_ok_iff.2 h]
  rfl

end Codec

end SecretCodec

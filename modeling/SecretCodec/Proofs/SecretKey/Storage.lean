import Mathlib.Logic.Function.Defs
import SecretCodec.SecretKey
import SecretCodec.Proofs.Base64.Written
import SecretCodec.Proofs.Success

/-!
# Texts and their encryptions

Under every key, texts and their stored forms determine each other. A stored value is read exactly
if it is, up to blanks around it, the stored form of a text, and then it is read as that text
(`decrypt_eq_ok_iff`). Nothing else is read, and there is one way only in which reading fails
(`decrypt_error`).
-/

namespace SecretCodec.SecretKey

variable {key : SecretKey} {plaintext stored : String}

/-- Blanks apart, what is read as a text is the stored form of that text and nothing else. -/
theorem decrypt_eq_ok_iff :
    key.decrypt stored = .ok plaintext ↔ Text.trim stored = key.encrypt plaintext := by
  rw [encrypt, ← Base64.Alphabet.decode_utf8_eq_ok_iff, decrypt]
  cases Base64.Alphabet.standard.decode (Text.utf8 (Text.trim stored)) with
  | error cause => simp
  | ok encrypted =>
    simp only [Except.ok.injEq, ← Aes.KeySchedule.decryptBytes?_eq_some_iff]
    cases (Aes.KeySchedule.ofKey key.bytes).decryptBytes? encrypted with
    | none => simp
    | some bytes =>
      simp only [Option.some.injEq, ← Text.ofUtf8?_eq_some_iff]
      cases Text.ofUtf8? bytes with
      | none => simp
      | some text => simp

/-- Whatever keeps a stored value from being read, the failure is the same. -/
theorem decrypt_error {cause : Error} (h : key.decrypt stored = .error cause) :
    cause = .decryptionFailed := by
  rw [decrypt] at h
  split at h
  · cases h
    rfl
  · split at h
    · cases h
      rfl
    · split at h
      · cases h
        rfl
      · cases h

/-- Reading fails exactly on what is no stored form of a text. -/
theorem decrypt_eq_error_iff {cause : Error} :
    key.decrypt stored = .error cause ↔
      cause = .decryptionFailed ∧ ∀ plaintext, Text.trim stored ≠ key.encrypt plaintext := by
  constructor
  · intro failed
    refine ⟨decrypt_error failed, fun plaintext same => ?_⟩
    rw [decrypt_eq_ok_iff.2 same] at failed
    cases failed
  · rintro ⟨rfl, other⟩
    cases read : key.decrypt stored with
    | error cause => rw [decrypt_error read]
    | ok plaintext => exact (other plaintext (decrypt_eq_ok_iff.1 read)).elim

theorem verify_eq_error_iff {cause : Error} :
    key.verify plaintext stored = .error cause ↔
      cause = .decryptionFailed ∧ ∀ text, Text.trim stored ≠ key.encrypt text := by
  rw [verify, map_eq_error_iff, decrypt_eq_error_iff]

theorem verify_eq_ok_true_iff :
    key.verify plaintext stored = .ok true ↔ key.decrypt stored = .ok plaintext := by
  rw [verify, map_eq_ok_iff]
  constructor
  · rintro ⟨text, read, same⟩
    rw [read, of_decide_eq_true same]
  · intro read
    exact ⟨plaintext, read, decide_eq_true rfl⟩

@[simp] theorem trim_encrypt (key : SecretKey) (plaintext : String) :
    Text.trim (key.encrypt plaintext) = key.encrypt plaintext :=
  Base64.Alphabet.trim_text Base64.Alphabet.standard_isVisible _

theorem decrypt_encrypt (key : SecretKey) (plaintext : String) :
    key.decrypt (key.encrypt plaintext) = .ok plaintext :=
  decrypt_eq_ok_iff.2 (trim_encrypt key plaintext)

theorem encrypt_injective (key : SecretKey) : Function.Injective key.encrypt := by
  intro p q same
  have read := decrypt_encrypt key p
  rw [same, decrypt_encrypt] at read
  exact (Except.ok.inj read).symm

/-- Storage is exact under every key: a text that is read, a text that verifies and a text of which
this is, blanks apart, the stored form are the same text. So every text comes back, different texts
are stored differently, and a value that is no stored form is never read as some other text. -/
theorem storage_exact (key : SecretKey) :
    (∀ plaintext stored,
      (key.decrypt stored = .ok plaintext ↔ Text.trim stored = key.encrypt plaintext) ∧
      (key.verify plaintext stored = .ok true ↔ Text.trim stored = key.encrypt plaintext)) ∧
    (∀ plaintext, key.decrypt (key.encrypt plaintext) = .ok plaintext) ∧
    Function.Injective key.encrypt ∧
    ∀ stored, key.decrypt stored = .error .decryptionFailed ↔
      ∀ plaintext, Text.trim stored ≠ key.encrypt plaintext := by
  refine ⟨fun plaintext stored => ?_, decrypt_encrypt key, encrypt_injective key, fun stored => ?_⟩
  · exact ⟨decrypt_eq_ok_iff, verify_eq_ok_true_iff.trans decrypt_eq_ok_iff⟩
  · constructor
    · intro failed plaintext same
      rw [decrypt_eq_ok_iff.2 same] at failed
      cases failed
    · intro other
      cases read : key.decrypt stored with
      | error cause => rw [decrypt_error read]
      | ok plaintext => exact (other plaintext (decrypt_eq_ok_iff.1 read)).elim

/-- The last symbol of a value has spare bits. With one of them set the value still spells the same
bytes, but it is not how they are written. -/
example : (((SecretKey.ofText "1abcdefghilmnopqrstuvz2!").value.bind
    (·.decrypt "UhgavyjwSlGEJyyevj4whh==")).toOption) = none := by
  decide +kernel

end SecretCodec.SecretKey

import SecretCodec.Aes.Mode
import SecretCodec.Base64
import SecretCodec.Error
import SecretCodec.Event
import SecretCodec.Text.Blank

/-!
# Secret keys

A key is the first sixteen bytes of a secret text; a longer secret is reported, a shorter one
refused. Under a key a text is stored as the base64 form of its encryption, so that equal texts are
stored equally. Reading is strict: all that is not the stored form of a text fails alike.
-/

namespace SecretCodec

/-- A key of sixteen bytes. -/
structure SecretKey where
  bytes : Vector UInt8 16
  deriving DecidableEq

namespace SecretKey

/-- The event that a secret is longer than a key. -/
def truncation (length : Nat) : Event :=
  ⟨.warn, "secret key longer than 16 bytes; truncating", [("configured_len", length.repr)]⟩

/-- The key that a secret text starts with. -/
def ofText (secret : String) : Logged (Except Error SecretKey) :=
  let raw := Text.utf8 secret
  if h : 16 ≤ raw.length then
    { value := .ok ⟨(raw.take 16).toArray, by simp [h]⟩
      events := if raw.length = 16 then [] else [truncation raw.length] }
  else
    { value := .error .keyTooShort }

/-- The stored form of a text. -/
def encrypt (key : SecretKey) (plaintext : String) : String :=
  Base64.Alphabet.standard.text
    ((Aes.KeySchedule.ofKey key.bytes).encryptBytes (Text.utf8 plaintext))

/-- The text with the given stored form. Blanks around the form do not matter. -/
def decrypt (key : SecretKey) (stored : String) : Except Error String :=
  match Base64.Alphabet.standard.decode (Text.utf8 (Text.trim stored)) with
  | .error _ => .error .decryptionFailed
  | .ok encrypted =>
    match (Aes.KeySchedule.ofKey key.bytes).decryptBytes? encrypted with
    | none => .error .decryptionFailed
    | some bytes =>
      match Text.ofUtf8? bytes with
      | none => .error .decryptionFailed
      | some plaintext => .ok plaintext

/-- Whether a stored form is of this text. -/
def verify (key : SecretKey) (plaintext stored : String) : Except Error Bool :=
  (key.decrypt stored).map (· = plaintext)

/-- What may be shown of a key, which is nothing of its bytes. -/
def redacted (_ : SecretKey) : String := "SecretKey(<redacted>)"

end SecretKey

end SecretCodec

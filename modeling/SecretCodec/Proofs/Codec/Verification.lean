import SecretCodec.Proofs.Codec.Dispatch

/-!
# Stored values verify

What one codec stores, every codec verifies (`verify_of_encode`). A stored value carries all that is
needed for that, except the key of the cipher, which the two codecs have to share. Which values can
be stored depends on the algorithm and the codec, never on the plaintext (`exists_encode_iff`).
-/

namespace SecretCodec.Codec

variable {c c' : Codec} {random : Entropy} {plaintext stored : String} {a : Algorithm}

/-- Encoding gives a result for every plaintext, unless the cost of hashing is out of range or there
is no key to encrypt under. -/
theorem exists_encode_iff :
    (∃ stored, c.encode random (some plaintext) (some a) = .ok (some stored)) ↔
      (a = .bcrypt → Bcrypt.isCost c.bcryptCost) ∧ (a = .aes → c.hasKey) := by
  simp only [encode_some_eq_ok_iff]
  obtain ⟨kind, digest⟩ | rfl | rfl := a.digest_or_bcrypt_or_aes
  · refine iff_of_true ⟨_, encodeText_digest digest⟩ ⟨?_, ?_⟩
    · rintro rfl
      cases digest
    · rintro rfl
      cases digest
  · simp [encodeText_bcrypt_eq_ok_iff]
  · simp [encodeText_aes_eq_ok_iff, hasKey, Option.isSome_iff_exists]

theorem checkText_of_encodeText (written : c.encodeText random plaintext a = .ok stored)
    (sameKey : a = .aes → c'.key = c.key) : c'.checkText plaintext a stored = .ok true := by
  obtain ⟨kind, digest⟩ | rfl | rfl := a.digest_or_bcrypt_or_aes
  · rw [encodeText_digest digest] at written
    cases written
    rw [checkText_digest digest]
    exact DigestKind.check_encodeWithSalt (random.length_draw _)
  · obtain ⟨inRange, rfl⟩ := encodeText_bcrypt_eq_ok_iff.1 written
    rw [checkText_bcrypt_encode inRange (random.length_draw 16), decide_eq_true rfl]
  · obtain ⟨key, held, rfl⟩ := encodeText_aes_eq_ok_iff.1 written
    have sharedKey : c'.key = some key := (sameKey rfl).trans held
    rw [checkText_aes sharedKey, SecretKey.verify_eq_ok_true_iff]
    exact SecretKey.decrypt_encrypt key plaintext

/-- Every stored value verifies, silently, and not only with the codec that wrote it: under the
cipher with every codec that holds the same key, and under all other algorithms with every codec
there is, whatever its key and its cost. -/
theorem verify_of_encode
    (written : c.encode random (some plaintext) (some a) = .ok (some stored))
    (sameKey : a = .aes → c'.key = c.key) :
    c'.verify (some plaintext) (some a) (some stored) = { value := true } := by
  apply verify_of_checkText
  exact checkText_of_encodeText (encode_some_eq_ok_iff.1 written) sameKey

/-- A value from a system in use, read by a codec of another cost. -/
theorem verify_of_encode_under_shared_key :
    let key : SecretKey := ⟨#v[0x31, 0x61, 0x62, 0x63, 0x64, 0x65, 0x66, 0x67, 0x68, 0x69, 0x6c,
      0x6d, 0x6e, 0x6f, 0x70, 0x71]⟩
    let writer : Codec := { key := some key, bcryptCost := 4 }
    let reader : Codec := { key := some key, bcryptCost := 31 }
    let stored := "UhgavyjwSlGEJyyevj4whg=="
    writer.encode (fun _ => 0) (some "fabiano") (some .aes) = .ok (some stored) ∧
      reader.verify (some "fabiano") (some .aes) (some stored) = { value := true } := by
  intro key writer reader stored
  have written : writer.encode (fun _ => 0) (some "fabiano") (some .aes) = .ok (some stored) := by
    refine encode_some_eq_ok_iff.2 (encodeText_aes_eq_ok_iff.2 ⟨key, rfl, ?_⟩)
    decide +kernel
  exact ⟨written, verify_of_encode written fun _ => rfl⟩

end SecretCodec.Codec

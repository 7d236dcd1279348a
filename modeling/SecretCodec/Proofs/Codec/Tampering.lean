import SecretCodec.Proofs.Bcrypt.Key
import SecretCodec.Proofs.Codec.Verification

/-!
# Other passwords than the stored one

A stored password hash should answer no to every text but one. It answers no exactly where the texts
make different keys and these keys do not collide (`bcrypt_rejects_iff`). Two texts can make the same
key: only 72 bytes of a text and the NUL after it count, so longer texts that agree so far are taken
for each other, and so are the empty text and any number of NULs.
-/

namespace SecretCodec.Codec

variable {c c' : Codec} {random : Entropy} {plaintext other stored : String}

theorem exists_encode_bcrypt (low : 4 ≤ c.bcryptCost) (high : c.bcryptCost ≤ 31)
    (random : Entropy) (plaintext : String) :
    ∃ stored, c.encode random (some plaintext) (some .bcrypt) = .ok (some stored) := by
  refine exists_encode_iff.2 ⟨fun _ => Bcrypt.isCost_iff.2 ⟨low, high⟩, ?_⟩
  nofun

/-- A text is compared with the stored one by its hash, and only by that. -/
theorem verify_bcrypt_of_encode
    (written : c.encode random (some plaintext) (some .bcrypt) = .ok (some stored)) :
    c'.verify (some other) (some .bcrypt) (some stored) =
      { value := decide (Bcrypt.hash c.bcryptCost.toNat (random.draw 16) other =
          Bcrypt.hash c.bcryptCost.toNat (random.draw 16) plaintext) } := by
  obtain ⟨inRange, rfl⟩ := encodeText_bcrypt_eq_ok_iff.1 (encode_some_eq_ok_iff.1 written)
  apply verify_of_checkText
  exact checkText_bcrypt_encode inRange (random.length_draw 16)

theorem verify_bcrypt_of_keyBytes_eq
    (written : c.encode random (some plaintext) (some .bcrypt) = .ok (some stored))
    (sameKey : Bcrypt.keyBytes other = Bcrypt.keyBytes plaintext) :
    c'.verify (some other) (some .bcrypt) (some stored) = { value := true } := by
  rw [verify_bcrypt_of_encode written, Bcrypt.hash_eq_of_keyBytes_eq sameKey, decide_eq_true rfl]

theorem verify_bcrypt_eq_false_iff
    (written : c.encode random (some plaintext) (some .bcrypt) = .ok (some stored)) :
    c'.verify (some other) (some .bcrypt) (some stored) = { value := false } ↔
      Bcrypt.keyBytes other ≠ Bcrypt.keyBytes plaintext ∧
        ¬Bcrypt.Collide c.bcryptCost.toNat (random.draw 16) other plaintext := by
  rw [verify_bcrypt_of_encode written, Logged.mk.injEq, decide_eq_false_iff_not,
    Bcrypt.hash_eq_iff, not_or]
  exact and_iff_left rfl

/-- For texts without NUL the keys differ where the first 72 bytes do. -/
theorem verify_bcrypt_eq_false_iff_take
    (written : c.encode random (some plaintext) (some .bcrypt) = .ok (some stored))
    (noNul : '\x00' ∉ plaintext.toList) (noNul' : '\x00' ∉ other.toList) :
    c'.verify (some other) (some .bcrypt) (some stored) = { value := false } ↔
      (Text.utf8 other).take 72 ≠ (Text.utf8 plaintext).take 72 ∧
        ¬Bcrypt.Collide c.bcryptCost.toNat (random.draw 16) other plaintext := by
  have noZero : 0 ∉ Text.utf8 plaintext := mt Bcrypt.zero_mem_utf8_iff.1 noNul
  have noZero' : 0 ∉ Text.utf8 other := mt Bcrypt.zero_mem_utf8_iff.1 noNul'
  rw [verify_bcrypt_eq_false_iff written, Ne, Bcrypt.keyBytes_eq_iff noZero' noZero]

/-- At every cost that can be chosen, each text is stored, and what is stored rejects exactly those
texts whose key is different from the stored text's and does not collide with it. -/
theorem bcrypt_rejects_iff (low : 4 ≤ c.bcryptCost) (high : c.bcryptCost ≤ 31) (c' : Codec)
    (random : Entropy) (plaintext other : String) :
    ∃ stored, c.encode random (some plaintext) (some .bcrypt) = .ok (some stored) ∧
      (c'.verify (some other) (some .bcrypt) (some stored) = { value := false } ↔
        Bcrypt.keyBytes other ≠ Bcrypt.keyBytes plaintext ∧
          ¬Bcrypt.Collide c.bcryptCost.toNat (random.draw 16) other plaintext) := by
  obtain ⟨stored, written⟩ := exists_encode_bcrypt low high random plaintext
  exact ⟨stored, written, verify_bcrypt_eq_false_iff written⟩

/-- Short words have different keys, so only a collision could have one accepted for the other. -/
theorem bcrypt_rejects_iff_short_words :
    let c : Codec := { bcryptCost := 4 }
    (4 ≤ c.bcryptCost ∧ c.bcryptCost ≤ 31) ∧
      ∃ stored, c.encode (fun _ => 0) (some "fabiano") (some .bcrypt) = .ok (some stored) ∧
        (c.verify (some "fabiana") (some .bcrypt) (some stored) = { value := false } ↔
          ¬Bcrypt.Collide 4 (List.replicate 16 0) "fabiana" "fabiano") := by
  intro c
  have different : Bcrypt.keyBytes "fabiana" ≠ Bcrypt.keyBytes "fabiano" := by decide +kernel
  have bounds : 4 ≤ c.bcryptCost ∧ c.bcryptCost ≤ 31 := by decide
  obtain ⟨stored, written, rejects⟩ :=
    bcrypt_rejects_iff bounds.1 bounds.2 c (fun _ => 0) "fabiano" "fabiana"
  exact ⟨bounds, stored, written, rejects.trans (and_iff_right different)⟩

/-- Two texts that are taken for each other because they differ in the 73rd letter only, and two that
are because the NUL after the first is all there is of the second. -/
theorem bcrypt_accepts_other_text :
    let c : Codec := { bcryptCost := 4 }
    ∀ texts ∈ [(String.ofList (List.replicate 72 'a'), String.ofList (List.replicate 73 'a')),
        ("", "\x00")],
      texts.1 ≠ texts.2 ∧
      ∃ stored, c.encode (fun _ => 0) (some texts.1) (some .bcrypt) = .ok (some stored) ∧
        c.verify (some texts.2) (some .bcrypt) (some stored) = { value := true } := by
  intro c texts member
  have pair : texts.1 ≠ texts.2 ∧ Bcrypt.keyBytes texts.2 = Bcrypt.keyBytes texts.1 := by
    revert texts
    decide +kernel
  have bounds : 4 ≤ c.bcryptCost ∧ c.bcryptCost ≤ 31 := by decide
  obtain ⟨stored, written⟩ := exists_encode_bcrypt bounds.1 bounds.2 (fun _ => 0) texts.1
  exact ⟨pair.1, stored, written, verify_bcrypt_of_keyBytes_eq written pair.2⟩

end SecretCodec.Codec

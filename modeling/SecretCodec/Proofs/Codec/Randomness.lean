import SecretCodec.Proofs.Codec.Verification
import SecretCodec.Proofs.Text.Places

/-!
# Where random bytes go

Under a salted digest eight random bytes are drawn and under the password hash sixteen, as a salt;
no others are looked at. The salt stands in the stored value at a fixed place, next to a digest or a
hash of which nothing is assumed, and it is read back from there (`saltOf?_of_encode`). So the stored
values of any two plaintexts are different where their salts are (`randomness_exact`).
-/

namespace SecretCodec

/-- Draws are equal if their bytes are, one by one. -/
theorem Entropy.draw_eq_iff {random random' : Entropy} {n : Nat} :
    random.draw n = random'.draw n ↔ ∀ i < n, random i = random' i := by
  simp [draw]

/-! ### Places in a stored value -/

theorem Hex.text_append (bytes more : Bytes) : text (bytes ++ more) = text bytes ++ text more := by
  simp [text, encode, Text.ofAscii_append]

/-- A stored digest ends in the digits of its salt. -/
theorem DigestKind.last_encodeWithSalt (kind : DigestKind) (plaintext : String) (salt : Bytes) :
    Text.last (2 * salt.length) (kind.encodeWithSalt plaintext salt) = Hex.text salt := by
  rw [encodeWithSalt, Hex.text_append]
  apply Text.last_append
  rw [Hex.text, Text.length_ofAscii, Hex.length_encode]

/-- The symbols of a password hash begin with those of its salt. -/
theorem Bcrypt.first_symbols {salt : Bytes} (whole : salt.length = 16) (cost : UInt32)
    (password : String) :
    Text.first 22 (symbols cost salt password) = Base64.Alphabet.password.text salt := by
  apply Text.first_append
  rw [Base64.Alphabet.text, Text.length_ofAscii]
  exact length_encode_salt whole

/-! ### Salts -/

namespace Algorithm

variable {a : Algorithm} {kind : DigestKind}

/-- How many random bytes go into a stored value. -/
def drawn (a : Algorithm) : Nat :=
  match a.entry.shape with
  | .plainDigest _ | .reversible => 0
  | .saltedDigest _ => 8
  | .adaptive => 16

/-- The salt of a stored value, read from the last sixteen digits of a salted digest and from the
first twenty-two symbols after the cost of a password hash. -/
def saltOf? (a : Algorithm) (stored : String) : Option Bytes :=
  match a.entry.shape with
  | .plainDigest _ | .reversible => some []
  | .saltedDigest _ => (Hex.decode (Text.utf8 (Text.last 16 stored))).toOption
  | .adaptive =>
    match Bcrypt.pieces stored with
    | [_, _, symbols] =>
      (Base64.Alphabet.password.decode (Text.utf8 (Text.first 22 symbols))).toOption
    | _ => none

theorem saltLength_eq_drawn (digest : a.entry.digestKind? = some kind) :
    a.entry.saltLength = a.drawn := by
  have lengths : ∀ a ∈ all, a.entry.digestKind?.isSome → a.entry.saltLength = a.drawn := by
    decide +kernel
  exact lengths a (mem_all a) (Option.isSome_of_eq_some digest)

theorem saltOf?_encodeWithSalt (digest : a.entry.digestKind? = some kind) (plaintext : String)
    {salt : Bytes} (whole : salt.length = a.drawn) :
    a.saltOf? (kind.encodeWithSalt plaintext salt) = some salt := by
  obtain ⟨shape, -⟩ | shape := shape_of_digestKind? digest
  · simp only [drawn, shape] at whole
    simp only [saltOf?, shape, List.eq_nil_of_length_eq_zero whole]
  · simp only [drawn, shape] at whole
    have digits := kind.last_encodeWithSalt plaintext salt
    rw [whole] at digits
    simp only [saltOf?, shape, digits, Hex.utf8_text, Hex.decode_encode]
    rfl

theorem saltOf?_bcrypt_encode {cost : UInt32} {salt : Bytes} (whole : salt.length = 16)
    (password : String) : saltOf? .bcrypt (Bcrypt.encode cost salt password) = some salt := by
  have shape : Algorithm.bcrypt.entry.shape = .adaptive := rfl
  simp only [saltOf?, shape, Bcrypt.pieces_encode, Bcrypt.first_symbols whole,
    Base64.Alphabet.utf8_text, Base64.Alphabet.decode_encode]
  rfl

end Algorithm

namespace Codec

variable {c : Codec} {random random' : Entropy} {plaintext stored : String} {a : Algorithm}

/-- What is stored depends on the bytes that are drawn, and on no others. -/
theorem encodeText_congr_draw (same : random.draw a.drawn = random'.draw a.drawn) :
    c.encodeText random plaintext a = c.encodeText random' plaintext a := by
  obtain ⟨kind, digest⟩ | rfl | rfl := a.digest_or_bcrypt_or_aes
  · rw [encodeText_digest digest, encodeText_digest digest, Algorithm.saltLength_eq_drawn digest,
      same]
  · have same : random.draw 16 = random'.draw 16 := same
    simp only [encodeText_bcrypt, Password.hash, Bcrypt.encodeFresh, same]
  · rfl

/-- The bytes that were drawn can be read from what is stored. -/
theorem saltOf?_of_encode
    (written : c.encode random (some plaintext) (some a) = .ok (some stored)) :
    a.saltOf? stored = some (random.draw a.drawn) := by
  rw [encode_some_eq_ok_iff] at written
  obtain ⟨kind, digest⟩ | rfl | rfl := a.digest_or_bcrypt_or_aes
  · rw [encodeText_digest digest] at written
    cases written
    rw [Algorithm.saltLength_eq_drawn digest]
    exact Algorithm.saltOf?_encodeWithSalt digest plaintext (random.length_draw _)
  · obtain ⟨-, rfl⟩ := encodeText_bcrypt_eq_ok_iff.1 written
    exact Algorithm.saltOf?_bcrypt_encode (random.length_draw 16) plaintext
  · rfl

/-- What becomes of random bytes under an algorithm. -/
structure Salts (c : Codec) (a : Algorithm) : Prop where
  /-- None count but the first few, as many as are drawn. Without a salt no byte counts. -/
  same (random random' : Entropy) (plaintext : Option String) :
    (∀ i < a.drawn, random i = random' i) →
      c.encode random plaintext (some a) = c.encode random' plaintext (some a)
  /-- Each of these counts: where one of them is different, so are the stored values, whatever the
  plaintexts. -/
  different (random random' : Entropy) (plaintext plaintext' stored stored' : String) :
    c.encode random (some plaintext) (some a) = .ok (some stored) →
      c.encode random' (some plaintext') (some a) = .ok (some stored') →
        (∃ i < a.drawn, random i ≠ random' i) → stored ≠ stored'
  /-- A plaintext is stored wherever the cost is in range or not needed, and the key there or not
  needed, and then the bytes drawn can be read from what is stored. -/
  recovered (random : Entropy) (plaintext : String) :
    (a = .bcrypt → 4 ≤ c.bcryptCost ∧ c.bcryptCost ≤ 31) → (a = .aes → c.hasKey) →
      ∃ stored, c.encode random (some plaintext) (some a) = .ok (some stored) ∧
        a.saltOf? stored = some (random.draw a.drawn)

/-- Random bytes go into the salt, all that are drawn and no others. -/
theorem randomness_exact (c : Codec) (a : Algorithm) : c.Salts a where
  same random random' plaintext same := by
    cases plaintext with
    | none => rfl
    | some plaintext =>
      simp only [encode, encodeText_congr_draw (Entropy.draw_eq_iff.2 same)]
  different random random' plaintext plaintext' stored stored' written written' := by
    rintro ⟨i, inside, differ⟩ rfl
    have salts := (saltOf?_of_encode written).symm.trans (saltOf?_of_encode written')
    exact differ (Entropy.draw_eq_iff.1 (Option.some.inj salts) i inside)
  recovered random plaintext inRange key := by
    obtain ⟨stored, written⟩ :=
      exists_encode_iff.2 ⟨fun password => Bcrypt.isCost_iff.2 (inRange password), key⟩
    exact ⟨stored, written, saltOf?_of_encode written⟩

end Codec

/-- The salt of a value from a system in use. -/
example :
    Algorithm.saltOf? .saltedSha1 "5D514415F9CF1B03EF2FCAFC26CDCF56508F360B0102030405060708" =
      some [1, 2, 3, 4, 5, 6, 7, 8] := by
  decide +kernel

end SecretCodec

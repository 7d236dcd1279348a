import SecretCodec.Digest.Stored
import SecretCodec.Proofs.Hex.Reading

/-!
# Digests of messages that arrive in parts

The digest of a message is the fold of the compression over the blocks that the message is padded to.
Every message has such blocks (`isPadded_cut`) and they are determined by what they have to spell
(`IsPadded.unique`), so the message has exactly one digest (`isDigest_iff`). What arrives in parts has
the digest of its concatenation, wherever a part ends within a block, and that digest is as long as
its kind declares. So a stored value comes apart at a place that depends on neither the plaintext nor
the salt (`splits_encodeWithSalt_iff`).
-/

namespace SecretCodec

namespace Digest.IteratedHash

variable {h : IteratedHash} {message : Bytes} {blocks others : List (Vector UInt8 h.blockLength)}

/-- Blocks that spell a message and its padding: a one bit, fewer zeros than a block has bytes, and
the length of the message. -/
def IsPadded (h : IteratedHash) (message : Bytes) (blocks : List (Vector UInt8 h.blockLength)) :
    Prop :=
  ∃ zeros < h.blockLength,
    Blocks.join blocks =
      message ++ (0x80 :: List.replicate zeros 0 ++ h.lengthField message.length)

/-- What the compression of a padded message, block after block, ends in. -/
def IsDigest (h : IteratedHash) (message : Bytes) (value : Vector UInt8 h.outputLength) : Prop :=
  ∃ blocks, h.IsPadded message blocks ∧ h.output (blocks.foldl h.compress h.initial) = value

/-- The one bit and the length take a further block only where the last one has no room for them. -/
theorem IsPadded.length_eq (padded : h.IsPadded message blocks) :
    blocks.length =
      (message.length + (h.lengthField message.length).length) / h.blockLength + 1 := by
  obtain ⟨zeros, fewer, spelled⟩ := padded
  have total := congrArg List.length spelled
  simp only [Blocks.length_join, List.length_append, List.length_cons,
    List.length_replicate] at total
  cases count : blocks.length with
  | zero =>
    -- the one bit alone makes up a block
    rw [count, Nat.zero_mul] at total
    omega
  | succ full =>
    rw [count, Nat.succ_mul] at total
    have filled : full * h.blockLength ≤
        message.length + (h.lengthField message.length).length := by
      omega
    have short : message.length + (h.lengthField message.length).length <
        (full + 1) * h.blockLength := by
      rw [Nat.succ_mul]
      omega
    rw [Nat.div_eq_of_lt_le filled short]

theorem IsPadded.unique (first : h.IsPadded message blocks) (second : h.IsPadded message others) :
    blocks = others := by
  have counts : blocks.length = others.length := first.length_eq.trans second.length_eq.symm
  obtain ⟨zeros, fewer, spelled⟩ := first
  obtain ⟨zeros', -, spelled'⟩ := second
  have pos : 0 < h.blockLength := Nat.zero_lt_of_lt fewer
  have lengths : (Blocks.join blocks).length = (Blocks.join others).length := by
    rw [Blocks.length_join, Blocks.length_join, counts]
  have same : zeros = zeros' := by simpa [spelled, spelled'] using lengths
  rw [← Blocks.cut_join pos blocks, spelled, same, ← spelled', Blocks.cut_join pos]

theorem isPadded_cut (pos : 0 < h.blockLength) (message : Bytes) :
    h.IsPadded message (Blocks.cut h.blockLength (message ++ h.padding message.length)) :=
  ⟨_, Nat.mod_lt _ pos, Blocks.join_cut (h.length_append_padding_mod pos message)⟩

theorem isDigest_iff (pos : 0 < h.blockLength) {value : Vector UInt8 h.outputLength} :
    h.IsDigest message value ↔ h.hash message = value := by
  constructor
  · rintro ⟨blocks, padded, rfl⟩
    rw [padded.unique (isPadded_cut pos message)]
    rfl
  · intro same
    exact ⟨_, isPadded_cut pos message, same⟩

end Digest.IteratedHash

namespace DigestKind

open Digest (IteratedHash)

variable {kind : DigestKind} {parts others : List Bytes}

theorem blockLength_pos (kind : DigestKind) : 0 < kind.function.blockLength := by
  cases kind <;> decide

/-- Where one part ends and the next begins does not matter. -/
theorem digest_congr (same : others.flatten = parts.flatten) :
    kind.digest others = kind.digest parts := by
  rw [digest_eq, digest_eq, same]

theorem digest_eq_iff {value : Vector UInt8 kind.function.outputLength} :
    kind.digest parts = value.toList ↔ kind.function.IsDigest parts.flatten value := by
  rw [digest_eq, Vector.toList_inj, IteratedHash.isDigest_iff kind.blockLength_pos]

/-! ### Taking a stored value apart -/

/-- A stored value is read and cut where a digest of this kind ends. -/
def Splits (kind : DigestKind) (stored : String) (digest salt : Bytes) : Prop :=
  ∃ bytes, Hex.decode (Text.utf8 (Text.trim stored)) = .ok bytes ∧
    bytes.splitAt kind.outputLength = (digest, salt)

theorem decode_encodeWithSalt (kind : DigestKind) (plaintext : String) (salt : Bytes) :
    Hex.decode (Text.utf8 (Text.trim (kind.encodeWithSalt plaintext salt))) =
      .ok (kind.digest [Text.utf8 plaintext ++ salt] ++ salt) := by
  have whole : kind.digest [Text.utf8 plaintext, salt] = kind.digest [Text.utf8 plaintext ++ salt] :=
    digest_congr (by simp)
  rw [encodeWithSalt, whole, Hex.trim_text, Hex.utf8_text, Hex.decode_encode]

theorem splits_encodeWithSalt_iff {plaintext : String} {salt digest rest : Bytes} :
    kind.Splits (kind.encodeWithSalt plaintext salt) digest rest ↔
      digest = kind.digest [Text.utf8 plaintext ++ salt] ∧ rest = salt := by
  have length := kind.length_digest [Text.utf8 plaintext ++ salt]
  have halves : (kind.digest [Text.utf8 plaintext ++ salt] ++ salt).splitAt kind.outputLength =
      (kind.digest [Text.utf8 plaintext ++ salt], salt) := by
    rw [List.splitAt_eq, List.take_left' length, List.drop_left' length]
  simp only [Splits, decode_encodeWithSalt, Except.ok.injEq, exists_eq_left', halves,
    Prod.mk.injEq]
  rw [eq_comm, @eq_comm _ rest]

/-- Digesting in parts is digesting the concatenation, and the result is as long as declared. It is
the one digest that the concatenation has, so messages that were cut differently share it. And a
stored value, cut where a digest ends, comes apart into the digest of the plaintext followed by the
salt, and that salt. -/
theorem digest_of_parts (kind : DigestKind) (parts : List Bytes) :
    kind.digest parts = kind.digest [parts.flatten] ∧
    (kind.digest parts).length = kind.outputLength ∧
    (∀ others : List Bytes, others.flatten = parts.flatten →
      kind.digest others = kind.digest parts) ∧
    (∀ value, kind.digest parts = value.toList ↔ kind.function.IsDigest parts.flatten value) ∧
    ∀ (plaintext : String) (salt digest rest : Bytes),
      kind.Splits (kind.encodeWithSalt plaintext salt) digest rest ↔
        digest = kind.digest [Text.utf8 plaintext ++ salt] ∧ rest = salt := by
  refine ⟨digest_congr (by simp), kind.length_digest parts, ?_, ?_, ?_⟩
  · intro others same
    exact digest_congr same
  · intro value
    exact digest_eq_iff
  · intro plaintext salt digest rest
    exact splits_encodeWithSalt_iff

/-- A block of SHA-512 has 128 bytes: here a part ends just before it is full, and there just after
it. -/
theorem digest_of_parts_at_block_end :
    let early : List Bytes := [List.replicate 127 0x61, [], [0x62, 0x63]]
    let late : List Bytes := [[], List.replicate 127 0x61 ++ [0x62], [0x63]]
    late.flatten = early.flatten ∧ sha512.digest late = sha512.digest early := by
  intro early late
  have same : late.flatten = early.flatten := by decide
  exact ⟨same, (digest_of_parts sha512 early).2.2.1 late same⟩

end DigestKind

end SecretCodec

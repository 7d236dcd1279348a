import SecretCodec.Aes.Inverse
import SecretCodec.Aes.Padding
import SecretCodec.Blocks

/-!
# Encryption of messages

A padded message is encrypted block by block, each block on its own, so equal blocks have equal
encryptions and there is nothing to store beside them. `decryptBytes?_eq_some_iff` says that
decryption accepts exactly what encryption produces.
-/

namespace SecretCodec.Aes.KeySchedule

/-- The encryption of a message of any length. -/
def encryptBytes (keys : KeySchedule) (message : Bytes) : Bytes :=
  Blocks.join ((Blocks.cut 16 (pad message)).map keys.encrypt)

/-- The message with the given encryption, if there is one. -/
def decryptBytes? (keys : KeySchedule) (encrypted : Bytes) : Option Bytes :=
  if encrypted.length % 16 = 0 then
    unpad? (Blocks.join ((Blocks.cut 16 encrypted).map keys.decrypt))
  else none

@[simp] theorem length_encryptBytes (keys : KeySchedule) (message : Bytes) :
    (keys.encryptBytes message).length = 16 * (message.length / 16 + 1) := by
  rw [encryptBytes, Blocks.length_join, List.length_map, Blocks.length_cut (by decide), length_pad]
  omega

/-- Decryption accepts exactly what encryption produces. -/
theorem decryptBytes?_eq_some_iff {keys : KeySchedule} {encrypted message : Bytes} :
    keys.decryptBytes? encrypted = some message ↔ encrypted = keys.encryptBytes message := by
  constructor
  · intro h
    simp only [decryptBytes?] at h
    split at h
    · next whole =>
      have undo : keys.encrypt ∘ keys.decrypt = id := by
        funext b
        simp
      rw [encryptBytes, ← unpad?_eq_some_iff.1 h, Blocks.cut_join (by decide), List.map_map, undo,
        List.map_id, Blocks.join_cut whole]
    · cases h
  · rintro rfl
    have whole : (keys.encryptBytes message).length % 16 = 0 := by
      rw [length_encryptBytes]
      omega
    have undo : keys.decrypt ∘ keys.encrypt = id := by
      funext b
      simp
    rw [decryptBytes?, if_pos whole, encryptBytes, Blocks.cut_join (by decide), List.map_map,
      undo, List.map_id, Blocks.join_cut (by rw [length_pad]; omega), unpad?_pad]

end SecretCodec.Aes.KeySchedule

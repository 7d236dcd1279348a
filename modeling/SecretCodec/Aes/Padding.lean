import SecretCodec.Text.Utf8

/-!
# Padding to whole blocks

A message is filled up to whole blocks of sixteen bytes by one to sixteen bytes, each of which is
the number of bytes added. Since at least one byte is added, the last byte of a padded message says
how many to remove. Removal is strict: it succeeds only on what padding produces.
-/

namespace SecretCodec.Aes

/-- The number of bytes that padding adds to a message of the given length. -/
def padLength (length : Nat) : Nat := 16 - length % 16

/-- A message filled up to whole blocks. -/
def pad (message : Bytes) : Bytes :=
  let count := padLength message.length
  message ++ List.replicate count (UInt8.ofNat count)

/-- The message whose padded form is given. -/
def unpad? (padded : Bytes) : Option Bytes :=
  match padded.getLast? with
  | none => none
  | some count =>
    let message := padded.take (padded.length - count.toNat)
    if pad message = padded then some message else none

@[simp] theorem length_pad (message : Bytes) :
    (pad message).length = 16 * (message.length / 16 + 1) := by
  simp only [pad, padLength, List.length_append, List.length_replicate]
  omega

theorem getLast?_pad (message : Bytes) :
    (pad message).getLast? = some (UInt8.ofNat (padLength message.length)) := by
  have pos : padLength message.length ≠ 0 := by
    simp only [padLength]
    omega
  simp [pad, List.getLast?_append, List.getLast?_replicate, pos]

/-- Removal accepts exactly what padding produces. -/
theorem unpad?_eq_some_iff {padded message : Bytes} :
    unpad? padded = some message ↔ padded = pad message := by
  constructor
  · intro h
    simp only [unpad?] at h
    split at h
    · cases h
    · split at h
      · next same =>
        cases h
        exact same.symm
      · cases h
  · rintro rfl
    have small : padLength message.length < 256 := by
      simp only [padLength]
      omega
    have count : (UInt8.ofNat (padLength message.length)).toNat = padLength message.length := by
      rw [UInt8.toNat_ofNat']
      exact Nat.mod_eq_of_lt small
    have front : (pad message).take ((pad message).length - padLength message.length)
        = message := by
      simp [pad]
    simp only [unpad?, getLast?_pad, count, front, if_true]

@[simp] theorem unpad?_pad (message : Bytes) : unpad? (pad message) = some message :=
  unpad?_eq_some_iff.2 rfl

end SecretCodec.Aes

import SecretCodec.Proofs.Base64.Written
import SecretCodec.SecretKey

/-!
# Stored forms block by block

Blocks of sixteen bytes are encrypted each on its own, and only the last one is padded
(`encryptBytes_append`); groups of three bytes are written in four symbols each on their own. The two
are aligned after every three blocks, which are forty-eight bytes of a text and sixty-four symbols of
its stored form. So whatever stands in front of such a place in a text has no influence on how the
rest of it is stored, and the length of a text says how long its stored form is
(`encrypt_blockwise`).
-/

namespace SecretCodec

namespace Aes

variable {front : Bytes} {keys : KeySchedule}

/-- Only what is left after whole blocks is padded. -/
theorem pad_append (whole : front.length % 16 = 0) (back : Bytes) :
    pad (front ++ back) = front ++ pad back := by
  have same : padLength (front.length + back.length) = padLength back.length := by
    simp only [padLength]
    omega
  simp only [pad, List.length_append, same, List.append_assoc]

namespace KeySchedule

/-- The encryption of whole blocks, to which nothing is added. -/
def encryptBlocks (keys : KeySchedule) (message : Bytes) : Bytes :=
  Blocks.join ((Blocks.cut 16 message).map keys.encrypt)

theorem length_encryptBlocks (whole : front.length % 16 = 0) :
    (keys.encryptBlocks front).length = front.length := by
  rw [encryptBlocks, Blocks.length_join, List.length_map, Blocks.length_cut (by decide)]
  omega

/-- Whole blocks in front of a message are encrypted on their own. -/
theorem encryptBytes_append (whole : front.length % 16 = 0) (back : Bytes) :
    keys.encryptBytes (front ++ back) = keys.encryptBlocks front ++ keys.encryptBytes back := by
  have cuts := Blocks.cut_append (by decide) (Blocks.cut 16 front) (pad back)
  rw [Blocks.join_cut whole] at cuts
  rw [encryptBytes, pad_append whole, cuts, List.map_append, Blocks.join, List.flatMap_append]
  rfl

end KeySchedule

end Aes

/-! ### The standard alphabet -/

namespace Base64

/-- The symbols of the standard alphabet. -/
def standardSymbols : String :=
  "ABCDEFGHIJKLMNOPQRSTUVWXYZabcdefghijklmnopqrstuvwxyz0123456789+/"

/-- The pad characters after the symbols of a number of blocks: two, one or none. -/
def padCount (blocks : Nat) : Nat :=
  if blocks % 3 = 1 then 2 else if blocks % 3 = 2 then 1 else 0

/-- The written form of whole blocks is symbols and then pad characters. -/
theorem exists_text_eq {bytes : Bytes} {blocks : Nat} (h : bytes.length = 16 * blocks) :
    ∃ symbols : String, (∀ c ∈ symbols.toList, c ∈ standardSymbols.toList) ∧
      Alphabet.standard.text bytes =
        symbols ++ String.ofList (List.replicate (padCount blocks) '=') := by
  have known : ∀ s ∈ Alphabet.standard.symbols, Char.ofUInt8 s ∈ standardSymbols.toList := by
    decide +kernel
  refine ⟨Text.ofAscii ((toSixes bytes).map Alphabet.standard.symbol), ?_, ?_⟩
  · intro c member
    rw [Text.toList_ofAscii, List.mem_map] at member
    obtain ⟨s, written, rfl⟩ := member
    obtain ⟨n, -, rfl⟩ := List.mem_map.1 written
    exact known _ (Alphabet.standard.symbol_mem n)
  · have count : (4 - (toSixes bytes).length % 4) % 4 = padCount blocks := by
      rw [length_toSixes, h, padCount]
      split_ifs <;> omega
    have filled : Alphabet.standard.fill (toSixes bytes).length =
        List.replicate (padCount blocks) pad := by
      rw [← count]
      rfl
    have characters : Text.ofAscii (List.replicate (padCount blocks) pad) =
        String.ofList (List.replicate (padCount blocks) '=') := by
      rw [Text.ofAscii, List.map_replicate]
      rfl
    rw [Alphabet.text, Alphabet.encode, Text.ofAscii_append, filled, characters]

end Base64

/-! ### Stored forms -/

namespace SecretKey

variable {key : SecretKey}

/-- A front of three blocks, or as many times that, is stored on its own. -/
theorem encrypt_append {front : String} (whole : (Text.utf8 front).length % 48 = 0)
    (back : String) :
    key.encrypt (front ++ back) =
      Base64.Alphabet.standard.text
        ((Aes.KeySchedule.ofKey key.bytes).encryptBlocks (Text.utf8 front)) ++
          key.encrypt back := by
  have blocks : (Text.utf8 front).length % 16 = 0 := by omega
  have groups : ((Aes.KeySchedule.ofKey key.bytes).encryptBlocks
      (Text.utf8 front)).length % 3 = 0 := by
    rw [Aes.KeySchedule.length_encryptBlocks blocks]
    omega
  rw [encrypt, Text.utf8_append, Aes.KeySchedule.encryptBytes_append blocks,
    Base64.Alphabet.text_append _ groups, encrypt]

theorem first_encrypt {front : String} {k : Nat} (whole : (Text.utf8 front).length = 48 * k) :
    Text.first (64 * k) (key.encrypt front) =
      Base64.Alphabet.standard.text
        ((Aes.KeySchedule.ofKey key.bytes).encryptBlocks (Text.utf8 front)) := by
  have split := @encrypt_append key front (by omega) ""
  rw [String.append_empty] at split
  rw [split]
  apply Text.first_append
  rw [Base64.Alphabet.length_text, Base64.Alphabet.length_encode,
    Aes.KeySchedule.length_encryptBlocks (by omega), whole]
  change 4 * ((48 * k + 2) / 3) = 64 * k
  omega

/-- Stored forms are stable block by block: with forty-eight bytes of a text, or as many times that,
go sixty-four characters of its stored form, and the rest is stored as if it stood alone. A text is
stored in one block more than it fills. A third of the bytes of these blocks, rounded up, is the
number of groups of four characters; the characters are symbols, and at the end pad characters where
the last group is not full. -/
theorem encrypt_blockwise (key : SecretKey) :
    (∀ (front back : String) (k : Nat), (Text.utf8 front).length = 48 * k →
      key.encrypt (front ++ back) =
        Text.first (64 * k) (key.encrypt front) ++ key.encrypt back) ∧
    ∀ text : String,
      let blocks := (Text.utf8 text).length / 16 + 1
      (key.encrypt text).length = 4 * ((16 * blocks + 2) / 3) ∧
      ∃ symbols : String, (∀ c ∈ symbols.toList, c ∈ Base64.standardSymbols.toList) ∧
        key.encrypt text =
          symbols ++ String.ofList (List.replicate (Base64.padCount blocks) '=') := by
  refine ⟨fun front back k whole => ?_, fun text => ⟨?_, ?_⟩⟩
  · rw [encrypt_append (by omega), first_encrypt whole]
  · rw [encrypt, Base64.Alphabet.length_text, Base64.Alphabet.length_encode,
      Aes.KeySchedule.length_encryptBytes]
    rfl
  · exact Base64.exists_text_eq (Aes.KeySchedule.length_encryptBytes _ _)

/-- Characters of two bytes that fill three blocks, and one of three bytes after them. -/
theorem encrypt_blockwise_three_blocks :
    let key : SecretKey := ⟨Vector.replicate 16 0x61⟩
    let front := String.ofList (List.replicate 24 'é')
    (Text.utf8 front).length = 48 * 1 ∧
      key.encrypt (front ++ "€") = Text.first (64 * 1) (key.encrypt front) ++ key.encrypt "€" := by
  intro key front
  have whole : (Text.utf8 front).length = 48 * 1 := by decide +kernel
  exact ⟨whole, (encrypt_blockwise key).1 front "€" 1 whole⟩

end SecretKey

end SecretCodec

import SecretCodec.Aes.Cipher

/-!
# Decryption inverts encryption

Every step of a round is undone by its counterpart, whichever of the two comes first. For the mixing
of columns this rests on one computation: mixing twice adds to every byte four times, in the field
of the cipher, the sum of itself and of the byte two rows below (`below_mixColumns_mixColumns`).
Doing that twice changes nothing.

The main statements are `decrypt_encrypt` and `encrypt_decrypt`. They hold for every key schedule.
-/

namespace SecretCodec.Aes

private theorem xor_left_comm (a b c : UInt8) : a ^^^ (b ^^^ c) = b ^^^ (a ^^^ c) := by
  rw [← UInt8.xor_assoc, UInt8.xor_comm a, UInt8.xor_assoc]

private theorem xor_cancel_left (a b : UInt8) : a ^^^ (a ^^^ b) = b := by
  rw [← UInt8.xor_assoc, UInt8.xor_self, UInt8.zero_xor]

namespace Block

@[simp] theorem add_add_cancel (a b : Block) : (a.add b).add b = a := by
  apply Vector.ext
  intro i hi
  simp only [add, Fin.getElem_fin, Vector.getElem_ofFn, UInt8.xor_assoc, UInt8.xor_self,
    UInt8.xor_zero]

@[simp] theorem unsubstitute_substitute (b : Block) : b.substitute.unsubstitute = b := by
  apply Vector.ext
  intro i hi
  simp [substitute, unsubstitute]

@[simp] theorem substitute_unsubstitute (b : Block) : b.unsubstitute.substitute = b := by
  apply Vector.ext
  intro i hi
  simp [substitute, unsubstitute]

@[simp] theorem unrotateRows_rotateRows (b : Block) : b.rotateRows.unrotateRows = b := by
  apply Vector.ext
  intro i hi
  simp only [rotateRows, unrotateRows, Vector.getElem_ofFn]
  congr 1
  omega

@[simp] theorem rotateRows_unrotateRows (b : Block) : b.unrotateRows.rotateRows = b := by
  apply Vector.ext
  intro i hi
  simp only [rotateRows, unrotateRows, Vector.getElem_ofFn]
  congr 1
  omega

theorem below_zero (b : Block) {i : Nat} (h : i < 16) : b.below ⟨i, h⟩ 0 = b[i] := by
  simp only [below]
  congr 1
  omega

/-- Four rows below is the byte itself. -/
theorem below_add_four (b : Block) (i : Fin 16) (n : Nat) : b.below i (n + 4) = b.below i n := by
  simp only [below]
  congr 1
  omega

theorem below_mixColumns (b : Block) (i : Fin 16) (n : Nat) :
    b.mixColumns.below i n =
      double (b.below i n) ^^^ (double (b.below i (n + 1)) ^^^ b.below i (n + 1)) ^^^
        b.below i (n + 2) ^^^ b.below i (n + 3) := by
  have place : ∀ k, (i.val / 4 * 4 + (i.val + n) % 4) / 4 * 4 +
      (i.val / 4 * 4 + (i.val + n) % 4 + k) % 4 = i.val / 4 * 4 + (i.val + (n + k)) % 4 := by
    intro k
    omega
  have here := place 0
  simp only [Nat.add_zero] at here
  simp only [below, mixColumns, Vector.getElem_ofFn, Nat.add_zero, place, here]

theorem below_mixColumns_mixColumns (b : Block) (i : Fin 16) (n : Nat) :
    b.mixColumns.mixColumns.below i n =
      b.below i n ^^^ double (double (b.below i n)) ^^^ double (double (b.below i (n + 2))) := by
  have four := below_add_four b i n
  have five := below_add_four b i (n + 1)
  have six := below_add_four b i (n + 2)
  simp only [Nat.add_assoc, Nat.reduceAdd] at five six
  simp only [below_mixColumns, Nat.add_assoc, Nat.reduceAdd, double_xor, four, five, six]
  generalize b.below i n = a₀
  generalize b.below i (n + 1) = a₁
  generalize b.below i (n + 2) = a₂
  generalize b.below i (n + 3) = a₃
  generalize double (double a₀) = c₀
  generalize double (double a₁) = c₁
  generalize double (double a₂) = c₂
  generalize double (double a₃) = c₃
  generalize double a₀ = b₀
  generalize double a₁ = b₁
  generalize double a₂ = b₂
  generalize double a₃ = b₃
  simp only [UInt8.xor_comm, xor_left_comm, xor_cancel_left, UInt8.xor_self, UInt8.xor_zero]

/-- Mixing four times changes nothing. -/
theorem mixColumns_four_times (b : Block) :
    b.mixColumns.mixColumns.mixColumns.mixColumns = b := by
  apply Vector.ext
  intro i hi
  have outer := below_zero b.mixColumns.mixColumns.mixColumns.mixColumns hi
  have inner := below_zero b hi
  have four := below_add_four b ⟨i, hi⟩ 0
  simp only [Nat.reduceAdd] at four
  rw [← outer, below_mixColumns_mixColumns, below_mixColumns_mixColumns,
    below_mixColumns_mixColumns]
  simp only [double_xor, Nat.reduceAdd, four, inner]
  simp only [UInt8.xor_assoc, UInt8.xor_comm, xor_left_comm, xor_cancel_left, UInt8.xor_self,
    UInt8.zero_xor]

@[simp] theorem unmixColumns_mixColumns (b : Block) : b.mixColumns.unmixColumns = b :=
  mixColumns_four_times b

@[simp] theorem mixColumns_unmixColumns (b : Block) : b.unmixColumns.mixColumns = b :=
  mixColumns_four_times b

end Block

namespace KeySchedule

private theorem foldr_foldl_rounds (keys : List Block) (b : Block) :
    keys.foldr (fun key s => (s.add key).unmixColumns.unrotateRows.unsubstitute)
      (keys.foldl (fun s key => s.substitute.rotateRows.mixColumns.add key) b) = b := by
  induction keys generalizing b with
  | nil => rfl
  | cons key keys ih => simp [ih]

private theorem foldl_foldr_rounds (keys : List Block) (b : Block) :
    keys.foldl (fun s key => s.substitute.rotateRows.mixColumns.add key)
      (keys.foldr (fun key s => (s.add key).unmixColumns.unrotateRows.unsubstitute) b) = b := by
  induction keys generalizing b with
  | nil => rfl
  | cons key keys ih => simp [ih]

@[simp] theorem decrypt_encrypt (keys : KeySchedule) (b : Block) :
    keys.decrypt (keys.encrypt b) = b := by
  simp [decrypt, encrypt, foldr_foldl_rounds]

@[simp] theorem encrypt_decrypt (keys : KeySchedule) (b : Block) :
    keys.encrypt (keys.decrypt b) = b := by
  simp [decrypt, encrypt, foldl_foldr_rounds]

end KeySchedule

end SecretCodec.Aes

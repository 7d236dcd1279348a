import Mathlib.Algebra.Group.Nat.Defs
import SecretCodec.Proofs.Text.Ascii

/-!
# Texts within texts

What a message gives away is what it contains. A text cannot contain a longer one
(`not_contains_of_lt`), nor one with a character that it does not have (`Contains.mem`). So a message
of fixed wording and a few numbers contains no long text: a number takes far fewer digits than its
own value (`length_repr_le`).
-/

namespace SecretCodec.Text

/-- Whether a text has another as a part. -/
def Contains (text part : String) : Prop := part.toList <:+: text.toList

theorem contains_append (front text : String) : Contains (front ++ text) text := by
  rw [Contains, String.toList_append]
  exact (List.suffix_append front.toList text.toList).isInfix

theorem Contains.length_le {text part : String} (h : Contains text part) :
    (utf8 part).length ≤ (utf8 text).length := by
  obtain ⟨front, back, same⟩ := h
  rw [utf8_eq_flatMap text, ← same, List.flatMap_append, List.flatMap_append, ← utf8_eq_flatMap,
    List.length_append, List.length_append]
  omega

theorem not_contains_of_lt {text part : String} (h : (utf8 text).length < (utf8 part).length) :
    ¬Contains text part :=
  fun contains => Nat.not_lt.2 contains.length_le h

theorem Contains.mem {text part : String} {c : Char} (h : Contains text part)
    (member : c ∈ part.toList) : c ∈ text.toList :=
  h.subset member

/-- What is not blank is still there without the blanks at the ends. -/
theorem mem_trim {text : String} {c : Char} (visible : isBlank c = false)
    (member : c ∈ text.toList) : c ∈ (trim text).toList := by
  obtain ⟨before, after, same, blankBefore, blankAfter⟩ := exists_append_strip text.toList
  rw [same, List.mem_append, List.mem_append] at member
  rw [toList_trim]
  obtain (inFront | inside) | behind := member
  · rw [blankBefore c inFront] at visible
    cases visible
  · exact inside
  · rw [blankAfter c behind] at visible
    cases visible

theorem length_trim_le (text : String) : (utf8 (trim text)).length ≤ (utf8 text).length := by
  apply Contains.length_le
  obtain ⟨before, after, same, -, -⟩ := exists_append_strip text.toList
  rw [Contains, toList_trim]
  exact ⟨before, after, same.symm⟩

/-! ### Numbers -/

theorem isDigit_of_mem_repr {n : Nat} {c : Char} (h : c ∈ n.repr.toList) : c.isDigit := by
  rw [Nat.toList_repr] at h
  exact Nat.isDigit_of_mem_toDigits (by decide) (by decide) h

theorem length_utf8_repr (n : Nat) : (utf8 n.repr).length = (Nat.toDigits 10 n).length := by
  have ascii : ∀ c ∈ n.repr.toList, c.toNat < 128 := by
    intro c member
    obtain ⟨-, high⟩ := Bool.and_eq_true_iff.1 (isDigit_of_mem_repr member)
    have code : c.toNat ≤ 57 := UInt32.le_iff_toNat_le.1 (of_decide_eq_true high)
    omega
  rw [utf8_eq_map_toUInt8 ascii, List.length_map, Nat.toList_repr]

/-- A number below a power of ten has no more digits than the exponent says. -/
theorem length_repr_le_of_lt {n k : Nat} (pos : 0 < k) (h : n < 10 ^ k) :
    (utf8 n.repr).length ≤ k := by
  rw [length_utf8_repr]
  exact (Nat.length_toDigits_le_iff (by decide) pos).2 h

/-- A number takes far fewer digits than its own value, or any larger one. -/
theorem length_repr_le {m n : Nat} (large : 128 ≤ n) (h : m ≤ n) :
    (utf8 m.repr).length + 68 ≤ n := by
  obtain ⟨k, rfl⟩ : ∃ k, n = k + 69 := ⟨n - 69, by omega⟩
  have power : k + 69 < 10 ^ (k + 1) := by
    have := Nat.lt_pow_self (n := k) (a := 10) (by decide)
    omega
  have := length_repr_le_of_lt (Nat.succ_pos k) (Nat.lt_of_le_of_lt h power)
  omega

end SecretCodec.Text

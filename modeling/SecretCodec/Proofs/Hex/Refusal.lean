import SecretCodec.Hex
import SecretCodec.Proofs.Success

/-!
# Which numerals are refused, and why

Reading fails at the first defect and reports it (`decode_eq_error_iff`): an odd number of digits
before anything else, then the first byte that is no digit, with its position.
-/

namespace SecretCodec.Hex

variable {index : Nat} {digits : Bytes} {cause : Error}

/-- The first byte that is no digit, after `index` bytes that are digits. -/
def IsFirstDefect (digits : Bytes) (index : Nat) (b : UInt8) : Prop :=
  ∃ front back, digits = front ++ b :: back ∧ front.length = index ∧
    (∀ d ∈ front, value? d.toNat ≠ none) ∧ value? b.toNat = none

theorem isFirstDefect_head {d : UInt8} (h : value? d.toNat = none) :
    IsFirstDefect (d :: digits) 0 d :=
  ⟨[], digits, rfl, rfl, by simp, h⟩

theorem IsFirstDefect.cons {d b : UInt8} (h : IsFirstDefect digits index b)
    (digit : value? d.toNat ≠ none) : IsFirstDefect (d :: digits) (index + 1) b := by
  obtain ⟨front, back, rfl, rfl, known, unknown⟩ := h
  exact ⟨d :: front, back, rfl, rfl, List.forall_mem_cons.2 ⟨digit, known⟩, unknown⟩

theorem isFirstDefect_cons {d b : UInt8} :
    IsFirstDefect (d :: digits) index b ↔
      (value? d.toNat = none ∧ index = 0 ∧ b = d) ∨
        (value? d.toNat ≠ none ∧ ∃ i, index = i + 1 ∧ IsFirstDefect digits i b) := by
  constructor
  · rintro ⟨front, back, same, rfl, known, unknown⟩
    cases front with
    | nil =>
      cases same
      exact .inl ⟨unknown, rfl, rfl⟩
    | cons e front =>
      cases same
      refine .inr ⟨known d List.mem_cons_self, front.length, rfl, front, back, rfl, rfl, ?_,
        unknown⟩
      exact fun e member => known e (List.mem_cons_of_mem d member)
  · rintro (⟨unknown, rfl, rfl⟩ | ⟨digit, i, rfl, later⟩)
    · exact isFirstDefect_head unknown
    · exact later.cons digit

theorem not_isFirstDefect_nil {b : UInt8} : ¬IsFirstDefect [] index b := by
  rintro ⟨front, back, same, -⟩
  cases front <;> cases same

theorem IsFirstDefect.lt {b : UInt8} (h : IsFirstDefect digits index b) :
    index < digits.length := by
  obtain ⟨front, back, rfl, rfl, -⟩ := h
  simp

theorem readDigit_eq_error_iff {b : UInt8} :
    readDigit index b = .error cause ↔ value? b.toNat = none ∧ cause = .invalidDigit b index := by
  rw [readDigit]
  cases value? b.toNat with
  | none => simp [eq_comm]
  | some n => simp

theorem exists_readDigit_iff {b : UInt8} :
    (∃ n, readDigit index b = .ok n) ↔ value? b.toNat ≠ none := by
  rw [readDigit]
  cases value? b.toNat with
  | none => simp
  | some n => simp

/-- Pairs of digits fail at the first byte that is no digit, be it the first or the second of its
pair. -/
theorem decodePairs_eq_error_iff (even : digits.length % 2 = 0) :
    decodePairs index digits = .error cause ↔
      ∃ i b, IsFirstDefect digits i b ∧ cause = .invalidDigit b (index + i) := by
  induction index, digits using decodePairs.induct generalizing cause with
  | case1 index high low rest ih =>
    have evenRest : rest.length % 2 = 0 := by
      simp only [List.length_cons] at even
      omega
    rw [decodePairs, bind_eq_error_iff]
    constructor
    · rintro (first | ⟨h, isHigh, later⟩)
      · obtain ⟨unknown, rfl⟩ := readDigit_eq_error_iff.1 first
        exact ⟨0, high, isFirstDefect_head unknown, rfl⟩
      have highKnown := exists_readDigit_iff.1 ⟨h, isHigh⟩
      obtain second | ⟨l, isLow, later⟩ := bind_eq_error_iff.1 later
      · obtain ⟨unknown, rfl⟩ := readDigit_eq_error_iff.1 second
        exact ⟨1, low, (isFirstDefect_head unknown).cons highKnown, rfl⟩
      have lowKnown := exists_readDigit_iff.1 ⟨l, isLow⟩
      obtain inRest | ⟨more, -, done⟩ := bind_eq_error_iff.1 later
      · obtain ⟨i, b, defect, rfl⟩ := (ih evenRest).1 inRest
        have position : index + 2 + i = index + (i + 2) := by omega
        exact ⟨i + 2, b, (defect.cons lowKnown).cons highKnown, by rw [position]⟩
      · cases done
    · rintro ⟨i, b, defect, rfl⟩
      obtain ⟨unknown, rfl, rfl⟩ | ⟨highKnown, j, rfl, later⟩ := isFirstDefect_cons.1 defect
      · exact .inl (readDigit_eq_error_iff.2 ⟨unknown, rfl⟩)
      obtain ⟨h, isHigh⟩ := exists_readDigit_iff.2 highKnown
      refine .inr ⟨h, isHigh, bind_eq_error_iff.2 ?_⟩
      obtain ⟨unknown, rfl, rfl⟩ | ⟨lowKnown, k, rfl, inRest⟩ := isFirstDefect_cons.1 later
      · exact .inl (readDigit_eq_error_iff.2 ⟨unknown, rfl⟩)
      obtain ⟨l, isLow⟩ := exists_readDigit_iff.2 lowKnown
      refine .inr ⟨l, isLow, bind_eq_error_iff.2 (.inl ?_)⟩
      have position : index + (k + 1 + 1) = index + 2 + k := by omega
      exact (ih evenRest).2 ⟨k, b, inRest, by rw [position]⟩
  | case2 digits index short =>
    cases digits with
    | nil => simp [decodePairs, not_isFirstDefect_nil, pure, Except.pure]
    | cons high rest =>
      cases rest with
      | nil => cases even
      | cons low rest => exact (short high low rest rfl).elim

/-- Reading fails exactly where the number of digits is odd or some byte is no digit, and it says
which of the two holds first. -/
theorem decode_eq_error_iff :
    decode digits = .error cause ↔
      (digits.length % 2 = 1 ∧ cause = .oddLength) ∨
        (digits.length % 2 = 0 ∧ ∃ i b, IsFirstDefect digits i b ∧ cause = .invalidDigit b i) := by
  rw [decode]
  split
  · next odd => simp [odd, eq_comm]
  · next even =>
    have even : digits.length % 2 = 0 := by omega
    simp [even, decodePairs_eq_error_iff even]

end SecretCodec.Hex

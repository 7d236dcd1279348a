/-!
# Cutting a list into blocks

Ciphers and hash functions work on blocks of a fixed length. `cut` takes as many whole blocks from
the front of a list as there are, and `rest` is what is left, which is shorter than a block
(`length_rest_lt`). Together they are the list again (`join_cut_append_rest`). Whole blocks in front
of a list are cut off as they are, and leave the cutting of the list unchanged (`cut_append`), so a
list may arrive in parts if the rest of one is put in front of the next (`cut_append_cut_rest`).
-/

namespace SecretCodec.Blocks

variable {α : Type}

/-- The whole blocks of length `n` at the front of a list. There are none of length zero. -/
def cut (n : Nat) (l : List α) : List (Vector α n) :=
  if h : 0 < n ∧ (l.take n).length = n then
    ⟨(l.take n).toArray, h.2⟩ :: cut n (l.drop n)
  else []
termination_by l.length
decreasing_by
  rw [List.length_take] at h
  rw [List.length_drop]
  omega

/-- What is left of a list after its whole blocks of length `n`. -/
def rest (n : Nat) (l : List α) : List α := l.drop (l.length / n * n)

/-- The list that a list of blocks spells. -/
def join {n : Nat} (bs : List (Vector α n)) : List α := bs.flatMap Vector.toList

variable {n : Nat}

@[simp] theorem join_nil : join ([] : List (Vector α n)) = [] := rfl

@[simp] theorem join_cons (b : Vector α n) (bs : List (Vector α n)) :
    join (b :: bs) = b.toList ++ join bs := rfl

@[simp] theorem length_join (bs : List (Vector α n)) :
    (join bs).length = bs.length * n := by
  induction bs with
  | nil => simp
  | cons b bs ih => simp [ih, Nat.succ_mul, Nat.add_comm]

@[simp] theorem cut_nil : cut n ([] : List α) = [] := by
  rw [cut, dif_neg]
  rintro ⟨pos, whole⟩
  rw [List.take_nil, List.length_nil] at whole
  omega

theorem cut_toList_append (pos : 0 < n) (b : Vector α n) (l : List α) :
    cut n (b.toList ++ l) = b :: cut n l := by
  rw [cut, dif_pos ⟨pos, by simp⟩]
  have front : (b.toList ++ l).take n = b.toList := by simp
  have back : (b.toList ++ l).drop n = l := by simp
  simp only [front, back]
  rfl

/-- Whole blocks in front are cut off one by one. -/
theorem cut_append (pos : 0 < n) (bs : List (Vector α n)) (l : List α) :
    cut n (join bs ++ l) = bs ++ cut n l := by
  induction bs with
  | nil => simp
  | cons b bs ih => simp [cut_toList_append pos, ih]

theorem cut_join (pos : 0 < n) (bs : List (Vector α n)) : cut n (join bs) = bs := by
  simpa using cut_append pos bs ([] : List α)

/-- The blocks and the rest are the list again. -/
theorem join_cut_append_rest (n : Nat) (l : List α) : join (cut n l) ++ rest n l = l := by
  induction h : l.length using Nat.strongRecOn generalizing l with
  | ind m ih =>
    rw [cut]
    split
    · next some =>
      obtain ⟨pos, whole⟩ := some
      have fits : n ≤ l.length := by
        rw [List.length_take] at whole
        omega
      have count : l.length / n = (l.length - n) / n + 1 := by
        rw [Nat.div_eq_sub_div pos fits]
      have tail : rest n l = rest n (l.drop n) := by
        rw [rest, rest, List.drop_drop, List.length_drop, count, Nat.succ_mul, Nat.add_comm]
      rw [join_cons, List.append_assoc, tail,
        ih (l.drop n).length (by rw [List.length_drop]; omega) (l.drop n) rfl]
      simp
    · next short =>
      have none : l.length / n * n = 0 := by
        rw [List.length_take] at short
        by_cases pos : 0 < n
        · rw [Nat.div_eq_of_lt (by omega), Nat.zero_mul]
        · rw [Nat.eq_zero_of_not_pos pos, Nat.mul_zero]
      simp [rest, none]

theorem length_rest (n : Nat) (l : List α) : (rest n l).length = l.length % n := by
  rw [rest, List.length_drop, Nat.mul_comm, ← Nat.mod_eq_sub_mul_div]

theorem length_rest_lt (pos : 0 < n) (l : List α) : (rest n l).length < n := by
  rw [length_rest]
  exact Nat.mod_lt _ pos

/-- A list of whole blocks is what its blocks spell. -/
theorem join_cut {l : List α} (h : l.length % n = 0) : join (cut n l) = l := by
  have whole := join_cut_append_rest n l
  have left := length_rest n l
  rw [h] at left
  rwa [List.eq_nil_of_length_eq_zero left, List.append_nil] at whole

theorem length_cut (pos : 0 < n) (l : List α) : (cut n l).length = l.length / n := by
  have whole := congrArg List.length (join_cut_append_rest n l)
  rw [List.length_append, length_join, length_rest, Nat.mul_comm] at whole
  have split := Nat.div_add_mod l.length n
  exact Nat.eq_of_mul_eq_mul_left pos (by omega)

theorem rest_append (pos : 0 < n) (bs : List (Vector α n)) (l : List α) :
    rest n (join bs ++ l) = rest n l := by
  have := join_cut_append_rest n (join bs ++ l)
  rw [cut_append pos, join, List.flatMap_append, List.append_assoc] at this
  have tail := List.append_cancel_left this
  rw [← join] at tail
  exact List.append_cancel_left (tail.trans (join_cut_append_rest n l).symm)

theorem cut_of_not_pos (h : ¬0 < n) (l : List α) : cut n l = [] := by
  rw [cut, dif_neg fun some => h some.1]

/-- A list that follows another is cut together with the rest of that one. -/
theorem cut_append_cut_rest (n : Nat) (l more : List α) :
    cut n l ++ cut n (rest n l ++ more) = cut n (l ++ more) := by
  by_cases pos : 0 < n
  · rw [← cut_append pos, ← List.append_assoc, join_cut_append_rest]
  · simp [cut_of_not_pos pos]

theorem rest_rest_append (n : Nat) (l more : List α) :
    rest n (rest n l ++ more) = rest n (l ++ more) := by
  by_cases pos : 0 < n
  · rw [← rest_append pos (cut n l), ← List.append_assoc, join_cut_append_rest]
  · simp [rest, Nat.eq_zero_of_not_pos pos]

end SecretCodec.Blocks

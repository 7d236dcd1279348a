/-!
# Blanks around a text

Names and stored values are taken without the blanks around them. A blank is any character with the
Unicode property White_Space, so `trim` also removes no-break and ideographic spaces. `trim` leaves
a text alone exactly when neither of its ends is a blank (`strip_eq_self`), and what it removes is
blank (`exists_append_strip`).
-/

namespace SecretCodec.Text

/-- The code points with the property White_Space, as inclusive ranges. -/
def blankRanges : List (Nat × Nat) := [
  (0x09, 0x0D), (0x20, 0x20), (0x85, 0x85), (0xA0, 0xA0), (0x1680, 0x1680), (0x2000, 0x200A),
  (0x2028, 0x2029), (0x202F, 0x202F), (0x205F, 0x205F), (0x3000, 0x3000)]

/-- Whether a character is white space. -/
def isBlank (c : Char) : Bool := blankRanges.any fun r => r.1 ≤ c.toNat && c.toNat ≤ r.2

/-- The characters between the first and the last that are not blank. -/
def strip (cs : List Char) : List Char :=
  ((cs.dropWhile isBlank).reverse.dropWhile isBlank).reverse

/-- A text without the blanks at its ends. -/
def trim (text : String) : String := String.ofList (strip text.toList)

@[simp] theorem toList_trim (text : String) : (trim text).toList = strip text.toList := by
  simp [trim]

private theorem isBlank_of_mem_takeWhile {cs : List Char} :
    ∀ c ∈ cs.takeWhile isBlank, isBlank c :=
  List.all_eq_true.1 List.all_takeWhile

private theorem dropWhile_of_forall {cs : List Char} (h : ∀ c ∈ cs, isBlank c) :
    cs.dropWhile isBlank = [] := by
  induction cs with
  | nil => rfl
  | cons c rest ih =>
    simp [h c List.mem_cons_self, ih fun d hd => h d (List.mem_cons_of_mem c hd)]

/-- What `strip` removes is blank, and it removes from the ends only. -/
theorem exists_append_strip (cs : List Char) :
    ∃ before after, cs = before ++ strip cs ++ after ∧
      (∀ c ∈ before, isBlank c) ∧ ∀ c ∈ after, isBlank c := by
  refine ⟨cs.takeWhile isBlank, ((cs.dropWhile isBlank).reverse.takeWhile isBlank).reverse,
    ?_, isBlank_of_mem_takeWhile, fun c hc => ?_⟩
  · rw [strip, List.append_assoc, ← List.reverse_append, List.takeWhile_append_dropWhile,
      List.reverse_reverse, List.takeWhile_append_dropWhile]
  · exact isBlank_of_mem_takeWhile c (List.mem_reverse.1 hc)

/-- Blanks before and after are removed, whatever is between them. -/
theorem strip_append {before after : List Char} (cs : List Char)
    (hb : ∀ c ∈ before, isBlank c) (ha : ∀ c ∈ after, isBlank c) :
    strip (before ++ cs ++ after) = strip cs := by
  have skip : ∀ front rest : List Char, (∀ c ∈ front, isBlank c) →
      (front ++ rest).dropWhile isBlank = rest.dropWhile isBlank := by
    intro front rest h
    simp [List.dropWhile_append, dropWhile_of_forall h]
  rw [strip, List.append_assoc, skip _ _ hb, List.dropWhile_append]
  split
  · next h =>
    have nothing : cs.dropWhile isBlank = [] := by simpa using h
    simp [strip, nothing, dropWhile_of_forall ha]
  · rw [List.reverse_append, skip _ _ (by simpa using ha), strip]

/-- A text whose ends are not blank is left alone. -/
theorem strip_eq_self {cs : List Char} (first : ∀ c ∈ cs.head?, isBlank c = false)
    (last : ∀ c ∈ cs.getLast?, isBlank c = false) : strip cs = cs := by
  have keep : ∀ ds : List Char, (∀ c ∈ ds.head?, isBlank c = false) →
      ds.dropWhile isBlank = ds := by
    intro ds h
    cases ds with
    | nil => rfl
    | cons d rest => simp [h d (by simp)]
  rw [strip, keep cs first, keep cs.reverse (by simpa using last), List.reverse_reverse]

end SecretCodec.Text

import Mathlib.Data.List.Forall2
import SecretCodec.Proofs.Text.Ascii

/-!
# Texts as people write them

People put blanks around a text, and write its letters in either case. Blanks around a text without
blanks at its ends can be taken off again (`IsBare.trim_append`). Two texts are spelled alike if they
have the same characters one by one, up to the case of ASCII letters, and that is so exactly if they
have the same upper-case form (`spelledAlike_iff`). No other character has a case here, so no
character outside ASCII is taken for a letter.
-/

namespace SecretCodec.Text

variable {before text after s t : String} {c d : Char}

/-! ### Blanks -/

/-- Whether a text neither begins nor ends with a blank. -/
def IsBare (text : String) : Prop :=
  (∀ c ∈ text.toList.head?, ¬isBlank c) ∧ ∀ c ∈ text.toList.getLast?, ¬isBlank c

/-- Whether a text is blanks only. -/
def AreBlanks (text : String) : Prop := ∀ c ∈ text.toList, isBlank c

-- The instances are given by name, so that only the characters of the text are gone through.
instance (text : String) : Decidable (IsBare text) :=
  @instDecidableAnd _ _ (Option.decidableForallMem text.toList.head?)
    (Option.decidableForallMem text.toList.getLast?)

instance (text : String) : Decidable (AreBlanks text) := List.decidableBAll (isBlank ·) text.toList

theorem IsBare.trim_append (bare : IsBare text) (blanksBefore : AreBlanks before)
    (blanksAfter : AreBlanks after) : trim (before ++ text ++ after) = text := by
  have whole : strip text.toList = text.toList :=
    strip_eq_self (fun c member => Bool.eq_false_iff.2 (bare.1 c member))
      (fun c member => Bool.eq_false_iff.2 (bare.2 c member))
  apply String.toList_inj.1
  rw [toList_trim, String.toList_append, String.toList_append,
    strip_append text.toList blanksBefore blanksAfter, whole]

/-- A text in which there is no blank at all has none at its ends. -/
theorem isBare_of_forall (h : ∀ c ∈ text.toList, ¬isBlank c) : IsBare text :=
  ⟨fun c first => h c (List.mem_of_mem_head? first),
    fun c last => h c (List.mem_of_mem_getLast? last)⟩

/-- What `trim` takes off is blanks. -/
theorem exists_append_trim (text : String) :
    ∃ before after, text = before ++ trim text ++ after ∧ AreBlanks before ∧ AreBlanks after := by
  obtain ⟨before, after, same, blanksBefore, blanksAfter⟩ := exists_append_strip text.toList
  refine ⟨String.ofList before, String.ofList after, ?_, by simpa [AreBlanks], by simpa [AreBlanks]⟩
  apply String.toList_inj.1
  simpa using same

/-! ### Case -/

/-- Whether two characters are the same, or a letter of ASCII in its two cases. -/
def SameLetter (c d : Char) : Prop :=
  c = d ∨ (c.isUpper ∧ d.toNat = c.toNat + 32) ∨ (d.isUpper ∧ c.toNat = d.toNat + 32)

/-- Whether two texts have the same characters one by one, up to the case of ASCII letters. -/
def SpelledAlike (s t : String) : Prop := List.Forall₂ SameLetter s.toList t.toList

theorem isUpper_iff : c.isUpper ↔ 65 ≤ c.toNat ∧ c.toNat ≤ 90 := by
  delta Char.isUpper
  rw [decide_eq_true_iff]
  exact and_congr UInt32.le_iff_toNat_le UInt32.le_iff_toNat_le

theorem sameLetter_iff : SameLetter c d ↔ c.toUpper = d.toUpper := by
  rw [SameLetter, ← Char.toNat_inj, ← Char.toNat_inj, toNat_toUpper, toNat_toUpper, isUpper_iff,
    isUpper_iff]
  split <;> split <;> omega

theorem spelledAlike_iff_map :
    SpelledAlike s t ↔ s.toList.map Char.toUpper = t.toList.map Char.toUpper := by
  have letters : SpelledAlike s t ↔
      List.Forall₂ (fun c d : Char => c.toUpper = d.toUpper) s.toList t.toList := by
    simp only [SpelledAlike, ← sameLetter_iff]
  rw [letters, ← List.forall₂_eq_eq_eq, List.forall₂_map_left_iff, List.forall₂_map_right_iff]

theorem spelledAlike_iff : SpelledAlike s t ↔ s.toUpper = t.toUpper := by
  rw [spelledAlike_iff_map, ← String.toList_inj, String.toUpper, String.toUpper, String.toList_map,
    String.toList_map]

/-- No letter is a blank, so case makes no difference to that. -/
theorem SameLetter.isBlank_eq (h : SameLetter c d) : isBlank c = isBlank d := by
  obtain rfl | ⟨upper, lower⟩ | ⟨upper, lower⟩ := h
  · rfl
  all_goals
    rw [isUpper_iff] at upper
    rw [isBlank_eq_false (by omega) (by omega), isBlank_eq_false (by omega) (by omega)]

theorem SpelledAlike.isBare (h : SpelledAlike s t) (none : ∀ c ∈ t.toList, ¬isBlank c) :
    IsBare s := by
  apply isBare_of_forall
  intro c member
  have upper : c.toUpper ∈ t.toList.map Char.toUpper :=
    spelledAlike_iff_map.1 h ▸ List.mem_map_of_mem member
  obtain ⟨d, inText, same⟩ := List.mem_map.1 upper
  rw [← (sameLetter_iff.2 same).isBlank_eq]
  exact none d inText

end SecretCodec.Text

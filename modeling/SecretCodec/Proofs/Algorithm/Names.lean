import SecretCodec.Algorithm.Lookup
import SecretCodec.Proofs.Success
import SecretCodec.Proofs.Text.Spelling

/-!
# Names as people write them

A name stands for the algorithm whose canonical name it is, blanks around it and the case of ASCII
letters apart (`parse_eq_ok_iff`, `isSpelled_iff`), and for one algorithm at most (`IsNamed.unique`).
A name that stands for none is unknown, and is reported without the blanks (`parse_eq_error_iff`).
-/

namespace SecretCodec

namespace Algorithm

variable {a b : Algorithm} {name : String}

/-- Whether a name as people write it is the name of an algorithm. -/
def IsNamed (a : Algorithm) (name : String) : Prop := a.name = (Text.trim name).toUpper

instance (a : Algorithm) (name : String) : Decidable (a.IsNamed name) :=
  inferInstanceAs (Decidable (_ = _))

theorem IsNamed.unique (h : a.IsNamed name) (h' : b.IsNamed name) : a = b :=
  name_injective (h.trans h'.symm)

/-! ### Spelling -/

/-- Whether a text is the canonical name of an algorithm, written in any case and with any blanks
around it. -/
def IsSpelled (a : Algorithm) (text : String) : Prop :=
  ∃ before spelled after, text = before ++ spelled ++ after ∧
    Text.AreBlanks before ∧ Text.AreBlanks after ∧ Text.SpelledAlike spelled a.name

/-- Canonical names are in upper case. -/
@[simp] theorem toUpper_name (a : Algorithm) : a.name.toUpper = a.name := by
  have upper : ∀ a ∈ all, a.name.toUpper = a.name := by decide +kernel
  exact upper a (mem_all a)

theorem not_isBlank_of_mem_name (a : Algorithm) : ∀ c ∈ a.name.toList, ¬Text.isBlank c := by
  have visible : ∀ a ∈ all, a.name.toList.all (!Text.isBlank ·) := by decide +kernel
  intro c member
  simpa using List.all_eq_true.1 (visible a (mem_all a)) c member

/-- What is looked up are the names that people can be said to have written. -/
theorem isSpelled_iff : a.IsSpelled name ↔ a.IsNamed name := by
  constructor
  · rintro ⟨before, spelled, after, rfl, blanksBefore, blanksAfter, alike⟩
    have bare : Text.IsBare spelled := alike.isBare a.not_isBlank_of_mem_name
    rw [IsNamed, bare.trim_append blanksBefore blanksAfter, Text.spelledAlike_iff.1 alike,
      toUpper_name]
  · intro named
    obtain ⟨before, after, same, blanksBefore, blanksAfter⟩ := Text.exists_append_trim name
    refine ⟨before, Text.trim name, after, same, blanksBefore, blanksAfter, ?_⟩
    rw [Text.spelledAlike_iff, toUpper_name]
    exact named.symm

end Algorithm

/-! ### Looking up -/

variable {name : String} {cause : Error}

/-- The entry that is found is that of the algorithm with this canonical name. -/
theorem lookup_eq_match (name : String) :
    lookup name =
      match Algorithm.ofName? (Text.trim name).toUpper with
      | some a => .ok a.entry
      | none => .error (.unknownAlgorithm (Text.trim name)) := by
  have found : (catalog.find? fun e => e.name = (Text.trim name).toUpper) =
      (Algorithm.ofName? (Text.trim name).toUpper).map Algorithm.entry := by
    rw [catalog, List.find?_map]
    rfl
  rw [lookup, found]
  cases Algorithm.ofName? (Text.trim name).toUpper <;> rfl

theorem lookup_eq_ok_iff {entry : Entry} :
    lookup name = .ok entry ↔ ∃ a : Algorithm, a.IsNamed name ∧ a.entry = entry := by
  simp only [Algorithm.IsNamed, ← Algorithm.ofName?_eq_some_iff, lookup_eq_match]
  cases Algorithm.ofName? (Text.trim name).toUpper with
  | none => simp
  | some b => simp

theorem lookup_eq_error_iff :
    lookup name = .error cause ↔
      (∀ a : Algorithm, ¬a.IsNamed name) ∧ cause = .unknownAlgorithm (Text.trim name) := by
  simp only [Algorithm.IsNamed, ← Algorithm.ofName?_eq_some_iff, lookup_eq_match]
  cases Algorithm.ofName? (Text.trim name).toUpper with
  | none => simp [eq_comm]
  | some b => simp

namespace Algorithm

variable {a : Algorithm}

theorem parse_eq_ok_iff : parse name = .ok a ↔ a.IsNamed name := by
  rw [parse, map_eq_ok_iff]
  simp only [lookup_eq_ok_iff]
  constructor
  · rintro ⟨_, ⟨b, named, rfl⟩, same⟩
    rwa [← same, algorithm_entry]
  · intro named
    exact ⟨a.entry, ⟨a, named, rfl⟩, algorithm_entry a⟩

/-- The canonical name itself is one of the names that people may write. -/
theorem parse_name (a : Algorithm) : parse a.name = .ok a := by
  have spelled : a.IsSpelled a.name :=
    ⟨"", a.name, "", by simp, by simp [Text.AreBlanks], by simp [Text.AreBlanks],
      Text.spelledAlike_iff.2 rfl⟩
  exact parse_eq_ok_iff.2 (isSpelled_iff.1 spelled)

theorem parse_eq_error_iff :
    parse name = .error cause ↔
      (∀ a : Algorithm, ¬a.IsNamed name) ∧ cause = .unknownAlgorithm (Text.trim name) := by
  rw [parse, map_eq_error_iff, lookup_eq_error_iff]

end Algorithm

end SecretCodec

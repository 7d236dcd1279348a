import SecretCodec.Proofs.Json.Grammar

/-!
# Reading numbers

A number is read as far as it goes. What is read is a number, and it stands before what is left
(`readUnsigned_sound`). Conversely a number is read whole where nothing follows that would extend
it (`readUnsigned_append`).
-/

namespace SecretCodec.Json

variable {cs rest spelling digits integer fraction exponent : List Char}

/-! ### Where a number ends -/

/-- Whether a text does not start with a digit. -/
def NoDigit (rest : List Char) : Prop := ∀ c ∈ rest.head?, ¬c.isDigit

/-- Whether a text does not start with a character that could extend a number. -/
def Bounded (rest : List Char) : Prop :=
  ∀ c ∈ rest.head?, ¬c.isDigit ∧ c ≠ '.' ∧ c ≠ 'e' ∧ c ≠ 'E'

theorem Bounded.noDigit (h : Bounded rest) : NoDigit rest := fun c first => (h c first).1

theorem bounded_nil : Bounded [] := nofun

theorem bounded_cons {c : Char} (digit : c.isDigit = false) (point : c ≠ '.') (lower : c ≠ 'e')
    (upper : c ≠ 'E') : Bounded (c :: rest) := by
  intro d first
  cases first
  exact ⟨Bool.eq_false_iff.1 digit, point, lower, upper⟩

/-! ### Digits -/

theorem takeWhile_isDigit_append (all : ∀ c ∈ digits, c.isDigit) (stop : NoDigit rest) :
    (digits ++ rest).takeWhile Char.isDigit = digits ∧
      (digits ++ rest).dropWhile Char.isDigit = rest := by
  rw [List.takeWhile_append_of_pos all, List.dropWhile_append_of_pos all]
  cases rest with
  | nil => simp
  | cons c rest =>
    have := stop c rfl
    rw [List.takeWhile_cons_of_neg this, List.dropWhile_cons_of_neg this, List.append_nil]
    exact ⟨rfl, rfl⟩

theorem readDigits_sound (h : readDigits cs = some (digits, rest)) :
    cs = digits ++ rest ∧ AreDigits digits := by
  rw [readDigits.eq_def] at h
  split at h
  · cases h
  · next nonempty =>
    cases h
    exact ⟨List.takeWhile_append_dropWhile.symm, nonempty,
      List.all_eq_true.1 List.all_takeWhile⟩

theorem readDigits_append (are : AreDigits digits) (stop : NoDigit rest) :
    readDigits (digits ++ rest) = some (digits, rest) := by
  obtain ⟨taken, dropped⟩ := takeWhile_isDigit_append are.2 stop
  rw [readDigits.eq_def, taken, dropped]
  split
  · exact absurd rfl are.1
  · rfl

theorem AreDigits.exists_cons (h : AreDigits digits) :
    ∃ c more, digits = c :: more ∧ c.isDigit := by
  obtain ⟨nonempty, all⟩ := h
  obtain ⟨c, more, rfl⟩ := List.exists_cons_of_ne_nil nonempty
  exact ⟨c, more, rfl, all c List.mem_cons_self⟩

/-! ### The parts of a number -/

theorem readInteger_sound (h : readInteger cs = some (integer, rest)) :
    cs = integer ++ rest ∧ IsInteger integer := by
  rw [readInteger.eq_def] at h
  split at h
  · cases h
    exact ⟨rfl, .inl rfl⟩
  · next noZero =>
    obtain ⟨rfl, are⟩ := readDigits_sound h
    obtain ⟨c, more, rfl, -⟩ := are.exists_cons
    refine ⟨rfl, .inr ⟨are, ?_⟩⟩
    rintro same
    cases same
    exact noZero _ rfl

theorem readInteger_append (is : IsInteger integer) (stop : NoDigit rest) :
    readInteger (integer ++ rest) = some (integer, rest) := by
  obtain rfl | ⟨are, noZero⟩ := is
  · rfl
  · rw [readInteger.eq_def]
    split
    · next same =>
      obtain ⟨c, more, rfl, -⟩ := are.exists_cons
      cases same
      exact absurd rfl noZero
    · exact readDigits_append are stop

theorem readFraction_sound (h : readFraction cs = some (fraction, rest)) :
    cs = fraction ++ rest ∧ IsFraction fraction := by
  rw [readFraction.eq_def] at h
  split at h
  · simp only [Option.bind_eq_bind, Option.bind_eq_some_iff] at h
    obtain ⟨⟨digits, after⟩, read, same⟩ := h
    cases same
    obtain ⟨rfl, are⟩ := readDigits_sound read
    exact ⟨rfl, .inr ⟨digits, rfl, are⟩⟩
  · cases h
    exact ⟨rfl, .inl rfl⟩

theorem readFraction_append (is : IsFraction fraction) (stop : NoDigit rest)
    (point : rest.head? ≠ some '.') : readFraction (fraction ++ rest) = some (fraction, rest) := by
  obtain rfl | ⟨digits, rfl, are⟩ := is
  · rw [List.nil_append, readFraction.eq_def]
    split
    · exact absurd rfl point
    · rfl
  · rw [List.cons_append, readFraction, readDigits_append are stop]
    rfl

theorem readSign_sound (cs : List Char) :
    cs = (readSign cs).1 ++ (readSign cs).2 ∧ (readSign cs).1 ∈ [[], ['+'], ['-']] := by
  rw [readSign.eq_def]
  split <;> simp

theorem readSign_append {sign : List Char} (known : sign ∈ [[], ['+'], ['-']])
    (are : AreDigits digits) : readSign (sign ++ digits ++ rest) = (sign, digits ++ rest) := by
  obtain ⟨c, more, rfl, digit⟩ := are.exists_cons
  simp only [List.mem_cons, List.not_mem_nil, or_false] at known
  obtain rfl | rfl | rfl := known
  · rw [List.nil_append, readSign.eq_def]
    split
    · next same =>
      cases same
      cases digit
    · next same =>
      cases same
      cases digit
    · rfl
  · rfl
  · rfl

theorem readExponent_sound (h : readExponent cs = some (exponent, rest)) :
    cs = exponent ++ rest ∧ IsExponent exponent := by
  rw [readExponent.eq_def] at h
  split at h
  · cases h
    exact ⟨rfl, .inl rfl⟩
  · next letter more =>
    split at h
    · next isLetter =>
      simp only [Option.bind_eq_bind, Option.bind_eq_some_iff] at h
      obtain ⟨⟨digits, after⟩, read, same⟩ := h
      cases same
      obtain ⟨whole, known⟩ := readSign_sound more
      obtain ⟨remains, are⟩ := readDigits_sound read
      refine ⟨?_, .inr ⟨letter, _, digits, rfl, isLetter, known, are⟩⟩
      rw [List.cons_append, List.cons_append, List.append_assoc, ← remains, ← whole]
    · cases h
      exact ⟨rfl, .inl rfl⟩

theorem readExponent_append (is : IsExponent exponent) (stop : Bounded rest) :
    readExponent (exponent ++ rest) = some (exponent, rest) := by
  obtain rfl | ⟨letter, sign, digits, rfl, isLetter, known, are⟩ := is
  · cases rest with
    | nil => rfl
    | cons c rest =>
      obtain ⟨-, -, lower, upper⟩ := stop c rfl
      rw [List.nil_append, readExponent, if_neg (not_or.2 ⟨lower, upper⟩)]
  · rw [List.cons_append, List.cons_append, readExponent, if_pos isLetter]
    simp only [readSign_append known are, readDigits_append are stop.noDigit]
    rfl

/-! ### Numbers -/

theorem readUnsigned_sound (h : readUnsigned cs = some (spelling, rest)) :
    cs = spelling ++ rest ∧ IsUnsigned spelling := by
  simp only [readUnsigned, Option.bind_eq_bind, Option.bind_eq_some_iff] at h
  obtain ⟨⟨integer, _⟩, readI, ⟨fraction, _⟩, readF, ⟨exponent, _⟩, readE, same⟩ := h
  cases same
  obtain ⟨rfl, isI⟩ := readInteger_sound readI
  obtain ⟨rfl, isF⟩ := readFraction_sound readF
  obtain ⟨rfl, isE⟩ := readExponent_sound readE
  refine ⟨?_, integer, fraction, exponent, rfl, isI, isF, isE⟩
  simp only [List.append_assoc]

/-- An exponent, like the text after it, starts with nothing that could extend a fraction. -/
theorem IsExponent.head_append (is : IsExponent exponent) (stop : Bounded rest) :
    NoDigit (exponent ++ rest) ∧ (exponent ++ rest).head? ≠ some '.' := by
  obtain rfl | ⟨letter, sign, digits, rfl, isLetter, -, -⟩ := is
  · exact ⟨stop.noDigit, fun point => (stop '.' point).2.1 rfl⟩
  · obtain rfl | rfl := isLetter
    · exact ⟨fun c first => by cases first; decide, fun point => by cases point⟩
    · exact ⟨fun c first => by cases first; decide, fun point => by cases point⟩

/-- A number that nothing extends is read whole. -/
theorem readUnsigned_append (is : IsUnsigned spelling) (stop : Bounded rest) :
    readUnsigned (spelling ++ rest) = some (spelling, rest) := by
  obtain ⟨integer, fraction, exponent, rfl, isI, isF, isE⟩ := is
  obtain ⟨noDigit, noPoint⟩ := isE.head_append stop
  have afterInteger : NoDigit (fraction ++ (exponent ++ rest)) := by
    obtain rfl | ⟨digits, rfl, -⟩ := isF
    · exact noDigit
    · intro c first
      cases first
      decide
  rw [List.append_assoc, List.append_assoc, readUnsigned, readInteger_append isI afterInteger]
  simp only [Option.bind_eq_bind, Option.bind_some, readFraction_append isF noDigit noPoint,
    readExponent_append isE stop]
  rfl

/-- A number without its sign starts with a digit. -/
theorem IsUnsigned.exists_cons (is : IsUnsigned spelling) :
    ∃ c more, spelling = c :: more ∧ c.isDigit := by
  obtain ⟨integer, fraction, exponent, rfl, isI, -, -⟩ := is
  obtain rfl | ⟨are, -⟩ := isI
  · exact ⟨'0', _, rfl, by decide⟩
  · obtain ⟨c, more, rfl, digit⟩ := are.exists_cons
    exact ⟨c, _, rfl, digit⟩

end SecretCodec.Json

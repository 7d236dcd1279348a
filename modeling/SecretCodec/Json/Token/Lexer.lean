import SecretCodec.Json.Token

/-!
# Reading tokens

What follows a token is shorter than the text that starts with it, so a text is used up after at
most as many steps as it has characters. `lex` reads all tokens of a text and fails if some of the
text belongs to none.
-/

namespace SecretCodec.Json

theorem length_of_readString {cs : List Char} {result : Units × List Char}
    (h : readString cs = some result) : result.2.length < cs.length := by
  fun_induction readString cs generalizing result
  case case1 => cases h
  case case2 =>
    cases h
    simp
  case case3 => cases h
  case case4 ih =>
    simp only [Option.bind_eq_bind, Option.bind_eq_some_iff] at h
    obtain ⟨unit, _, read, found, same⟩ := h
    cases same
    have := ih found
    simp only [List.length_cons]
    omega
  case case5 => cases h
  case case6 ih =>
    simp only [Option.bind_eq_bind, Option.bind_eq_some_iff] at h
    obtain ⟨unit, _, read, found, same⟩ := h
    cases same
    have := ih found
    simp only [List.length_cons]
    omega
  case case7 => cases h
  case case8 ih =>
    simp only [Option.bind_eq_bind, Option.bind_eq_some_iff] at h
    obtain ⟨read, found, same⟩ := h
    cases same
    have := ih found
    simp only [List.length_cons]
    omega

theorem length_of_readDigits {cs : List Char} {result : List Char × List Char}
    (h : readDigits cs = some result) : result.2.length < cs.length := by
  have whole := congrArg List.length (List.takeWhile_append_dropWhile (p := Char.isDigit) (l := cs))
  rw [List.length_append] at whole
  simp only [readDigits] at h
  split at h
  · cases h
  · next nonempty =>
    cases h
    have := List.length_pos_iff.2 nonempty
    simp only
    omega

theorem length_of_readInteger {cs : List Char} {result : List Char × List Char}
    (h : readInteger cs = some result) : result.2.length < cs.length := by
  simp only [readInteger] at h
  split at h
  · cases h
    simp
  · exact length_of_readDigits h

theorem length_of_readFraction {cs : List Char} {result : List Char × List Char}
    (h : readFraction cs = some result) : result.2.length ≤ cs.length := by
  simp only [readFraction] at h
  split at h
  · simp only [Option.bind_eq_bind, Option.bind_eq_some_iff] at h
    obtain ⟨read, found, same⟩ := h
    cases same
    have := length_of_readDigits found
    simp only [List.length_cons]
    omega
  · cases h
    exact Nat.le_refl _

theorem length_readSign (cs : List Char) : (readSign cs).2.length ≤ cs.length := by
  simp only [readSign]
  split <;> simp

theorem length_of_readExponent {cs : List Char} {result : List Char × List Char}
    (h : readExponent cs = some result) : result.2.length ≤ cs.length := by
  simp only [readExponent] at h
  split at h
  · cases h
    exact Nat.le_refl _
  · next c rest =>
    split at h
    · simp only [Option.bind_eq_bind, Option.bind_eq_some_iff] at h
      obtain ⟨read, found, same⟩ := h
      cases same
      have := length_of_readDigits found
      have := length_readSign rest
      simp only [List.length_cons]
      omega
    · cases h
      exact Nat.le_refl _

theorem length_of_readUnsigned {cs : List Char} {result : List Char × List Char}
    (h : readUnsigned cs = some result) : result.2.length < cs.length := by
  simp only [readUnsigned, Option.bind_eq_bind, Option.bind_eq_some_iff] at h
  obtain ⟨integer, readInteger, fraction, readFraction, exponent, readExponent, same⟩ := h
  cases same
  have := length_of_readInteger readInteger
  have := length_of_readFraction readFraction
  have := length_of_readExponent readExponent
  simp only
  omega

theorem length_of_readWord {rest letters : List Char} {token : Token} {result : Token × List Char}
    (h : readWord rest letters token = some result) : result.2.length ≤ rest.length := by
  simp only [readWord] at h
  split at h
  · cases h
    simp
  · cases h

theorem length_of_readToken {c : Char} {rest : List Char} {result : Token × List Char}
    (h : readToken c rest = some result) : result.2.length ≤ rest.length := by
  simp only [readToken] at h
  split at h
  case h_7 =>
    obtain ⟨read, found, rfl⟩ := Option.map_eq_some_iff.1 h
    exact Nat.le_of_lt (length_of_readString found)
  case h_8 =>
    obtain ⟨read, found, rfl⟩ := Option.map_eq_some_iff.1 h
    exact Nat.le_of_lt (length_of_readUnsigned found)
  case h_9 => exact length_of_readWord h
  case h_10 => exact length_of_readWord h
  case h_11 => exact length_of_readWord h
  case h_12 =>
    obtain ⟨read, found, rfl⟩ := Option.map_eq_some_iff.1 h
    exact Nat.le_of_lt_succ (length_of_readUnsigned found)
  all_goals
    cases h
    exact Nat.le_refl _

/-- The tokens of a text. -/
def lex : List Char → Option (List Token)
  | [] => some []
  | c :: rest =>
    if isSpace c then lex rest
    else
      match _read : readToken c rest with
      | none => none
      | some (token, after) => (lex after).map (token :: ·)
termination_by cs => cs.length
decreasing_by
  · simp
  · have : after.length ≤ rest.length := length_of_readToken _read
    simp only [List.length_cons]
    omega

end SecretCodec.Json

import SecretCodec.Json.Value.Lemmas
import SecretCodec.Proofs.Json.Number

/-!
# Which texts are read as JSON

The tokens that are read from a text are spelled in it (`lex_sound`), and tokens that are spelled in
a text are read from it, provided that they can stand in one value (`lex_of_spells`): two numbers
side by side could be one. So a text is read as a value exactly if it is a document for it
(`Value.parse_eq_some_iff`).
-/

namespace SecretCodec.Json

variable {cs rest between blanks : List Char} {units : Units} {token : Token} {tokens : List Token}

/-! ### Strings -/

theorem shortEscape?_eq_some_iff {e : Char} {unit : UInt16} :
    shortEscape? e = some unit ↔ (e, unit) ∈ escapes := by
  constructor
  · intro h
    rw [shortEscape?.eq_def] at h
    split at h <;> cases h <;> decide
  · simp only [escapes, List.mem_cons, List.not_mem_nil, or_false, Prod.mk.injEq]
    rintro (⟨rfl, rfl⟩ | ⟨rfl, rfl⟩ | ⟨rfl, rfl⟩ | ⟨rfl, rfl⟩ | ⟨rfl, rfl⟩ | ⟨rfl, rfl⟩ | ⟨rfl, rfl⟩ |
      ⟨rfl, rfl⟩) <;> rfl

theorem hexUnit?_eq_some_iff {a b c d : Char} {unit : UInt16} :
    hexUnit? a b c d = some unit ↔ IsHexOf a b c d unit := by
  have small : ∀ {code n : Nat}, Hex.value? code = some n → n < 16 := by grind [Hex.value?]
  simp only [hexUnit?, Option.bind_eq_bind, Option.bind_eq_some_iff]
  constructor
  · rintro ⟨i, hi, j, hj, k, hk, l, hl, same⟩
    cases same
    have := small hi
    have := small hj
    have := small hk
    have := small hl
    refine ⟨i, j, k, l, hi, hj, hk, hl, ?_⟩
    rw [UInt16.toNat_ofNat_of_lt' (by simp only [UInt16.size]; omega)]
    omega
  · rintro ⟨i, j, k, l, hi, hj, hk, hl, same⟩
    refine ⟨i, hi, j, hj, k, hk, l, hl, congrArg some ?_⟩
    have : ((i * 16 + j) * 16 + k) * 16 + l = unit.toNat := by omega
    rw [this, UInt16.ofNat_toNat]

/-- What is read of a string stands before its closing mark. -/
theorem readString_sound (h : readString cs = some (units, rest)) :
    ∃ between, cs = between ++ '"' :: rest ∧ Denotes between units := by
  fun_induction readString cs generalizing units rest with
  | case1 => cases h
  | case2 =>
    cases h
    exact ⟨[], rfl, .nil⟩
  | case3 => cases h
  | case4 =>
    next a b c d more ih =>
    simp only [Option.bind_eq_bind, Option.bind_eq_some_iff] at h
    obtain ⟨unit, digits, ⟨units, after⟩, read, same⟩ := h
    cases same
    obtain ⟨between, rfl, denotes⟩ := ih read
    exact ⟨_, rfl, .hex (hexUnit?_eq_some_iff.1 digits) denotes⟩
  | case5 => cases h
  | case6 =>
    next e more other ih =>
    simp only [Option.bind_eq_bind, Option.bind_eq_some_iff] at h
    obtain ⟨unit, known, ⟨units, after⟩, read, same⟩ := h
    cases same
    obtain ⟨between, rfl, denotes⟩ := ih read
    exact ⟨_, rfl, .short (shortEscape?_eq_some_iff.1 known) denotes⟩
  | case7 => cases h
  | case8 =>
    next c more mark backslash control ih =>
    simp only [Option.bind_eq_bind, Option.bind_eq_some_iff] at h
    obtain ⟨⟨units, after⟩, read, same⟩ := h
    cases same
    obtain ⟨between, rfl, denotes⟩ := ih read
    exact ⟨_, rfl, .raw mark backslash (Nat.le_of_not_lt control) denotes⟩

/-- A string is read up to its closing mark. -/
theorem readString_append (h : Denotes between units) (rest : List Char) :
    readString (between ++ '"' :: rest) = some (units, rest) := by
  induction h with
  | nil =>
    rw [List.nil_append, readString.eq_def]
    exact if_pos rfl
  | raw mark backslash control _ ih =>
    rw [List.cons_append, readString.eq_def]
    simp only [if_neg mark, if_neg backslash, if_neg (Nat.not_lt_of_le control), ih]
    rfl
  | @short e unit cs units known _ ih =>
    -- The letter of the other kind of escape is not in the table.
    have other : e ≠ 'u' := by
      rintro rfl
      simp [escapes] at known
    rw [List.cons_append, List.cons_append, readString.eq_def]
    simp only [if_neg other, shortEscape?_eq_some_iff.2 known, ih]
    rfl
  | hex digits _ ih =>
    simp only [List.cons_append]
    rw [readString.eq_def]
    simp only [if_pos, hexUnit?_eq_some_iff.2 digits, ih]
    rfl

/-! ### Tokens -/

theorem readWord_sound {letters after : List Char} {word : Token}
    (h : readWord cs letters word = some (token, after)) :
    token = word ∧ cs = letters ++ after := by
  rw [readWord] at h
  split at h
  · next isFront =>
    cases h
    obtain ⟨more, rfl⟩ := List.isPrefixOf_iff_prefix.1 isFront
    rw [List.drop_left]
    exact ⟨rfl, rfl⟩
  · cases h

theorem readWord_append (letters rest : List Char) (word : Token) :
    readWord (letters ++ rest) letters word = some (word, rest) := by
  rw [readWord, if_pos (List.isPrefixOf_iff_prefix.2 (List.prefix_append letters rest)),
    List.drop_left]

/-- What is read of a token is a spelling of it. -/
theorem readToken_sound {c : Char} {after : List Char}
    (h : readToken c rest = some (token, after)) :
    ∃ cs, c :: rest = cs ++ after ∧ token.IsSpelled cs := by
  rw [readToken.eq_def] at h
  split at h
  case h_7 =>
    obtain ⟨⟨units, after⟩, read, same⟩ := Option.map_eq_some_iff.1 h
    cases same
    obtain ⟨between, rfl, denotes⟩ := readString_sound read
    exact ⟨'"' :: between ++ ['"'], by simp, between, rfl, denotes⟩
  case h_8 =>
    obtain ⟨⟨spelling, after⟩, read, same⟩ := Option.map_eq_some_iff.1 h
    cases same
    obtain ⟨rfl, is⟩ := readUnsigned_sound read
    exact ⟨'-' :: spelling, rfl, rfl, .inr ⟨spelling, rfl, is⟩⟩
  case h_9 | h_10 | h_11 =>
    obtain ⟨rfl, rfl⟩ := readWord_sound h
    exact ⟨_ :: _, rfl, rfl⟩
  case h_12 =>
    obtain ⟨⟨spelling, after⟩, read, same⟩ := Option.map_eq_some_iff.1 h
    cases same
    obtain ⟨whole, is⟩ := readUnsigned_sound read
    exact ⟨spelling, whole, rfl, .inl is⟩
  all_goals
    cases h
    exact ⟨[_], rfl, rfl⟩

theorem isSpace_iff {c : Char} : isSpace c ↔ c = ' ' ∨ c = '\t' ∨ c = '\n' ∨ c = '\r' := by
  simp [isSpace, or_assoc]

theorem isSpace_of_isDigit {c : Char} (digit : c.isDigit) : isSpace c = false := by
  rw [Bool.eq_false_iff, ne_eq, isSpace_iff]
  rintro (rfl | rfl | rfl | rfl) <;> cases digit

theorem readToken_digit {c : Char} (digit : c.isDigit) (rest : List Char) :
    readToken c rest = (readUnsigned (c :: rest)).map fun read => (.number read.1, read.2) := by
  rw [readToken.eq_def]
  split
  case h_12 => rfl
  all_goals cases digit

/-- A spelled token is read, and it is not taken for white space. -/
theorem readToken_append (spelled : token.IsSpelled cs)
    (stop : ∀ spelling, token = .number spelling → Bounded rest) :
    ∃ c more, cs = c :: more ∧ isSpace c = false ∧
      readToken c (more ++ rest) = some (token, rest) := by
  cases token with
  | openBrace | closeBrace | openBracket | closeBracket | colon | comma =>
    exact ⟨_, [], spelled, rfl, rfl⟩
  | null => exact ⟨_, _, spelled, rfl, readWord_append _ rest .null⟩
  | truth value =>
    cases value with
    | false => exact ⟨_, _, spelled, rfl, readWord_append _ rest (.truth false)⟩
    | true => exact ⟨_, _, spelled, rfl, readWord_append _ rest (.truth true)⟩
  | string units =>
    obtain ⟨between, rfl, denotes⟩ := spelled
    refine ⟨'"', between ++ ['"'], rfl, rfl, ?_⟩
    rw [List.append_assoc]
    exact congrArg (Option.map _) (readString_append denotes rest)
  | number spelling =>
    obtain ⟨rfl, is | ⟨unsigned, rfl, is⟩⟩ := spelled
    · obtain ⟨c, more, rfl, digit⟩ := is.exists_cons
      refine ⟨c, more, rfl, isSpace_of_isDigit digit, ?_⟩
      rw [readToken_digit digit, ← List.cons_append, readUnsigned_append is (stop _ rfl)]
      rfl
    · exact ⟨'-', unsigned, rfl, rfl, congrArg (Option.map _) (readUnsigned_append is (stop _ rfl))⟩

/-! ### Documents -/

theorem lex_cons_space {c : Char} (space : isSpace c) (rest : List Char) :
    lex (c :: rest) = lex rest := by
  rw [lex, if_pos space]

theorem lex_blanks_append (space : ∀ c ∈ blanks, isSpace c) (rest : List Char) :
    lex (blanks ++ rest) = lex rest := by
  induction blanks with
  | nil => rfl
  | cons c blanks ih =>
    obtain ⟨first, others⟩ := List.forall_mem_cons.1 space
    rw [List.cons_append, lex_cons_space first, ih others]

theorem lex_cons_token {c : Char} {after : List Char} (visible : isSpace c = false)
    (read : readToken c rest = some (token, after)) :
    lex (c :: rest) = (lex after).map (token :: ·) := by
  rw [lex, if_neg (by simp [visible])]
  split
  · next none => simp [read] at none
  · next some =>
    rw [read] at some
    cases some
    rfl

/-- What is read from a text is spelled in it. -/
theorem lex_sound (h : lex cs = some tokens) : Spells cs tokens := by
  fun_induction lex cs generalizing tokens with
  | case1 =>
    cases h
    exact .nil nofun
  | case2 c rest space ih => exact (ih h).cons_space space
  | case3 => cases h
  | case4 c rest visible token after read ih =>
    obtain ⟨tokens, more, rfl⟩ := Option.map_eq_some_iff.1 h
    obtain ⟨cs, whole, spelled⟩ := readToken_sound read
    have noBlanks : ∀ c ∈ ([] : List Char), isSpace c := nofun
    rw [whole]
    exact .cons noBlanks spelled (ih more)

theorem bounded_of_isSpace {c : Char} (space : isSpace c) : Bounded (c :: rest) := by
  obtain rfl | rfl | rfl | rfl := isSpace_iff.1 space <;>
    exact bounded_cons rfl (by decide) (by decide) (by decide)

theorem Token.IsSpelled.bounded (spelled : token.IsSpelled cs)
    (other : ∀ spelling, token ≠ .number spelling) : Bounded (cs ++ rest) := by
  cases token with
  | number spelling => exact absurd rfl (other spelling)
  | string units =>
    obtain ⟨between, rfl, -⟩ := spelled
    exact bounded_cons rfl (by decide) (by decide) (by decide)
  | truth value =>
    cases value <;> cases spelled <;> exact bounded_cons rfl (by decide) (by decide) (by decide)
  | _ =>
    cases spelled
    exact bounded_cons rfl (by decide) (by decide) (by decide)

theorem bounded_blanks_append (space : ∀ c ∈ blanks, isSpace c) (stop : Bounded rest) :
    Bounded (blanks ++ rest) := by
  cases blanks with
  | nil => exact stop
  | cons c blanks => exact bounded_of_isSpace (space c List.mem_cons_self)

/-- What does not go on with a number does not extend one. -/
theorem Spells.bounded (h : Spells cs tokens)
    (other : ∀ spelling, tokens.head? ≠ some (.number spelling)) : Bounded cs := by
  cases h with
  | nil space =>
    rw [← List.append_nil cs]
    exact bounded_blanks_append space bounded_nil
  | cons space spelled more =>
    rw [List.append_assoc]
    exact bounded_blanks_append space
      (spelled.bounded fun spelling same => other spelling (congrArg some same))

namespace State

theorem step_complete_number (value : Value) (stack : List Frame) (spelling : List Char) :
    (complete value stack).step (.number spelling) = none := by
  cases stack with
  | nil => rfl
  | cons frame stack => cases frame <;> rfl

/-- In no state do two numbers come next. -/
theorem step_number_number {s next : State} {spelling : List Char}
    (h : s.step (.number spelling) = some next) (other : List Char) :
    next.step (.number other) = none := by
  cases s with
  | start stack | firstItem stack =>
    cases h
    exact step_complete_number ..
  | complete value stack =>
    rw [step_complete_number] at h
    cases h
  | _ => cases h

end State

/-- The tokens that are spelled in a text are read from it, if they can stand side by side. -/
theorem lex_of_spells (h : Spells cs tokens) {s last : State} (run : s.run tokens = some last) :
    lex cs = some tokens := by
  induction h generalizing s with
  | @nil blanks space =>
    rw [← List.append_nil blanks, lex_blanks_append space, lex]
  | @cons blanks cs rest token tokens space spelled more ih =>
    rw [State.run] at run
    split at run
    · next next step =>
      -- The state after a number has no step for a second one, so what follows bounds the number.
      have stop : ∀ spelling, token = .number spelling → Bounded rest := by
        rintro spelling rfl
        refine more.bounded fun other first => ?_
        cases tokens with
        | nil => cases first
        | cons _ tokens =>
          cases first
          rw [State.run, State.step_number_number step] at run
          cases run
      obtain ⟨c, tail, rfl, visible, read⟩ := readToken_append spelled stop
      rw [List.append_assoc, lex_blanks_append space, List.cons_append,
        lex_cons_token visible read, ih run]
      rfl
    · cases run

/-- A text is read as the value that it is a document for. -/
theorem Value.parse_eq_some_iff {text : String} {v : Value} :
    parse text = some v ↔ IsDocument text v := by
  rw [parse, Option.bind_eq_some_iff]
  constructor
  · rintro ⟨tokens, read, value⟩
    rw [ofTokens?_eq_some_iff] at value
    subst value
    exact lex_sound read
  · intro document
    have run := State.run_tokens v [] []
    rw [List.append_nil] at run
    exact ⟨v.tokens, lex_of_spells document run, ofTokens?_tokens v⟩

/-- A text is a document for at most one value. -/
theorem IsDocument.unique {text : String} {v w : Value} (hv : IsDocument text v)
    (hw : IsDocument text w) : v = w := by
  rw [← Value.parse_eq_some_iff] at hv hw
  rw [hv] at hw
  exact Option.some.inj hw

end SecretCodec.Json

import SecretCodec.Proofs.Bcrypt.Written

/-!
# Which stored password hashes are refused, and why

A stored value is divided at its dollar signs, and most of what can be wrong with it is wrong with
one of its pieces: the version, the cost or the symbols. The message then shows no more than that
piece, in which there is no dollar sign, while the value has some (`verify_eq_error`). Where the
division itself fails, or the symbols are of the wrong number, there is no piece to name
(`IsShapeless`), and the message shows the whole value (`parse_eq_error_iff`).
-/

namespace SecretCodec.Bcrypt

variable {stored password version costText symbolText : String} {cause : Error}

/-! ### The pieces of a value -/

theorem not_mem_of_mem_splitOn {xs piece : List Char} (h : piece ∈ xs.splitOn '$') :
    '$' ∉ piece := by
  induction size : xs.length using Nat.strongRecOn generalizing xs with
  | ind n ih =>
    by_cases dollar : '$' ∈ xs
    · obtain ⟨front, back, rfl, fresh⟩ := List.eq_append_cons_of_mem dollar
      rw [List.splitOn_append_cons_self_of_not_mem fresh, List.mem_cons] at h
      obtain rfl | later := h
      · exact fresh
      · have shorter : back.length < n := by
          rw [← size, List.length_append, List.length_cons]
          omega
        exact ih back.length shorter later rfl
    · rw [List.splitOn_eq_singleton dollar, List.mem_singleton] at h
      rwa [h]

/-- No piece has a dollar sign. -/
theorem dollar_not_mem_piece {piece : String} (h : piece ∈ pieces stored) :
    '$' ∉ piece.toList := by
  obtain ⟨cs, member, rfl⟩ := List.mem_map.1 h
  rw [String.toList_ofList]
  exact not_mem_of_mem_splitOn (List.mem_of_mem_filter member)

/-- A value of several pieces has dollar signs. -/
theorem dollar_mem_of_pieces (h : pieces stored = [version, costText, symbolText]) :
    '$' ∈ stored.toList := by
  by_contra fresh
  have count := congrArg List.length h
  have atMostOne := List.length_filter_le (fun cs : List Char => decide (cs ≠ [])) [stored.toList]
  rw [pieces, List.splitOn_eq_singleton fresh, List.length_map] at count
  rw [count] at atMostOne
  simp at atMostOne

/-! ### Values without a shape -/

/-- A value that does not divide into three pieces, or whose third piece cannot be the symbols. A
wrong version or cost in one of three pieces is noticed before that. -/
def IsShapeless (stored : String) : Prop :=
  ∀ version cost symbols, pieces stored = [version, cost, symbols] →
    version ∈ versions ∧ (Decimal.readWord? cost.toList).isSome ∧ ¬AreSymbols symbols

theorem isShapeless_of_pieces (h : pieces stored = [version, costText, symbolText]) :
    IsShapeless stored ↔
      version ∈ versions ∧ (Decimal.readWord? costText.toList).isSome ∧ ¬AreSymbols symbolText := by
  constructor
  · intro shapeless
    exact shapeless version costText symbolText h
  · intro refused v c t same
    cases h.symm.trans same
    exact refused

/-- A value that does not divide into three pieces has no shape, and is refused for that. -/
theorem refused_of_not_pieces
    (h : ¬∃ version cost symbols, pieces stored = [version, cost, symbols]) :
    IsShapeless stored ∧ parse stored = .error (.invalidHash stored) := by
  refine ⟨fun version cost symbols same => (h ⟨version, cost, symbols, same⟩).elim, ?_⟩
  rw [parse]
  split
  · next version cost symbols same => exact (h ⟨version, cost, symbols, same⟩).elim
  · rfl

/-- Of three pieces the version is judged first, then the cost, then the symbols. -/
theorem parse_eq_error_iff_of_pieces (h : pieces stored = [version, costText, symbolText]) :
    parse stored = .error cause ↔
      (IsShapeless stored ∧ cause = .invalidHash stored) ∨
        (version ∉ versions ∧ cause = .invalidVersion version) ∨
          (version ∈ versions ∧ Decimal.readWord? costText.toList = none ∧
            cause = .invalidCost costText) := by
  rw [parse_of_pieces h, isShapeless_of_pieces h]
  by_cases known : version ∈ versions
  · cases Decimal.readWord? costText.toList with
    | none => simp [known, @eq_comm _ cause]
    | some cost =>
      by_cases areSymbols : AreSymbols symbolText
      · simp [known, areSymbols]
      · simp [known, areSymbols, @eq_comm _ cause]
  · simp [known, @eq_comm _ cause]

/-- A value without a shape is shown as a whole; otherwise the version is judged before the cost, and
the piece that is wrong is shown. -/
theorem parse_eq_error_iff :
    parse stored = .error cause ↔
      (IsShapeless stored ∧ cause = .invalidHash stored) ∨
        ∃ version cost symbols, pieces stored = [version, cost, symbols] ∧
          ((version ∉ versions ∧ cause = .invalidVersion version) ∨
            (version ∈ versions ∧ Decimal.readWord? cost.toList = none ∧
              cause = .invalidCost cost)) := by
  by_cases three : ∃ version cost symbols, pieces stored = [version, cost, symbols]
  · obtain ⟨version, cost, symbols, same⟩ := three
    rw [parse_eq_error_iff_of_pieces same]
    constructor
    · rintro (shapeless | piece)
      · exact .inl shapeless
      · exact .inr ⟨version, cost, symbols, same, piece⟩
    · rintro (shapeless | ⟨_, _, _, again, piece⟩)
      · exact .inl shapeless
      · cases same.symm.trans again
        exact .inr piece
  · obtain ⟨shapeless, refused⟩ := refused_of_not_pieces three
    rw [refused]
    constructor
    · intro failed
      cases failed
      exact .inl ⟨shapeless, rfl⟩
    · rintro (⟨-, rfl⟩ | ⟨version, cost, symbols, same, -⟩)
      · rfl
      · exact (three ⟨version, cost, symbols, same⟩).elim

/-- What is read has three pieces. -/
theorem exists_pieces_of_parse {parts : Stored} (h : parse stored = .ok parts) :
    ∃ version cost symbols, pieces stored = [version, cost, symbols] := by
  by_contra three
  rw [(refused_of_not_pieces three).2] at h
  cases h

/-! ### What a message shows -/

theorem dollar_not_mem_toDigits (n : Nat) : '$' ∉ Nat.toDigits 10 n := by
  intro member
  have digit := Nat.isDigit_of_mem_toDigits (by decide) (by decide) member
  cases digit

theorem dollar_not_mem_base64 (cause : Base64.Error) : '$' ∉ cause.message.toList := by
  rw [Base64.Error.message.eq_def]
  split <;> simp [dollar_not_mem_toDigits]

theorem verify_of_isShapeless (h : IsShapeless stored) :
    verify password stored = .error (.invalidHash stored) := by
  rw [verify, parse_eq_error_iff.2 (.inl ⟨h, rfl⟩)]
  rfl

/-- A value is refused as a whole, or there are dollar signs in it and none in the message. -/
theorem verify_eq_error (h : verify password stored = .error cause) :
    (IsShapeless stored ∧ cause = .invalidHash stored) ∨
      ('$' ∈ stored.toList ∧ '$' ∉ cause.message.toList) := by
  rw [verify, bind_eq_error_iff] at h
  obtain unread | ⟨parts, read, h⟩ := h
  · obtain whole | ⟨version, cost, symbols, same, defect⟩ := parse_eq_error_iff.1 unread
    · exact .inl whole
    · refine .inr ⟨dollar_mem_of_pieces same, ?_⟩
      have inPiece : ∀ piece ∈ [version, cost, symbols], '$' ∉ piece.toList := by
        rw [← same]
        exact fun piece member => dollar_not_mem_piece member
      rw [Error.message.eq_def]
      obtain ⟨-, rfl⟩ | ⟨-, -, rfl⟩ := defect
      · simp [inPiece version]
      · simp [inPiece cost]
  obtain ⟨version, cost, symbols, same⟩ := exists_pieces_of_parse read
  refine .inr ⟨dollar_mem_of_pieces same, ?_⟩
  have inSymbols : ∀ bytes, decodeSymbols bytes = .error cause → '$' ∉ cause.message.toList := by
    intro bytes failed
    obtain ⟨defect, -, rfl⟩ := mapError_eq_error_iff.1 failed
    rw [Error.message.eq_def]
    simp [dollar_not_mem_base64 defect]
  obtain inSalt | ⟨salt, -, h⟩ := bind_eq_error_iff.1 h
  · exact inSymbols _ inSalt
  · split at h
    · obtain inHash | ⟨expected, -, done⟩ := bind_eq_error_iff.1 h
      · exact inSymbols _ inHash
      · cases done
    · cases h
      rw [Error.message.eq_def]
      simp [dollar_not_mem_toDigits]

end SecretCodec.Bcrypt

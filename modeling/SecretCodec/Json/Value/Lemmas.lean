import SecretCodec.Json.Value.Parser

/-!
# Tokens and values

A state of the reading determines the tokens that led to it: `State.spelled` lists them, and each
step appends its token to that list. Conversely the tokens of a value lead to the state in which
that value is complete, whatever is open around it. So a sequence of tokens stands for a value
exactly if it is what the value is written as (`Value.ofTokens?_eq_some_iff`).
-/

namespace SecretCodec.Json

/-! ### Lists of items and members -/

theorem itemTokens_cons (item : Value) {items : List Value} (h : items ≠ []) :
    itemTokens (item :: items) = item.tokens ++ .comma :: itemTokens items := by
  rw [itemTokens]
  exact h

theorem memberTokens_cons (name : Units) (value : Value) {members : List (Units × Value)}
    (h : members ≠ []) : memberTokens ((name, value) :: members) =
      .string name :: .colon :: value.tokens ++ .comma :: memberTokens members := by
  rw [memberTokens]
  exact h

/-- The tokens of items with a comma after each. -/
def itemsOpen (items : List Value) : List Token := items.flatMap fun v => v.tokens ++ [.comma]

/-- The tokens of members with a comma after each. -/
def membersOpen (members : List (Units × Value)) : List Token :=
  members.flatMap fun m => .string m.1 :: .colon :: m.2.tokens ++ [.comma]

theorem itemTokens_concat (items : List Value) (last : Value) :
    itemTokens (items ++ [last]) = itemsOpen items ++ last.tokens := by
  induction items with
  | nil => simp [itemTokens, itemsOpen]
  | cons v items ih =>
    rw [List.cons_append, itemTokens_cons v (by simp), ih]
    simp [itemsOpen]

theorem memberTokens_concat (members : List (Units × Value)) (name : Units) (value : Value) :
    memberTokens (members ++ [(name, value)]) =
      membersOpen members ++ .string name :: .colon :: value.tokens := by
  induction members with
  | nil => simp [memberTokens, membersOpen]
  | cons m members ih =>
    rw [List.cons_append, memberTokens_cons m.1 m.2 (by simp), ih]
    simp [membersOpen]

/-! ### What has been read -/

/-- The tokens that opened an array or object, up to the value that comes next. -/
def Frame.spelled : Frame → List Token
  | .array items => .openBracket :: itemsOpen items.reverse
  | .object members name => .openBrace :: membersOpen members.reverse ++ [.string name, .colon]

/-- The tokens that opened a stack of arrays and objects, the innermost first. -/
def spelledStack (stack : List Frame) : List Token := stack.reverse.flatMap Frame.spelled

@[simp] theorem spelledStack_nil : spelledStack [] = [] := rfl

@[simp] theorem spelledStack_cons (frame : Frame) (stack : List Frame) :
    spelledStack (frame :: stack) = spelledStack stack ++ frame.spelled := by
  simp [spelledStack]

namespace State

/-- The tokens that lead to a state. -/
def spelled : State → List Token
  | .start stack => spelledStack stack
  | .firstItem stack => spelledStack stack ++ [.openBracket]
  | .firstName stack => spelledStack stack ++ [.openBrace]
  | .nextName members stack => spelledStack stack ++ .openBrace :: membersOpen members.reverse
  | .colon members name stack =>
    spelledStack stack ++ .openBrace :: membersOpen members.reverse ++ [.string name]
  | .complete value stack => spelledStack stack ++ value.tokens

theorem spelled_of_enter {stack : List Frame} {token : Token} {next : State}
    (h : enter stack token = some next) : next.spelled = spelledStack stack ++ [token] := by
  cases token <;> cases h <;> simp [spelled, Value.tokens]

theorem spelled_of_step {s next : State} {token : Token} (h : s.step token = some next) :
    next.spelled = s.spelled ++ [token] := by
  simp only [step] at h
  split at h
  case h_1 => exact spelled_of_enter h
  case h_3 =>
    rw [spelled_of_enter h]
    simp [spelled, Frame.spelled, itemsOpen]
  case h_12 => cases h
  all_goals
    cases h
    simp [spelled, Frame.spelled, Value.tokens, itemTokens, memberTokens, itemsOpen, membersOpen,
      itemTokens_concat, memberTokens_concat]

/-- What is read is appended to what has been read. -/
theorem spelled_of_run {s last : State} {tokens : List Token} (h : s.run tokens = some last) :
    last.spelled = s.spelled ++ tokens := by
  fun_induction run s tokens with
  | case1 =>
    cases h
    simp
  | case2 s token tokens next step ih =>
    rw [ih h, spelled_of_step step]
    simp
  | case3 => cases h

/-! ### Reading what was written -/

theorem run_cons {s next : State} {token : Token} (tokens : List Token)
    (h : s.step token = some next) : s.run (token :: tokens) = next.run tokens := by
  rw [run, h]

/-- Where an array may end, its first item may start. -/
theorem run_firstItem (v : Value) (stack : List Frame) (rest : List Token) :
    (firstItem stack).run (v.tokens ++ rest) =
      (start (.array [] :: stack)).run (v.tokens ++ rest) := by
  cases v <;> rfl

mutual

/-- The tokens of a value are read as that value. -/
theorem run_tokens (v : Value) (stack : List Frame) (rest : List Token) :
    (start stack).run (v.tokens ++ rest) = (complete v stack).run rest := by
  match v with
  | .null | .truth _ | .number _ | .string _ | .array [] | .object [] => rfl
  | .array (v :: items) =>
    have := run_items [] v items stack rest
    rw [Value.tokens, List.cons_append, List.cons_append, List.append_assoc, run_cons _ rfl]
    cases items with
    | nil => rwa [itemTokens, ← run_firstItem] at this
    | cons w items => rwa [itemTokens_cons v (by simp), List.append_assoc, ← run_firstItem,
        ← List.append_assoc, ← itemTokens_cons v (by simp)] at this
  | .object ((name, v) :: members) =>
    have := run_members [] name v members stack rest
    rw [Value.tokens, List.cons_append, List.cons_append, List.append_assoc, run_cons _ rfl]
    cases members with
    | nil => exact this
    | cons m members =>
      rw [memberTokens_cons name v (by simp)] at this ⊢
      exact this
termination_by sizeOf v

/-- The tokens of the items that are left are read as those items. -/
theorem run_items (done : List Value) (v : Value) (items : List Value) (stack : List Frame)
    (rest : List Token) :
    (start (.array done :: stack)).run (itemTokens (v :: items) ++ .closeBracket :: rest) =
      (complete (.array (done.reverse ++ v :: items)) stack).run rest := by
  match items with
  | [] =>
    rw [itemTokens, run_tokens v, run_cons _ rfl, List.reverse_cons]
  | w :: items =>
    rw [itemTokens_cons v (by simp), List.append_assoc, run_tokens v, List.cons_append,
      run_cons _ rfl, run_items (v :: done) w items]
    simp
termination_by sizeOf v + sizeOf items + 1

/-- The tokens of the members that are left are read as those members. -/
theorem run_members (done : List (Units × Value)) (name : Units) (v : Value)
    (members : List (Units × Value)) (stack : List Frame) (rest : List Token) :
    (nextName done stack).run (memberTokens ((name, v) :: members) ++ .closeBrace :: rest) =
      (complete (.object (done.reverse ++ (name, v) :: members)) stack).run rest := by
  match members with
  | [] =>
    rw [memberTokens, List.cons_append, List.cons_append, run_cons _ rfl, run_cons _ rfl,
      run_tokens v, run_cons _ rfl, List.reverse_cons]
  | (other, w) :: members =>
    rw [memberTokens_cons name v (by simp), List.append_assoc, List.cons_append, List.cons_append,
      run_cons _ rfl, run_cons _ rfl, run_tokens v, List.cons_append, run_cons _ rfl,
      run_members ((name, v) :: done) other w members]
    simp
termination_by sizeOf v + sizeOf members + 1

end

end State

/-- A sequence of tokens stands for the value that is written so, and for nothing else. -/
theorem Value.ofTokens?_eq_some_iff {tokens : List Token} {v : Value} :
    ofTokens? tokens = some v ↔ tokens = v.tokens := by
  constructor
  · intro h
    rw [ofTokens?] at h
    split at h
    · next complete =>
      cases h
      simpa [State.spelled] using (State.spelled_of_run complete).symm
    · cases h
  · rintro rfl
    have := State.run_tokens v [] []
    rw [List.append_nil] at this
    rw [ofTokens?, this]
    rfl

@[simp] theorem Value.ofTokens?_tokens (v : Value) : ofTokens? v.tokens = some v :=
  ofTokens?_eq_some_iff.2 rfl

end SecretCodec.Json

import SecretCodec.Proofs.Codec.Failures

/-!
# Calls by name

A call may give its algorithm by name. If the name is that of an algorithm, the call does what it
does under this algorithm (`perform_under`). If it is not, the name is the only thing that is looked
at, and it is returned or reported (`perform_of_unknown`). Which names there are, and what is found
under each, is said in one place (`names_resolve`).
-/

namespace SecretCodec

namespace Call

variable {α : Type}

/-- The name that a call gives for its algorithm. -/
def name? : Call α → Option String
  | .encodeNamed _ name | .decodeNamed _ name | .verifyNamed _ name _ => some name
  | _ => none

/-- The call that gives an algorithm where another call gives a name. -/
def under (a : Algorithm) : Call α → Call α
  | .encodeNamed plaintext _ => .encode plaintext (some a)
  | .decodeNamed stored _ => .decode stored (some a)
  | .verifyNamed plaintext _ stored => .verify plaintext (some a) stored
  | call => call

theorem of_name? {call : Call α} {name : String} (gives : call.name? = some name) :
    (∃ plaintext, call = .encodeNamed plaintext name) ∨
      (∃ stored, call = .decodeNamed stored name) ∨
        ∃ plaintext stored, call = .verifyNamed plaintext name stored := by
  cases call with
  | encodeNamed plaintext given =>
    cases gives
    exact .inl ⟨plaintext, rfl⟩
  | decodeNamed stored given =>
    cases gives
    exact .inr (.inl ⟨stored, rfl⟩)
  | verifyNamed plaintext given stored =>
    cases gives
    exact .inr (.inr ⟨plaintext, stored, rfl⟩)
  | _ => cases gives

end Call

namespace Codec

variable {c : Codec} {random : Entropy} {call : Call (Option String)} {name : String} {a : Algorithm}

/-- A name does nothing but stand for its algorithm. -/
theorem perform_under (gives : call.name? = some name) (named : a.IsNamed name) :
    c.perform random call = c.perform random (call.under a) := by
  have parsed := Algorithm.parse_eq_ok_iff.2 named
  obtain ⟨plaintext, rfl⟩ | ⟨stored, rfl⟩ | ⟨plaintext, stored, rfl⟩ := Call.of_name? gives
  · simp only [Call.under, perform, encodeNamed, parsed]
  · simp only [Call.under, perform, decodeNamed, parsed]
  · simp only [Call.under, perform, verifyNamed, parsed]

/-- What comes of a call under a name that is unknown. -/
def unknownOutcome (call : Call (Option String)) (name : String) : Outcome :=
  let cause := Error.unknownAlgorithm (Text.trim name)
  if call.isVerification then ⟨.ok (.truth false), [failure none cause]⟩
  else { value := .error cause }

/-- Under a name that is unknown neither the codec nor any other input is looked at. -/
theorem perform_of_unknown (gives : call.name? = some name)
    (unknown : ∀ a : Algorithm, ¬a.IsNamed name) :
    c.perform random call = unknownOutcome call name := by
  have parsed := Algorithm.parse_eq_error_iff.2 ⟨unknown, rfl⟩
  obtain ⟨plaintext, rfl⟩ | ⟨stored, rfl⟩ | ⟨plaintext, stored, rfl⟩ := Call.of_name? gives
  · simp only [perform, encodeNamed, parsed]
    rfl
  · simp only [perform, decodeNamed, parsed]
    rfl
  · simp only [perform, verifyNamed, parsed]
    rfl

/-- Two calls under one name are related if they are under each algorithm that the name may be of. -/
theorem perform_rel_of_name {c' : Codec} {call' : Call (Option String)}
    {Related : Outcome → Outcome → Prop} (refl : ∀ outcome, Related outcome outcome)
    (gives : call.name? = some name) (gives' : call'.name? = some name)
    (sameKind : call.isVerification = call'.isVerification)
    (related : ∀ a : Algorithm, a.IsNamed name →
      Related (c.perform random (call.under a)) (c'.perform random (call'.under a))) :
    Related (c.perform random call) (c'.perform random call') := by
  by_cases known : ∃ a : Algorithm, a.IsNamed name
  · obtain ⟨a, named⟩ := known
    rw [perform_under gives named, perform_under gives' named]
    exact related a named
  · have unknown := not_exists.1 known
    have same : unknownOutcome call name = unknownOutcome call' name := by
      rw [unknownOutcome, unknownOutcome, sameKind]
    rw [perform_of_unknown gives unknown, perform_of_unknown gives' unknown, same]
    exact refl _

end Codec

/-- What a name stands for, and what is done under it. -/
structure Resolution (name : String) : Prop where
  /-- Found are the entries of the algorithms whose canonical name this is, in upper case and without
  the blanks around it. -/
  found (entry : Entry) :
    lookup name = .ok entry ↔ ∃ a : Algorithm, a.name = (Text.trim name).toUpper ∧ a.entry = entry
  /-- There is one such algorithm at most. -/
  unique (a b : Algorithm) : a.name = (Text.trim name).toUpper → b.name = (Text.trim name).toUpper →
    a = b
  /-- Where there is none, the name is returned without the blanks. -/
  missing (cause : Error) :
    lookup name = .error cause ↔
      (∀ a : Algorithm, a.name ≠ (Text.trim name).toUpper) ∧
        cause = .unknownAlgorithm (Text.trim name)
  /-- A name is read as an algorithm exactly if it is the canonical name of that algorithm, written
  with any blanks around it and with each ASCII letter in either case. -/
  spelled (a : Algorithm) : Algorithm.parse name = .ok a ↔ a.IsSpelled name
  /-- Under a name all is done that is done under its algorithm, and nothing else. -/
  named (a : Algorithm) (c : Codec) (random : Entropy) (plaintext stored : Option String) :
    a.name = (Text.trim name).toUpper →
      c.perform random (.encodeNamed plaintext name) =
          c.perform random (.encode plaintext (some a)) ∧
        c.perform random (.decodeNamed stored name) = c.perform random (.decode stored (some a)) ∧
        c.perform random (.verifyNamed plaintext name stored) =
          c.perform random (.verify plaintext (some a) stored)
  /-- Under an unknown name encoding and decoding return it, be there input or not, and a
  verification answers no and reports it in one event. -/
  unknown (c : Codec) (random : Entropy) (plaintext stored : Option String) :
    (∀ a : Algorithm, a.name ≠ (Text.trim name).toUpper) →
      let cause := Error.unknownAlgorithm (Text.trim name)
      c.perform random (.encodeNamed plaintext name) = ⟨.error cause, []⟩ ∧
        c.perform random (.decodeNamed stored name) = ⟨.error cause, []⟩ ∧
        c.perform random (.verifyNamed plaintext name stored) =
          ⟨.ok (.truth false),
            [⟨.debug, "verification failed", [("error", cause.message)]⟩]⟩

/-- Every text is the name of one algorithm, blanks and case apart, or it is the name of none. In the
first case a call under the name is the call under the algorithm; in the second the name is what the
call returns or reports. -/
theorem names_resolve (name : String) : Resolution name where
  found _ := lookup_eq_ok_iff
  unique _ _ := Algorithm.IsNamed.unique
  missing _ := lookup_eq_error_iff
  spelled _ := Algorithm.parse_eq_ok_iff.trans Algorithm.isSpelled_iff.symm
  named _ _ _ _ _ named :=
    ⟨Codec.perform_under rfl named, Codec.perform_under rfl named, Codec.perform_under rfl named⟩
  unknown _ _ _ _ unknown :=
    ⟨Codec.perform_of_unknown rfl unknown, Codec.perform_of_unknown rfl unknown,
      Codec.perform_of_unknown rfl unknown⟩

/-- Blanks of any kind and letters of either case; and a letter that only becomes one of ASCII under
the case rules for all characters. -/
example :
    (Algorithm.parse "\u2003ssHa1\u00a0\n").toOption = some .saltedSha1Alias ∧
      (Algorithm.parse "\u017fha1").toOption = none := by
  decide +kernel

end SecretCodec

import SecretCodec.Codec

/-!
# Sessions

A session is a sequence of calls to one codec. A call may use what an earlier one returned, each
call has random bytes of its own, and an error does not end the session.
-/

namespace SecretCodec

/-- A call to a codec, over a type `α` of places for plaintexts and stored values. -/
inductive Call (α : Type) where
  | encode (plaintext : α) (algorithm : Option Algorithm)
  | decode (stored : α) (algorithm : Option Algorithm)
  | verify (plaintext : α) (algorithm : Option Algorithm) (stored : α)
  | encodeNamed (plaintext : α) (name : String)
  | decodeNamed (stored : α) (name : String)
  | verifyNamed (plaintext : α) (name : String) (stored : α)
  | inspect

/-- The same call with other places for its plaintext and stored value. -/
def Call.map {α β : Type} (f : α → β) : Call α → Call β
  | .encode plaintext algorithm => .encode (f plaintext) algorithm
  | .decode stored algorithm => .decode (f stored) algorithm
  | .verify plaintext algorithm stored => .verify (f plaintext) algorithm (f stored)
  | .encodeNamed plaintext name => .encodeNamed (f plaintext) name
  | .decodeNamed stored name => .decodeNamed (f stored) name
  | .verifyNamed plaintext name stored => .verifyNamed (f plaintext) name (f stored)
  | .inspect => .inspect

/-- What a call returns: a text, which may be absent, a truth value, or the codec itself. -/
inductive Answer where
  | text (value : Option String)
  | truth (value : Bool)
  | codec (value : Codec)

/-- What comes of a call: an answer or an error, and the events on the way. -/
abbrev Outcome := Logged (Except Error Answer)

/-- The text that a call returned, if it returned one. -/
def Outcome.text? (outcome : Outcome) : Option String :=
  match outcome.value with
  | .ok (.text value) => value
  | _ => none

/-- What comes of a call. -/
def Codec.perform (c : Codec) (random : Entropy) : Call (Option String) → Outcome
  | .encode plaintext algorithm =>
    { value := (c.encode random plaintext algorithm).map .text }
  | .decode stored algorithm => { value := (c.decode stored algorithm).map .text }
  | .verify plaintext algorithm stored =>
    let checked := c.verify plaintext algorithm stored
    ⟨.ok (.truth checked.value), checked.events⟩
  | .encodeNamed plaintext name => { value := (c.encodeNamed random plaintext name).map .text }
  | .decodeNamed stored name => { value := (c.decodeNamed stored name).map .text }
  | .verifyNamed plaintext name stored =>
    let checked := c.verifyNamed plaintext name stored
    ⟨.ok (.truth checked.value), checked.events⟩
  | .inspect => { value := .ok (.codec c) }

/-- What a step takes for a plaintext or a stored value: nothing, a text, or what an earlier step
returned. -/
inductive Argument where
  | absent
  | text (value : String)
  | result (step : Nat)
  deriving DecidableEq, Repr

/-- The text that an argument stands for after some steps. A result that is no text is absent. -/
def Argument.resolve (earlier : List Outcome) : Argument → Option String
  | .absent => none
  | .text value => some value
  | .result step => earlier[step]?.bind Outcome.text?

/-- A call of a session, with its random bytes. -/
structure Step where
  call : Call Argument
  random : Entropy

namespace Session

/-- What comes of steps that follow earlier ones. -/
def runAfter (c : Codec) (earlier : List Outcome) : List Step → List Outcome
  | [] => []
  | step :: steps =>
    let outcome := c.perform step.random (step.call.map (Argument.resolve earlier))
    outcome :: runAfter c (earlier ++ [outcome]) steps

/-- What comes of the steps of a session. -/
def run (c : Codec) (steps : List Step) : List Outcome := runAfter c [] steps

end Session

end SecretCodec

import SecretCodec.Proofs.Codec.Forms
import SecretCodec.Proofs.Codec.Naming

/-!
# Aliases

The two names of an algorithm have the same shape and the same salt in the catalog, so under either
of them the same is stored, decoded and accepted (`encodeText_eq_of_same`, `checkText_eq_of_same`).
Only where an algorithm is named in an error or an event can it be seen which of them a call has used
(`perform_alike`). A session may therefore be relabelled anywhere: what later calls take from earlier
ones does not change, and so neither does what comes of them (`aliases_interchangeable`).
-/

namespace SecretCodec

/-! ### Other labels -/

/-- Whether two calls ask for the same, but for the label of an algorithm, in whose place its alias
may stand, as an algorithm or by name. -/
inductive Call.Relabels {α : Type} : Call α → Call α → Prop
  | refl (call : Call α) : Relabels call call
  | encode {a b : Algorithm} (plaintext : α) (same : a.Same b) :
      Relabels (.encode plaintext (some a)) (.encode plaintext (some b))
  | decode {a b : Algorithm} (stored : α) (same : a.Same b) :
      Relabels (.decode stored (some a)) (.decode stored (some b))
  | verify {a b : Algorithm} (plaintext stored : α) (same : a.Same b) :
      Relabels (.verify plaintext (some a) stored) (.verify plaintext (some b) stored)
  | encodeNamed {a b : Algorithm} {name name' : String} (plaintext : α) (same : a.Same b)
      (named : a.IsNamed name) (named' : b.IsNamed name') :
      Relabels (.encodeNamed plaintext name) (.encodeNamed plaintext name')
  | decodeNamed {a b : Algorithm} {name name' : String} (stored : α) (same : a.Same b)
      (named : a.IsNamed name) (named' : b.IsNamed name') :
      Relabels (.decodeNamed stored name) (.decodeNamed stored name')
  | verifyNamed {a b : Algorithm} {name name' : String} (plaintext stored : α) (same : a.Same b)
      (named : a.IsNamed name) (named' : b.IsNamed name') :
      Relabels (.verifyNamed plaintext name stored) (.verifyNamed plaintext name' stored)

theorem Call.Relabels.map {α β : Type} {call call' : Call α} (h : call.Relabels call')
    (f : α → β) : (call.map f).Relabels (call'.map f) := by
  cases h with
  | refl => exact .refl _
  | encode plaintext same => exact .encode _ same
  | decode stored same => exact .decode _ same
  | verify plaintext stored same => exact .verify _ _ same
  | encodeNamed plaintext same named named' => exact .encodeNamed _ same named named'
  | decodeNamed stored same named named' => exact .decodeNamed _ same named named'
  | verifyNamed plaintext stored same named named' => exact .verifyNamed _ _ same named named'

/-- Whether two steps are the same but for a label, with the same random bytes. -/
structure Step.Relabels (step step' : Step) : Prop where
  call : step.call.Relabels step'.call
  random : step.random = step'.random

/-! ### What may differ -/

/-- Whether two texts are canonical names of the same algorithm. -/
def AreNames (name name' : String) : Prop :=
  ∃ a b : Algorithm, a.Same b ∧ name = a.name ∧ name' = b.name

/-- Whether two messages are the same, but for the name of the algorithm in front. -/
def ReadsAlike (message message' : String) : Prop :=
  message = message' ∨ ∃ name name' rest : String, AreNames name name' ∧
    message = name ++ rest ∧ message' = name' ++ rest

/-- Whether two errors are of one kind and have the same in them, but for the label of an
algorithm. -/
inductive Error.Alike : Error → Error → Prop
  | refl (cause : Error) : Alike cause cause
  | notReversible {a b : Algorithm} (same : a.Same b) :
      Alike (.notReversible a) (.notReversible b)

theorem Error.Alike.message {cause cause' : Error} (h : cause.Alike cause') :
    ReadsAlike cause.message cause'.message := by
  cases h with
  | refl => exact .inl rfl
  | @notReversible a b same =>
    exact .inr ⟨a.name, b.name, " is a one-way algorithm and cannot be decoded",
      ⟨a, b, same, rfl, rfl⟩, rfl, rfl⟩

/-- Whether two fields are the same, but for the name where they show the algorithm. -/
def FieldsAlike (field field' : String × String) : Prop :=
  field = field' ∨ ∃ name name' : String, AreNames name name' ∧
    field = ("algorithm", name) ∧ field' = ("algorithm", name')

/-- Whether two events are of one level and say the same, but for the name of the algorithm. -/
structure Event.Alike (event event' : Event) : Prop where
  level : event.level = event'.level
  message : event.message = event'.message
  fields : List.Forall₂ FieldsAlike event.fields event'.fields

theorem Event.Alike.refl (event : Event) : event.Alike event where
  level := rfl
  message := rfl
  fields := List.forall₂_same.2 fun _ _ => .inl rfl

/-- Whether two outcomes are the same but for names. -/
structure Outcome.Alike (outcome outcome' : Outcome) : Prop where
  /-- Both have the same answer, or both have errors of one kind. -/
  result : (∃ answer, outcome.value = .ok answer ∧ outcome'.value = .ok answer) ∨
    ∃ cause cause', outcome.value = .error cause ∧ outcome'.value = .error cause' ∧
      cause.Alike cause' ∧ ReadsAlike cause.message cause'.message
  /-- There are as many events in both, and they are alike one by one. -/
  events : List.Forall₂ Event.Alike outcome.events outcome'.events

theorem Outcome.Alike.refl (outcome : Outcome) : outcome.Alike outcome where
  result := by
    cases outcome.value with
    | ok answer => exact .inl ⟨answer, rfl, rfl⟩
    | error cause => exact .inr ⟨cause, cause, rfl, rfl, .refl cause, .inl rfl⟩
  events := List.forall₂_same.2 fun event _ => .refl event

/-- Outcomes that are alike have the same text. -/
theorem Outcome.Alike.text?_eq {outcome outcome' : Outcome} (h : outcome.Alike outcome') :
    outcome.text? = outcome'.text? := by
  obtain ⟨answer, is, is'⟩ | ⟨cause, cause', is, is', -⟩ := h.result
  · simp only [text?, is, is']
  · simp only [text?, is, is']

/-! ### One call -/

namespace Algorithm

variable {a b : Algorithm}

/-- Aliases have entries that differ in their names only. -/
theorem Same.entry_eq (h : a.Same b) :
    a.entry.shape = b.entry.shape ∧ a.entry.saltLength = b.entry.saltLength := by
  have entries : ∀ a ∈ all, ∀ b ∈ all, a.Same b →
      a.entry.shape = b.entry.shape ∧ a.entry.saltLength = b.entry.saltLength := by
    decide
  exact entries a (mem_all a) b (mem_all b) h

/-- The cipher has no alias. -/
theorem Same.eq_or_ne_aes (h : a.Same b) : a = b ∨ a ≠ .aes ∧ b ≠ .aes := by
  have others : ∀ a ∈ all, ∀ b ∈ all, a.Same b → a = b ∨ a ≠ .aes ∧ b ≠ .aes := by decide
  exact others a (mem_all a) b (mem_all b) h

end Algorithm

namespace Codec

variable {c : Codec} {random : Entropy} {a b : Algorithm}

theorem encodeText_eq_of_same (h : a.Same b) (c : Codec) (random : Entropy) (plaintext : String) :
    c.encodeText random plaintext a = c.encodeText random plaintext b := by
  obtain ⟨shape, salt⟩ := h.entry_eq
  simp only [encodeText, shape, salt]

theorem checkText_eq_of_same (h : a.Same b) (c : Codec) (plaintext stored : String) :
    c.checkText plaintext a stored = c.checkText plaintext b stored := by
  obtain ⟨shape, salt⟩ := h.entry_eq
  simp only [checkText, shape, salt]

theorem alike_encode (h : a.Same b) (plaintext : Option String) :
    (c.perform random (.encode plaintext (some a))).Alike
      (c.perform random (.encode plaintext (some b))) := by
  cases plaintext with
  | none => exact .refl _
  | some plaintext =>
    simp only [perform, encode, encodeText_eq_of_same h]
    exact .refl _

theorem alike_decode (h : a.Same b) (stored : Option String) :
    (c.perform random (.decode stored (some a))).Alike
      (c.perform random (.decode stored (some b))) := by
  cases stored with
  | none => exact .refl _
  | some stored =>
    -- An algorithm that is not the cipher is refused, by its name.
    obtain rfl | ⟨oneWay, oneWay'⟩ := h.eq_or_ne_aes
    · exact .refl _
    · have alike : Error.Alike (.notReversible a) (.notReversible b) := .notReversible h
      simp only [perform, decode, decodeText_of_ne oneWay, decodeText_of_ne oneWay']
      exact ⟨.inr ⟨_, _, rfl, rfl, alike, alike.message⟩, .nil⟩

theorem alike_verify (h : a.Same b) (plaintext stored : Option String) :
    (c.perform random (.verify plaintext (some a) stored)).Alike
      (c.perform random (.verify plaintext (some b) stored)) := by
  match plaintext, stored with
  | some plaintext, some stored =>
    simp only [perform, verify, checkText_eq_of_same h]
    cases c.checkText plaintext b stored with
    | ok answer => exact .refl _
    | error cause =>
      have named : FieldsAlike ("algorithm", a.name) ("algorithm", b.name) :=
        .inr ⟨a.name, b.name, ⟨a, b, h, rfl, rfl⟩, rfl, rfl⟩
      exact ⟨.inl ⟨_, rfl, rfl⟩, .cons
        ⟨rfl, rfl, .cons named (.cons (.inl rfl) .nil)⟩ .nil⟩
  | none, _ => exact .refl _
  | some _, none => exact .refl _

/-- Calls by name are alike if they are so under the algorithms of the names. -/
theorem perform_alike_of_name {call call' : Call (Option String)} {name name' : String}
    (gives : call.name? = some name) (gives' : call'.name? = some name') (named : a.IsNamed name)
    (named' : b.IsNamed name')
    (h : (c.perform random (call.under a)).Alike (c.perform random (call'.under b))) :
    (c.perform random call).Alike (c.perform random call') := by
  rw [perform_under gives named, perform_under gives' named']
  exact h

/-- Nothing that comes of a call depends on its label, but for the names in it. -/
theorem perform_alike {call call' : Call (Option String)} (h : call.Relabels call') :
    (c.perform random call).Alike (c.perform random call') := by
  cases h with
  | refl => exact .refl _
  | encode plaintext same => exact alike_encode same plaintext
  | decode stored same => exact alike_decode same stored
  | verify plaintext stored same => exact alike_verify same plaintext stored
  | encodeNamed plaintext same named named' =>
    exact perform_alike_of_name rfl rfl named named' (alike_encode same plaintext)
  | decodeNamed stored same named named' =>
    exact perform_alike_of_name rfl rfl named named' (alike_decode same stored)
  | verifyNamed plaintext stored same named named' =>
    exact perform_alike_of_name rfl rfl named named' (alike_verify same plaintext stored)

end Codec

/-! ### Sessions -/

/-- What an argument stands for does not change if earlier outcomes change in names only. -/
theorem Argument.resolve_eq {earlier earlier' : List Outcome}
    (h : List.Forall₂ Outcome.Alike earlier earlier') : resolve earlier = resolve earlier' := by
  have texts : ∀ i : Nat, earlier[i]?.bind Outcome.text? = earlier'[i]?.bind Outcome.text? := by
    induction h with
    | nil => exact fun _ => rfl
    | cons first _ ih =>
      intro i
      cases i with
      | zero => exact first.text?_eq
      | succ i => exact ih i
  funext argument
  cases argument with
  | absent | text => rfl
  | result step => exact texts step

namespace Session

theorem runAfter_alike {c : Codec} {steps steps' : List Step} {earlier earlier' : List Outcome}
    (h : List.Forall₂ Step.Relabels steps steps')
    (before : List.Forall₂ Outcome.Alike earlier earlier') :
    List.Forall₂ Outcome.Alike (runAfter c earlier steps) (runAfter c earlier' steps') := by
  induction h generalizing earlier earlier' with
  | nil => exact .nil
  | @cons step step' _ _ first _ ih =>
    have alike : (c.perform step.random (step.call.map (Argument.resolve earlier))).Alike
        (c.perform step'.random (step'.call.map (Argument.resolve earlier'))) := by
      rw [first.random, Argument.resolve_eq before]
      exact Codec.perform_alike (first.call.map _)
    exact .cons alike (ih (List.rel_append before (.cons alike .nil)))

end Session

/-- The two names of an algorithm may be exchanged anywhere in a session. Every call returns the same
answer or an error of the same kind, and as many events of the same levels are reported; in the
messages of errors and in the fields of events nothing changes but the name of the algorithm. A value
that was stored under one name verifies under the other. -/
theorem Codec.aliases_interchangeable (c : Codec) :
    (∀ steps steps' : List Step, List.Forall₂ Step.Relabels steps steps' →
      List.Forall₂ Outcome.Alike (Session.run c steps) (Session.run c steps')) ∧
    ∀ (a b : Algorithm) (random : Entropy) (plaintext stored : String), a.Same b →
      c.encode random (some plaintext) (some a) = .ok (some stored) →
        c.verify (some plaintext) (some b) (some stored) = { value := true } := by
  refine ⟨fun steps steps' h => Session.runAfter_alike h .nil,
    fun a b random plaintext stored same written => ?_⟩
  rw [encode_some_eq_ok_iff, encodeText_eq_of_same same] at written
  exact verify_of_checkText (checkText_of_encodeText written fun _ => rfl)

/-- Some labels of a session exchanged, in a verification by name too that fails over the length of
an earlier result; and a value from a system in use. -/
theorem Codec.aliases_interchangeable_in_session :
    let stored := "5D514415F9CF1B03EF2FCAFC26CDCF56508F360B0102030405060708"
    let bytes : Entropy := fun i => UInt8.ofNat (i + 1)
    let steps : List Step := [
      ⟨.encode (.text "fabiano") (some .sha), bytes⟩, ⟨.decode (.result 0) (some .sha1), bytes⟩,
      ⟨.verifyNamed (.text "fabiano") " ssha\n" (.result 0), bytes⟩,
      ⟨.verify (.text "fabiano") (some .sha) (.result 0), bytes⟩]
    let steps' : List Step := [
      ⟨.encode (.text "fabiano") (some .sha1), bytes⟩, ⟨.decode (.result 0) (some .sha), bytes⟩,
      ⟨.verifyNamed (.text "fabiano") "SSHA1" (.result 0), bytes⟩,
      ⟨.verify (.text "fabiano") (some .sha) (.result 0), bytes⟩]
    (List.Forall₂ Step.Relabels steps steps' ∧
      List.Forall₂ Outcome.Alike (Session.run {} steps) (Session.run {} steps')) ∧
    Algorithm.Same .saltedSha1 .saltedSha1Alias ∧
      ({} : Codec).encode bytes (some "fabiano") (some .saltedSha1) = .ok (some stored) ∧
      ({} : Codec).verify (some "fabiano") (some .saltedSha1Alias) (some stored) =
        { value := true } := by
  intro stored bytes steps steps'
  have relabels : List.Forall₂ Step.Relabels steps steps' :=
    .cons ⟨.encode _ (by decide), rfl⟩ (.cons ⟨.decode _ (by decide), rfl⟩
      (.cons ⟨.verifyNamed (a := .saltedSha1) (b := .saltedSha1Alias) _ _ (by decide)
        (by decide +kernel) (by decide +kernel), rfl⟩ (.cons ⟨.refl _, rfl⟩ .nil)))
  have same : Algorithm.Same .saltedSha1 .saltedSha1Alias := by decide
  have written : ({} : Codec).encode bytes (some "fabiano") (some .saltedSha1) =
      .ok (some stored) := by
    rw [encode_some_eq_ok_iff, encodeText_digest rfl]
    exact congrArg Except.ok (by decide +kernel)
  obtain ⟨runs, values⟩ := aliases_interchangeable {}
  exact ⟨⟨relabels, runs steps steps' relabels⟩, same, written,
    values _ _ bytes "fabiano" stored same written⟩

end SecretCodec

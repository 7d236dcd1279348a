import SecretCodec.Proofs.Bcrypt.Acceptance
import SecretCodec.Proofs.Codec.Naming

/-!
# What a call depends on

Encoding and verification have two stages. The first can fail: it asks for the key, judges the cost
or reads the stored value, and it never sees the plaintext. The second takes the plaintext and
cannot fail (`encodeText_eq_map`, `checkText_eq_map`). So two calls that differ in their plaintexts
only fail alike and report alike (`failures_hide_plaintext`).

Of its codec a call uses the key under the cipher, and the cost where a password is stored. Two codecs
that agree on what a call uses do the same (`perform_congr`), and so they do over whole sessions
(`Session.run_congr`).
-/

namespace SecretCodec

namespace Codec

variable {c c' : Codec} {random : Entropy} {plaintext stored : String} {a : Algorithm}

/-! ### Two stages -/

/-- How plaintexts are encoded under an algorithm, or why none is. -/
def encoder (c : Codec) (random : Entropy) (a : Algorithm) : Except Error (String → String) :=
  match a.entry.shape with
  | .plainDigest kind => .ok kind.encodePlain
  | .saltedDigest kind => .ok (kind.encodeSalted a.entry.saltLength random)
  | .adaptive =>
    if Bcrypt.isCost c.bcryptCost then .ok (Bcrypt.encode c.bcryptCost (random.draw 16))
    else .error (.hashingFailed (.costOutOfRange c.bcryptCost))
  | .reversible => c.requireKey.map SecretKey.encrypt

/-- Which plaintexts a stored value is of, or why that cannot be said. -/
def checker (c : Codec) (a : Algorithm) (stored : String) : Except Error (String → Bool) :=
  match a.entry.shape with
  | .plainDigest kind | .saltedDigest kind =>
    match kind.storedBytes a.entry.saltLength stored with
    | .error defect => .error (.malformedStoredValue defect)
    | .ok bytes => .ok fun plaintext =>
      kind.digest [Text.utf8 plaintext, bytes.drop kind.outputLength] =
        bytes.take kind.outputLength
  | .adaptive =>
    match Bcrypt.readParts stored with
    | .error cause => .error (.malformedStoredValue (.bcrypt cause))
    | .ok parts => .ok fun password =>
      Bcrypt.hash parts.cost.toNat parts.salt password = parts.hash
  | .reversible => do
    let key ← c.requireKey
    (key.decrypt stored).map fun text plaintext => text = plaintext

theorem encodeText_eq_map (c : Codec) (random : Entropy) (plaintext : String) (a : Algorithm) :
    c.encodeText random plaintext a = (c.encoder random a).map fun encode => encode plaintext := by
  rw [encodeText, encoder]
  cases a.entry.shape with
  | plainDigest kind | saltedDigest kind => rfl
  | adaptive =>
    simp only [Password.hash, Bcrypt.encodeFresh]
    split <;> rfl
  | reversible =>
    simp only
    cases c.requireKey <;> rfl

theorem checkText_eq_map (c : Codec) (plaintext : String) (a : Algorithm) (stored : String) :
    c.checkText plaintext a stored = (c.checker a stored).map fun isOf => isOf plaintext := by
  rw [checkText, checker]
  cases a.entry.shape with
  | plainDigest kind | saltedDigest kind =>
    simp only [DigestKind.check_eq_match]
    cases kind.storedBytes a.entry.saltLength stored <;> rfl
  | adaptive =>
    simp only [Password.verify, Bcrypt.verify_eq_map]
    cases Bcrypt.readParts stored <;> rfl
  | reversible =>
    simp only
    cases c.requireKey with
    | error cause => rfl
    | ok key =>
      change (key.decrypt stored).map _ = ((key.decrypt stored).map _).map _
      cases key.decrypt stored <;> rfl

end Codec

/-! ### The plaintext -/

/-- The same call with another plaintext. -/
def Call.withPlaintext {α : Type} (plaintext : α) : Call α → Call α
  | .encode _ algorithm => .encode plaintext algorithm
  | .decode stored algorithm => .decode stored algorithm
  | .verify _ algorithm stored => .verify plaintext algorithm stored
  | .encodeNamed _ name => .encodeNamed plaintext name
  | .decodeNamed stored name => .decodeNamed stored name
  | .verifyNamed _ name stored => .verifyNamed plaintext name stored
  | .inspect => .inspect

/-- Whether two outcomes look the same to those who see no answers. -/
structure Outcome.LooksLike (outcome outcome' : Outcome) : Prop where
  /-- There is an answer in both, or the same error in both. -/
  result : (∃ answer answer', outcome.value = .ok answer ∧ outcome'.value = .ok answer') ∨
    ∃ cause, outcome.value = .error cause ∧ outcome'.value = .error cause
  /-- The same is reported. -/
  events : outcome.events = outcome'.events

theorem Outcome.LooksLike.refl (outcome : Outcome) : outcome.LooksLike outcome where
  result := by
    cases outcome.value with
    | error cause => exact .inr ⟨cause, rfl, rfl⟩
    | ok answer => exact .inl ⟨answer, answer, rfl, rfl⟩
  events := rfl

namespace Codec

variable {c c' : Codec} {random : Entropy} {p q : String} {a : Algorithm}

theorem looksLike_encode (algorithm : Option Algorithm) :
    (c.perform random (.encode (some p) algorithm)).LooksLike
      (c.perform random (.encode (some q) algorithm)) := by
  cases algorithm with
  | none => exact .refl _
  | some a =>
    simp only [perform, encode, encodeText_eq_map]
    cases c.encoder random a with
    | error cause => exact .refl _
    | ok encode => exact ⟨.inl ⟨_, _, rfl, rfl⟩, rfl⟩

theorem looksLike_verify (algorithm : Option Algorithm) (stored : Option String) :
    (c.perform random (.verify (some p) algorithm stored)).LooksLike
      (c.perform random (.verify (some q) algorithm stored)) := by
  match algorithm, stored with
  | some a, some stored =>
    simp only [perform, verify, checkText_eq_map]
    cases c.checker a stored with
    | error cause => exact .refl _
    | ok isOf => exact ⟨.inl ⟨_, _, rfl, rfl⟩, rfl⟩
  | none, _ => exact .refl _
  | some _, none => exact .refl _

/-- Nothing of a plaintext shows in a failure. Of two calls that differ in their plaintexts only,
either both have an answer or both return the same error, with the same message; and they report the
same events, which are none unless a verification is asked for. -/
theorem failures_hide_plaintext (c : Codec) (random : Entropy) (call : Call (Option String))
    (p q : String) :
    let outcome := c.perform random (call.withPlaintext (some p))
    let outcome' := c.perform random (call.withPlaintext (some q))
    outcome.LooksLike outcome' ∧ (¬call.isVerification → outcome.events = []) := by
  intro outcome outcome'
  cases call with
  | encode _ algorithm => exact ⟨looksLike_encode algorithm, fun _ => rfl⟩
  | verify _ algorithm stored =>
    exact ⟨looksLike_verify algorithm stored, fun other => (other rfl).elim⟩
  | encodeNamed _ name =>
    exact ⟨perform_rel_of_name .refl rfl rfl rfl fun a _ => looksLike_encode (some a), fun _ => rfl⟩
  | verifyNamed _ name stored =>
    exact ⟨perform_rel_of_name .refl rfl rfl rfl fun a _ => looksLike_verify (some a) stored,
      fun other => (other rfl).elim⟩
  | decode stored algorithm => exact ⟨.refl _, fun _ => rfl⟩
  | decodeNamed stored name => exact ⟨.refl _, fun _ => rfl⟩
  | inspect => exact ⟨.refl _, fun _ => rfl⟩

end Codec

/-! ### The key and the cost -/

namespace Call

variable {α β : Type}

/-- Whether a call uses the key of its codec: under the cipher, and where the codec is shown. -/
def usesKey : Call α → Prop
  | .inspect => True
  | call => call.algorithm? = some .aes

/-- Whether a call uses the cost of its codec: where a password is stored, and where the codec is
shown. -/
def usesCost : Call α → Prop
  | .encode _ algorithm => algorithm = some .bcrypt
  | .encodeNamed _ name => (Algorithm.parse name).toOption = some .bcrypt
  | .inspect => True
  | _ => False

@[simp] theorem usesKey_map (f : α → β) (call : Call α) :
    (call.map f).usesKey ↔ call.usesKey := by
  cases call <;> rfl

@[simp] theorem usesCost_map (f : α → β) (call : Call α) :
    (call.map f).usesCost ↔ call.usesCost := by
  cases call <;> rfl

end Call

namespace Codec

variable {c c' : Codec} {random : Entropy} {plaintext stored name : String} {a : Algorithm}
  {call : Call (Option String)}

/-- Whether two codecs have in common what a call uses. -/
structure AgreeOn {α : Type} (c c' : Codec) (call : Call α) : Prop where
  key : call.usesKey → c.key = c'.key
  cost : call.usesCost → c.bcryptCost = c'.bcryptCost

theorem AgreeOn.map {α β : Type} {call : Call α} (h : c.AgreeOn c' call) (f : α → β) :
    c.AgreeOn c' (call.map f) where
  key uses := h.key ((call.usesKey_map f).1 uses)
  cost uses := h.cost ((call.usesCost_map f).1 uses)

theorem AgreeOn.under (h : c.AgreeOn c' call) (gives : call.name? = some name)
    (named : a.IsNamed name) : c.AgreeOn c' (call.under a) := by
  have parsed : (Algorithm.parse name).toOption = some a := by
    rw [Algorithm.parse_eq_ok_iff.2 named]
    rfl
  obtain ⟨plaintext, rfl⟩ | ⟨stored, rfl⟩ | ⟨plaintext, stored, rfl⟩ := Call.of_name? gives
  · exact ⟨fun uses => h.key (parsed.trans uses), fun uses => h.cost (parsed.trans uses)⟩
  · exact ⟨fun uses => h.key (parsed.trans uses), nofun⟩
  · exact ⟨fun uses => h.key (parsed.trans uses), nofun⟩

theorem requireKey_congr (key : c.key = c'.key) : c.requireKey = c'.requireKey := by
  rw [requireKey, requireKey, key]

theorem encodeText_congr (key : a = .aes → c.key = c'.key)
    (cost : a = .bcrypt → c.bcryptCost = c'.bcryptCost) :
    c.encodeText random plaintext a = c'.encodeText random plaintext a := by
  obtain ⟨kind, digest⟩ | rfl | rfl := a.digest_or_bcrypt_or_aes
  · rw [encodeText_digest digest, encodeText_digest digest]
  · rw [encodeText_bcrypt, encodeText_bcrypt, cost rfl]
  · rw [encodeText_aes_eq_bind, encodeText_aes_eq_bind, requireKey_congr (key rfl)]

theorem decodeText_congr (key : a = .aes → c.key = c'.key) :
    c.decodeText stored a = c'.decodeText stored a := by
  by_cases reversible : a = .aes
  · subst reversible
    rw [decodeText_aes_eq_bind, decodeText_aes_eq_bind, requireKey_congr (key rfl)]
  · rw [decodeText_of_ne reversible, decodeText_of_ne reversible]

theorem checkText_congr (key : a = .aes → c.key = c'.key) :
    c.checkText plaintext a stored = c'.checkText plaintext a stored := by
  obtain ⟨kind, digest⟩ | rfl | rfl := a.digest_or_bcrypt_or_aes
  · rw [checkText_digest digest, checkText_digest digest]
  · rw [checkText_bcrypt, checkText_bcrypt]
  · rw [checkText_aes_eq_bind, checkText_aes_eq_bind, requireKey_congr (key rfl)]

theorem perform_encode_congr {plaintext : Option String} {algorithm : Option Algorithm}
    (h : c.AgreeOn c' (.encode plaintext algorithm)) :
    c.perform random (.encode plaintext algorithm) =
      c'.perform random (.encode plaintext algorithm) := by
  match plaintext, algorithm with
  | some plaintext, some a =>
    have same : c.encodeText random plaintext a = c'.encodeText random plaintext a :=
      encodeText_congr (fun cipher => h.key (congrArg some cipher))
        (fun password => h.cost (congrArg some password))
    simp only [perform, encode, same]
  | none, _ => rfl
  | some _, none => rfl

theorem perform_decode_congr {stored : Option String} {algorithm : Option Algorithm}
    (h : c.AgreeOn c' (.decode stored algorithm)) :
    c.perform random (.decode stored algorithm) = c'.perform random (.decode stored algorithm) := by
  match stored, algorithm with
  | some stored, some a =>
    have same : c.decodeText stored a = c'.decodeText stored a :=
      decodeText_congr fun cipher => h.key (congrArg some cipher)
    simp only [perform, decode, same]
  | none, _ => rfl
  | some _, none => rfl

theorem perform_verify_congr {plaintext stored : Option String} {algorithm : Option Algorithm}
    (h : c.AgreeOn c' (.verify plaintext algorithm stored)) :
    c.perform random (.verify plaintext algorithm stored) =
      c'.perform random (.verify plaintext algorithm stored) := by
  match plaintext, algorithm, stored with
  | some plaintext, some a, some stored =>
    have same : c.checkText plaintext a stored = c'.checkText plaintext a stored :=
      checkText_congr fun cipher => h.key (congrArg some cipher)
    simp only [perform, verify, same]
  | none, _, _ => rfl
  | some _, none, _ => rfl
  | some _, some _, none => rfl

/-- Codecs that agree on what a call uses do the same. -/
theorem perform_congr (h : c.AgreeOn c' call) : c.perform random call = c'.perform random call := by
  cases call with
  | encode plaintext algorithm => exact perform_encode_congr h
  | decode stored algorithm => exact perform_decode_congr h
  | verify plaintext algorithm stored => exact perform_verify_congr h
  | encodeNamed plaintext name =>
    exact perform_rel_of_name Eq.refl rfl rfl rfl fun a named =>
      perform_encode_congr (h.under rfl named)
  | decodeNamed stored name =>
    exact perform_rel_of_name Eq.refl rfl rfl rfl fun a named =>
      perform_decode_congr (h.under rfl named)
  | verifyNamed plaintext name stored =>
    exact perform_rel_of_name Eq.refl rfl rfl rfl fun a named =>
      perform_verify_congr (h.under rfl named)
  | inspect =>
    have same : c = c' := by
      cases c
      cases c'
      simpa using And.intro (h.key trivial) (h.cost trivial)
    rw [same]

/-- A call depends on no other part of its codec than it has to. Codecs of the same cost do the same
wherever the call is not under the cipher, whatever their keys; codecs with the same key do the same
wherever no password is stored, whatever their costs; and whatever their keys and costs, codecs
verify the same under every algorithm but the cipher. -/
theorem depends_on_part (c c' : Codec) (random : Entropy) (call : Call (Option String)) :
    (c.bcryptCost = c'.bcryptCost → ¬call.usesKey →
      c.perform random call = c'.perform random call) ∧
    (c.key = c'.key → ¬call.usesCost → c.perform random call = c'.perform random call) ∧
    (call.isVerification → call.algorithm? ≠ some .aes →
      c.perform random call = c'.perform random call) := by
  refine ⟨fun cost other => ?_, fun key other => ?_, fun asked other => ?_⟩
  · exact perform_congr ⟨fun uses => (other uses).elim, fun _ => cost⟩
  · exact perform_congr ⟨fun _ => key, fun uses => (other uses).elim⟩
  · have noKey : ¬call.usesKey := by
      cases call with
      | inspect => cases asked
      | _ => exact other
    have noCost : ¬call.usesCost := by
      cases call with
      | verify plaintext algorithm stored => exact id
      | verifyNamed plaintext name stored => exact id
      | _ => cases asked
    exact perform_congr ⟨fun uses => (noKey uses).elim, fun uses => (noCost uses).elim⟩

end Codec

/-- Over a whole session, too, codecs that agree on what its calls use do the same. -/
theorem Session.run_congr {c c' : Codec} {steps : List Step}
    (h : ∀ step ∈ steps, c.AgreeOn c' step.call) : run c steps = run c' steps := by
  suffices ∀ earlier, runAfter c earlier steps = runAfter c' earlier steps from this []
  induction steps with
  | nil => exact fun _ => rfl
  | cons step steps ih =>
    obtain ⟨first, others⟩ := List.forall_mem_cons.1 h
    intro earlier
    simp only [runAfter, Codec.perform_congr (first.map (Argument.resolve earlier)), ih others]

end SecretCodec

import SecretCodec.Session
import SecretCodec.Proofs.Algorithm.Names
import SecretCodec.Proofs.Bcrypt.Written
import SecretCodec.Proofs.Codec.Dispatch

/-!
# Where failures go

There are two ways for a failure to come out of a call. Encoding and decoding return it, and `Fails`
lists by rule when they do. Verification reports it in an event and answers no, and `Reports` lists
by rule when that is. Nothing else comes out of a call (`failures_confined`): a defect of a stored
value is only ever reported, and an event is only ever such a report.
-/

namespace SecretCodec

/-- Whether a call asks for a verification. -/
def Call.isVerification {α : Type} : Call α → Bool
  | .verify .. | .verifyNamed .. => true
  | _ => false

/-- The algorithm of a call, where it gives one or the name of one. -/
def Call.algorithm? {α : Type} : Call α → Option Algorithm
  | .encode _ algorithm | .decode _ algorithm | .verify _ algorithm _ => algorithm
  | .encodeNamed _ name | .decodeNamed _ name | .verifyNamed _ name _ =>
    (Algorithm.parse name).toOption
  | .inspect => none

namespace Codec

variable {c : Codec} {random : Entropy} {plaintext stored name : String} {a : Algorithm}
  {cause : Error}

/-- The failures that encoding and decoding return. -/
inductive Fails (c : Codec) : Call (Option String) → Error → Prop
  | missingAlgorithm {plaintext : String} :
      Fails c (.encode (some plaintext) none) .missingAlgorithm
  | costOutOfRange {plaintext : String} (outside : ¬Bcrypt.isCost c.bcryptCost) :
      Fails c (.encode (some plaintext) (some .bcrypt))
        (.hashingFailed (.costOutOfRange c.bcryptCost))
  | noKeyToEncode {plaintext : String} (noKey : c.key = none) :
      Fails c (.encode (some plaintext) (some .aes)) .keyNotConfigured
  | notReversible {stored : String} {a : Algorithm} (oneWay : a ≠ .aes) :
      Fails c (.decode (some stored) (some a)) (.notReversible a)
  | noKeyToDecode {stored : String} (noKey : c.key = none) :
      Fails c (.decode (some stored) (some .aes)) .keyNotConfigured
  | decryptionFailed {stored : String} {key : SecretKey} (held : c.key = some key)
      (other : ∀ text, Text.trim stored ≠ key.encrypt text) :
      Fails c (.decode (some stored) (some .aes)) .decryptionFailed
  | unknownToEncode {plaintext : Option String} {name : String}
      (unknown : ∀ a : Algorithm, ¬a.IsNamed name) :
      Fails c (.encodeNamed plaintext name) (.unknownAlgorithm (Text.trim name))
  | unknownToDecode {stored : Option String} {name : String}
      (unknown : ∀ a : Algorithm, ¬a.IsNamed name) :
      Fails c (.decodeNamed stored name) (.unknownAlgorithm (Text.trim name))
  | encodeNamed {plaintext : Option String} {name : String} {a : Algorithm} {cause : Error}
      (named : a.IsNamed name) (fails : Fails c (.encode plaintext (some a)) cause) :
      Fails c (.encodeNamed plaintext name) cause
  | decodeNamed {stored : Option String} {name : String} {a : Algorithm} {cause : Error}
      (named : a.IsNamed name) (fails : Fails c (.decode stored (some a)) cause) :
      Fails c (.decodeNamed stored name) cause

/-- What keeps a verification from an answer and is reported. -/
inductive Reports (c : Codec) : Call (Option String) → Error → Prop
  | digest {plaintext stored : String} {a : Algorithm} {kind : DigestKind} {defect : Defect}
      (digest : a.entry.digestKind? = some kind)
      (malformed : kind.check a.entry.saltLength plaintext stored =
        .error (.malformedStoredValue defect)) :
      Reports c (.verify (some plaintext) (some a) (some stored)) (.malformedStoredValue defect)
  | password {plaintext stored : String} {defect : Bcrypt.Error}
      (malformed : Bcrypt.verify plaintext stored = .error defect) :
      Reports c (.verify (some plaintext) (some .bcrypt) (some stored))
        (.malformedStoredValue (.bcrypt defect))
  | noKey {plaintext stored : String} (noKey : c.key = none) :
      Reports c (.verify (some plaintext) (some .aes) (some stored)) .keyNotConfigured
  | decryptionFailed {plaintext stored : String} {key : SecretKey} (held : c.key = some key)
      (other : ∀ text, Text.trim stored ≠ key.encrypt text) :
      Reports c (.verify (some plaintext) (some .aes) (some stored)) .decryptionFailed
  | unknown {plaintext stored : Option String} {name : String}
      (unknown : ∀ a : Algorithm, ¬a.IsNamed name) :
      Reports c (.verifyNamed plaintext name stored) (.unknownAlgorithm (Text.trim name))
  | named {plaintext stored : Option String} {name : String} {a : Algorithm} {cause : Error}
      (named : a.IsNamed name) (reports : Reports c (.verify plaintext (some a) stored) cause) :
      Reports c (.verifyNamed plaintext name stored) cause

/-! ### Present input -/

theorem requireKey_eq_error_iff :
    c.requireKey = .error cause ↔ c.key = none ∧ cause = .keyNotConfigured := by
  rw [requireKey]
  cases c.key with
  | none => simp [eq_comm]
  | some key => simp

theorem encodeText_eq_error_iff :
    c.encodeText random plaintext a = .error cause ↔
      c.Fails (.encode (some plaintext) (some a)) cause := by
  obtain ⟨kind, digest⟩ | rfl | rfl := a.digest_or_bcrypt_or_aes
  · rw [encodeText_digest digest]
    constructor
    · nofun
    · intro fails
      cases fails <;> cases digest
  · rw [encodeText_bcrypt, Password.hash, mapError_eq_error_iff, Bcrypt.encodeFresh]
    constructor
    · rintro ⟨defect, failed, rfl⟩
      split at failed
      · cases failed
      · next outside =>
        cases failed
        exact .costOutOfRange outside
    · intro fails
      cases fails with
      | costOutOfRange outside => exact ⟨_, if_neg outside, rfl⟩
  · rw [encodeText_aes_eq_bind, bind_eq_error_iff, requireKey_eq_error_iff]
    constructor
    · rintro (⟨noKey, rfl⟩ | ⟨key, -, done⟩)
      · exact .noKeyToEncode noKey
      · cases done
    · intro fails
      cases fails with
      | noKeyToEncode noKey => exact .inl ⟨noKey, rfl⟩

/-- Only the cipher is undone. -/
theorem decodeText_of_ne (oneWay : a ≠ .aes) :
    c.decodeText stored a = .error (.notReversible a) := by
  cases a with
  | aes => exact (oneWay rfl).elim
  | _ => rfl

theorem decodeText_eq_error_iff :
    c.decodeText stored a = .error cause ↔ c.Fails (.decode (some stored) (some a)) cause := by
  by_cases reversible : a = .aes
  · subst reversible
    rw [decodeText_aes_eq_bind, bind_eq_error_iff, requireKey_eq_error_iff]
    simp only [requireKey_eq_ok_iff, SecretKey.decrypt_eq_error_iff]
    constructor
    · rintro (⟨noKey, rfl⟩ | ⟨key, held, rfl, other⟩)
      · exact .noKeyToDecode noKey
      · exact .decryptionFailed held other
    · intro fails
      cases fails with
      | notReversible oneWay => exact (oneWay rfl).elim
      | noKeyToDecode noKey => exact .inl ⟨noKey, rfl⟩
      | decryptionFailed held other => exact .inr ⟨_, held, rfl, other⟩
  · rw [decodeText_of_ne reversible]
    constructor
    · intro failed
      cases failed
      exact .notReversible reversible
    · intro fails
      cases fails with
      | notReversible oneWay => rfl
      | noKeyToDecode noKey => exact (reversible rfl).elim
      | decryptionFailed held other => exact (reversible rfl).elim

theorem checkText_eq_error_iff :
    c.checkText plaintext a stored = .error cause ↔
      c.Reports (.verify (some plaintext) (some a) (some stored)) cause := by
  obtain ⟨kind, digest⟩ | rfl | rfl := a.digest_or_bcrypt_or_aes
  · rw [checkText_digest digest]
    constructor
    · intro failed
      obtain ⟨defect, -, rfl⟩ := DigestKind.check_eq_error_iff.1 failed
      exact .digest digest failed
    · intro reports
      cases reports with
      | digest same malformed =>
        cases digest.symm.trans same
        exact malformed
      | password malformed => cases digest
      | noKey noKey => cases digest
      | decryptionFailed held other => cases digest
  · rw [checkText_bcrypt, Password.verify, mapError_eq_error_iff]
    constructor
    · rintro ⟨defect, malformed, rfl⟩
      exact .password malformed
    · intro reports
      cases reports with
      | digest digest malformed => cases digest
      | password malformed => exact ⟨_, malformed, rfl⟩
  · rw [checkText_aes_eq_bind, bind_eq_error_iff, requireKey_eq_error_iff]
    simp only [requireKey_eq_ok_iff, SecretKey.verify_eq_error_iff]
    constructor
    · rintro (⟨noKey, rfl⟩ | ⟨key, held, rfl, other⟩)
      · exact .noKey noKey
      · exact .decryptionFailed held other
    · intro reports
      cases reports with
      | digest digest malformed => cases digest
      | noKey noKey => exact .inl ⟨noKey, rfl⟩
      | decryptionFailed held other => exact .inr ⟨_, held, rfl, other⟩

/-! ### Calls -/

theorem encode_eq_error_iff {plaintext : Option String} {algorithm : Option Algorithm} :
    c.encode random plaintext algorithm = .error cause ↔
      c.Fails (.encode plaintext algorithm) cause := by
  match plaintext, algorithm with
  | none, _ =>
    constructor
    · nofun
    · nofun
  | some plaintext, none =>
    constructor
    · intro failed
      cases failed
      exact .missingAlgorithm
    · intro fails
      cases fails
      rfl
  | some plaintext, some a =>
    exact Iff.trans map_eq_error_iff encodeText_eq_error_iff

theorem decode_eq_error_iff {stored : Option String} {algorithm : Option Algorithm} :
    c.decode stored algorithm = .error cause ↔ c.Fails (.decode stored algorithm) cause := by
  match stored, algorithm with
  | none, _ =>
    constructor
    · nofun
    · nofun
  | some stored, none =>
    constructor
    · nofun
    · nofun
  | some stored, some a =>
    exact Iff.trans map_eq_error_iff decodeText_eq_error_iff

theorem encodeNamed_eq_error_iff {plaintext : Option String} :
    c.encodeNamed random plaintext name = .error cause ↔
      c.Fails (.encodeNamed plaintext name) cause := by
  have resolved : c.encodeNamed random plaintext name =
      Algorithm.parse name >>= fun a => c.encode random plaintext (some a) := by
    rw [encodeNamed]
    cases Algorithm.parse name <;> rfl
  rw [resolved, bind_eq_error_iff, Algorithm.parse_eq_error_iff]
  simp only [Algorithm.parse_eq_ok_iff, encode_eq_error_iff]
  constructor
  · rintro (⟨unknown, rfl⟩ | ⟨a, named, fails⟩)
    · exact .unknownToEncode unknown
    · exact .encodeNamed named fails
  · intro fails
    cases fails with
    | unknownToEncode unknown => exact .inl ⟨unknown, rfl⟩
    | encodeNamed named fails => exact .inr ⟨_, named, fails⟩

theorem decodeNamed_eq_error_iff {stored : Option String} :
    c.decodeNamed stored name = .error cause ↔ c.Fails (.decodeNamed stored name) cause := by
  have resolved : c.decodeNamed stored name =
      Algorithm.parse name >>= fun a => c.decode stored (some a) := by
    rw [decodeNamed]
    cases Algorithm.parse name <;> rfl
  rw [resolved, bind_eq_error_iff, Algorithm.parse_eq_error_iff]
  simp only [Algorithm.parse_eq_ok_iff, decode_eq_error_iff]
  constructor
  · rintro (⟨unknown, rfl⟩ | ⟨a, named, fails⟩)
    · exact .unknownToDecode unknown
    · exact .decodeNamed named fails
  · intro fails
    cases fails with
    | unknownToDecode unknown => exact .inl ⟨unknown, rfl⟩
    | decodeNamed named fails => exact .inr ⟨_, named, fails⟩

/-! ### Verifications -/

/-- The event that a verification failed for a cause, under an algorithm if there is one. -/
def failure (algorithm : Option Algorithm) (cause : Error) : Event where
  level := .debug
  message := "verification failed"
  fields := algorithm.toList.map (fun a => ("algorithm", a.name)) ++ [("error", cause.message)]

theorem reports_verifyNamed_iff {plaintext stored : Option String} (named : a.IsNamed name) :
    c.Reports (.verifyNamed plaintext name stored) cause ↔
      c.Reports (.verify plaintext (some a) stored) cause := by
  constructor
  · intro reports
    cases reports with
    | unknown unknown => exact (unknown a named).elim
    | named other reports =>
      cases (Algorithm.parse_eq_ok_iff.2 other).symm.trans (Algorithm.parse_eq_ok_iff.2 named)
      exact reports
  · exact .named named

theorem reports_verifyNamed_of_unknown {plaintext stored : Option String}
    (unknown : ∀ a : Algorithm, ¬a.IsNamed name) :
    c.Reports (.verifyNamed plaintext name stored) cause ↔
      cause = .unknownAlgorithm (Text.trim name) := by
  constructor
  · intro reports
    cases reports with
    | unknown _ => rfl
    | named named _ => exact (unknown _ named).elim
  · rintro rfl
    exact .unknown unknown

/-- A verification reports one cause and answers no, or it answers and reports nothing. -/
theorem verify_cases (c : Codec) (plaintext : Option String) (algorithm : Option Algorithm)
    (stored : Option String) :
    (∃ cause, (∀ other, c.Reports (.verify plaintext algorithm stored) other ↔ other = cause) ∧
        c.verify plaintext algorithm stored = ⟨false, [failure algorithm cause]⟩) ∨
      ((∀ cause, ¬c.Reports (.verify plaintext algorithm stored) cause) ∧
        ∃ answer, c.verify plaintext algorithm stored = { value := answer }) := by
  match plaintext, algorithm, stored with
  | some plaintext, some a, some stored =>
    simp only [← checkText_eq_error_iff]
    cases checked : c.checkText plaintext a stored with
    | error cause =>
      refine .inl ⟨cause, fun other => ⟨fun same => (Except.error.inj same).symm, ?_⟩, ?_⟩
      · rintro rfl
        rfl
      · rw [verify, checked]
        rfl
    | ok answer =>
      refine .inr ⟨fun cause failed => ?_, answer, verify_of_checkText checked⟩
      cases failed
  | none, _, _ =>
    refine .inr ⟨fun cause reports => ?_, false, rfl⟩
    cases reports
  | some _, none, _ =>
    refine .inr ⟨fun cause reports => ?_, false, rfl⟩
    cases reports
  | some _, some _, none =>
    refine .inr ⟨fun cause reports => ?_, false, rfl⟩
    cases reports

/-- The same for an algorithm given by name. Under an unknown name nothing else is looked at. -/
theorem verifyNamed_cases (c : Codec) (plaintext : Option String) (name : String)
    (stored : Option String) :
    (∃ cause, (∀ other, c.Reports (.verifyNamed plaintext name stored) other ↔ other = cause) ∧
        c.verifyNamed plaintext name stored =
          ⟨false, [failure (Algorithm.parse name).toOption cause]⟩) ∨
      ((∀ cause, ¬c.Reports (.verifyNamed plaintext name stored) cause) ∧
        ∃ answer, c.verifyNamed plaintext name stored = { value := answer }) := by
  rw [verifyNamed]
  cases parsed : Algorithm.parse name with
  | error cause =>
    obtain ⟨unknown, rfl⟩ := Algorithm.parse_eq_error_iff.1 parsed
    exact .inl ⟨_, fun other => reports_verifyNamed_of_unknown unknown, rfl⟩
  | ok a =>
    simp only [reports_verifyNamed_iff (Algorithm.parse_eq_ok_iff.1 parsed)]
    exact c.verify_cases plaintext (some a) stored

/-! ### Confinement -/

/-- The outcome of a call keeps failures where they belong: they are returned as `Fails` says,
reported as `Reports` says, and nothing else is returned or reported. -/
structure Confined (c : Codec) (call : Call (Option String)) (outcome : Outcome) : Prop where
  /-- The errors that are returned, and no others. -/
  error_iff (cause : Error) : outcome.value = .error cause ↔ c.Fails call cause
  /-- A verification returns a truth value. -/
  answered : call.isVerification → ∃ answer, outcome.value = .ok (.truth answer)
  /-- What is reported is reported in one event, and the answer is no. -/
  reported (cause : Error) : c.Reports call cause →
    outcome = ⟨.ok (.truth false), [failure call.algorithm? cause]⟩
  /-- There is no event where nothing is reported. -/
  silent : (∀ cause, ¬c.Reports call cause) → outcome.events = []
  /-- There is no event outside verifications. -/
  quiet : ¬call.isVerification → outcome.events = []
  /-- A defect of a stored value is never returned. -/
  kept (defect : Defect) : outcome.value ≠ .error (.malformedStoredValue defect)

/-- No call but a verification has anything to report. -/
theorem Reports.isVerification {call : Call (Option String)} (h : c.Reports call cause) :
    call.isVerification := by
  cases h <;> rfl

/-- No verification has an error to return. -/
theorem Fails.not_isVerification {call : Call (Option String)} (h : c.Fails call cause) :
    ¬call.isVerification := by
  cases h <;> exact Bool.false_ne_true

theorem Fails.ne_malformedStoredValue {call : Call (Option String)} (h : c.Fails call cause)
    (defect : Defect) : cause ≠ .malformedStoredValue defect := by
  induction h with
  | encodeNamed named fails ih => exact ih
  | decodeNamed named fails ih => exact ih
  | _ => nofun

/-- What returns its errors and reports nothing is confined. -/
theorem confined_of_error_iff {call : Call (Option String)} {value : Except Error Answer}
    (other : ¬call.isVerification)
    (error_iff : ∀ cause, value = .error cause ↔ c.Fails call cause) :
    c.Confined call { value } where
  error_iff := error_iff
  answered asked := (other asked).elim
  reported _ reports := (other reports.isVerification).elim
  silent _ := rfl
  quiet _ := rfl
  kept defect failed := ((error_iff _).1 failed).ne_malformedStoredValue defect rfl

/-- A verification that reports its one cause and answers no, or answers and has nothing to report,
is confined. -/
theorem confined_of_cases {call : Call (Option String)} {checked : Logged Bool}
    (asked : call.isVerification)
    (h : (∃ cause, (∀ other, c.Reports call other ↔ other = cause) ∧
        checked = ⟨false, [failure call.algorithm? cause]⟩) ∨
      ((∀ cause, ¬c.Reports call cause) ∧ ∃ answer, checked = { value := answer })) :
    c.Confined call ⟨.ok (.truth checked.value), checked.events⟩ where
  error_iff cause := ⟨nofun, fun fails => (fails.not_isVerification asked).elim⟩
  answered _ := ⟨_, rfl⟩
  reported other reports := by
    obtain ⟨cause, only, rfl⟩ | ⟨silent, -⟩ := h
    · rw [(only other).1 reports]
    · exact (silent other reports).elim
  silent silent := by
    obtain ⟨cause, only, -⟩ | ⟨-, answer, rfl⟩ := h
    · exact (silent cause ((only cause).2 rfl)).elim
    · rfl
  quiet other := (other asked).elim
  kept _ := nofun

/-- Every failure of every call is returned or reported, as the rules say. -/
theorem failures_confined (c : Codec) (random : Entropy) (call : Call (Option String)) :
    c.Confined call (c.perform random call) := by
  cases call with
  | encode plaintext algorithm =>
    refine confined_of_error_iff Bool.false_ne_true fun cause => ?_
    rw [map_eq_error_iff, encode_eq_error_iff]
  | decode stored algorithm =>
    refine confined_of_error_iff Bool.false_ne_true fun cause => ?_
    rw [map_eq_error_iff, decode_eq_error_iff]
  | verify plaintext algorithm stored =>
    exact confined_of_cases rfl (c.verify_cases plaintext algorithm stored)
  | encodeNamed plaintext name =>
    refine confined_of_error_iff Bool.false_ne_true fun cause => ?_
    rw [map_eq_error_iff, encodeNamed_eq_error_iff]
  | decodeNamed stored name =>
    refine confined_of_error_iff Bool.false_ne_true fun cause => ?_
    rw [map_eq_error_iff, decodeNamed_eq_error_iff]
  | verifyNamed plaintext name stored =>
    exact confined_of_cases rfl (c.verifyNamed_cases plaintext name stored)
  | inspect => exact confined_of_error_iff Bool.false_ne_true fun cause => ⟨nofun, nofun⟩

end Codec

end SecretCodec

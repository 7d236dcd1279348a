import SecretCodec.Proofs.Bcrypt.Acceptance
import SecretCodec.Proofs.Codec.Failures
import SecretCodec.Proofs.Codec.Verification
import SecretCodec.Proofs.Config.Building

/-!
# A codec that was built is ready

Costs are checked in two places, when a codec is built and when a password is hashed, and the two
checks draw the same line. So a codec that was built cannot fail to encode later, but for a key that
was never configured. A codec made with any other cost fails to hash passwords and does nothing else
differently (`build_ready`).
-/

namespace SecretCodec

/-! ### The two checks -/

namespace Password

variable {cost : UInt32} {random : Entropy} {password : String}

theorem exists_hash_iff :
    (∃ stored, hash cost random password = .ok stored) ↔ 4 ≤ cost ∧ cost ≤ 31 := by
  simp only [hash_eq_ok_iff, Bcrypt.isCost_iff]
  exact ⟨fun ⟨_, inRange, _⟩ => inRange, fun inRange => ⟨_, inRange, rfl⟩⟩

end Password

namespace Config

variable {c : Config} {w : World} {codec : Codec}

theorem build_ne_costOutOfRange_iff :
    (c.build w).value ≠ .error (.costOutOfRange c.bcryptCost) ↔ c.InRange := by
  constructor
  · intro accepted
    by_contra outside
    exact accepted (congrArg Logged.value (build_of_not_inRange outside))
  · intro inRange refused
    have outcome := c.builds_build w
    generalize c.build w = made at *
    cases outcome with
    | outOfRange outside => exact outside inRange
    | keyless _ sourceless => cases refused
    | failed _ first failed => cases refused
    | keyed _ first read front => cases refused

/-- A codec that was built can hash passwords. -/
theorem cost_inRange_of_build (built : (c.build w).value = .ok codec) :
    4 ≤ codec.bcryptCost ∧ codec.bcryptCost ≤ 31 := by
  have sameCost : codec.bcryptCost = c.bcryptCost := (events_of_build built).1
  have inRange : c.InRange := by
    apply build_ne_costOutOfRange_iff.1
    rw [built]
    nofun
  rw [sameCost]
  exact inRange

/-- A codec that was built has no key exactly if the configuration has no source for one. -/
theorem key_eq_none_iff_of_build (built : (c.build w).value = .ok codec) :
    codec.key = none ↔ c.key = {} := by
  have sameKey : codec.key.isSome = c.key.sources.head?.isSome := (events_of_build built).2.1
  rw [KeySection.isSome_head?_sources] at sameKey
  obtain ⟨⟨keyEnv, keyPath, secretKey⟩, cost, fallback⟩ := c
  rw [← Option.isNone_iff_eq_none, ← Option.not_isSome, sameKey, KeySection.mk.injEq]
  simp [and_assoc]

end Config

/-! ### Encoding -/

namespace Codec

variable {codec : Codec} {random : Entropy} {plaintext : String} {a : Algorithm} {cause : Error}

/-- Present input is encoded, unless a password is hashed at a cost out of range or there is no key
to encrypt under. -/
theorem encode_some_eq_error_iff :
    codec.encode random (some plaintext) (some a) = .error cause ↔
      (a = .bcrypt ∧ ¬(4 ≤ codec.bcryptCost ∧ codec.bcryptCost ≤ 31) ∧
          cause = .hashingFailed (.costOutOfRange codec.bcryptCost)) ∨
        (a = .aes ∧ codec.key = none ∧ cause = .keyNotConfigured) := by
  rw [encode_eq_error_iff, ← Bcrypt.isCost_iff]
  constructor
  · intro fails
    cases fails with
    | costOutOfRange outside => exact .inl ⟨rfl, outside, rfl⟩
    | noKeyToEncode noKey => exact .inr ⟨rfl, noKey, rfl⟩
  · rintro (⟨rfl, outside, rfl⟩ | ⟨rfl, noKey, rfl⟩)
    · exact .costOutOfRange outside
    · exact .noKeyToEncode noKey

/-- The cost counts where a password is hashed, and is not looked at where one is verified. -/
structure CostCounts (codec : Codec) (cost : UInt32) : Prop where
  /-- Hashing fails outside the range, and for no other reason. -/
  encoded (random : Entropy) (plaintext : String) (cause : Error) :
    { codec with bcryptCost := cost }.encode random (some plaintext) (some .bcrypt) =
        .error cause ↔
      ¬(4 ≤ cost ∧ cost ≤ 31) ∧ cause = .hashingFailed (.costOutOfRange cost)
  /-- What is answered and what is reported of a stored value is the same at every cost. -/
  verified (plaintext stored : Option String) :
    { codec with bcryptCost := cost }.verify plaintext (some .bcrypt) stored =
      codec.verify plaintext (some .bcrypt) stored

theorem costCounts (codec : Codec) (cost : UInt32) : codec.CostCounts cost where
  encoded random plaintext cause := by
    rw [encode_some_eq_error_iff]
    constructor
    · rintro (⟨-, outside, rfl⟩ | ⟨other, -, -⟩)
      · exact ⟨outside, rfl⟩
      · cases other
    · rintro ⟨outside, rfl⟩
      exact .inl ⟨rfl, outside, rfl⟩
  verified plaintext stored := by
    cases plaintext with
    | none => rfl
    | some plaintext =>
      cases stored with
      | none => rfl
      | some stored => rfl

end Codec

/-- What a configuration that was accepted is good for. -/
structure Config.IsReady (c : Config) : Prop where
  /-- The cost is accepted exactly if passwords can be hashed at it, whichever password it is and
  whatever is drawn for its salt. -/
  accepted (w : World) (random : Entropy) (password : String) :
    (c.build w).value ≠ .error (.costOutOfRange c.bcryptCost) ↔
      ∃ stored, Password.hash c.bcryptCost random password = .ok stored
  /-- The codec encodes everything, but under the cipher only if there is a source for a key. -/
  encodes (w : World) (codec : Codec) : (c.build w).value = .ok codec →
    ∀ (random : Entropy) (plaintext : String) (a : Algorithm),
      (∃ stored, codec.encode random (some plaintext) (some a) = .ok (some stored)) ↔
        ¬(a = .aes ∧ c.key = {})
  /-- The failure is then that there is no key. -/
  fails (w : World) (codec : Codec) : (c.build w).value = .ok codec →
    ∀ (random : Entropy) (plaintext : String) (a : Algorithm) (cause : Error),
      codec.encode random (some plaintext) (some a) = .error cause ↔
        (a = .aes ∧ c.key = {}) ∧ cause = .keyNotConfigured

/-- Every configuration is checked well enough when a codec is built, and a cost that was not checked
does no harm but to hashing. -/
theorem build_ready :
    (∀ c : Config, c.IsReady) ∧ ∀ (codec : Codec) (cost : UInt32), codec.CostCounts cost := by
  refine ⟨fun c => ⟨?accepted, ?encodes, ?fails⟩, Codec.costCounts⟩
  case accepted =>
    intro w random password
    rw [Config.build_ne_costOutOfRange_iff, Password.exists_hash_iff, Config.InRange]
  case encodes =>
    intro w codec built random plaintext a
    have inRange : Bcrypt.isCost codec.bcryptCost :=
      Bcrypt.isCost_iff.2 (Config.cost_inRange_of_build built)
    rw [Codec.exists_encode_iff, ← Config.key_eq_none_iff_of_build built, Codec.hasKey,
      Option.isSome_iff_ne_none, not_and]
    exact and_iff_right fun _ => inRange
  case fails =>
    intro w codec built random plaintext a cause
    rw [Codec.encode_some_eq_error_iff, Config.key_eq_none_iff_of_build built]
    constructor
    · rintro (⟨-, outside, -⟩ | ⟨cipher, sourceless, rfl⟩)
      · exact absurd (Config.cost_inRange_of_build built) outside
      · exact ⟨⟨cipher, sourceless⟩, rfl⟩
    · rintro ⟨⟨cipher, sourceless⟩, rfl⟩
      exact .inr ⟨cipher, sourceless, rfl⟩

end SecretCodec

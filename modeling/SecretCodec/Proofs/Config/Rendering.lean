import SecretCodec.Config.Json
import SecretCodec.Proofs.Json.Reading
import SecretCodec.Proofs.Json.Record
import SecretCodec.Proofs.Text.Decimal

/-!
# What a configuration is written as

A configuration may be written in many ways: as an object or a list, with members in any order and
others between them, with defaults left out or not. `Config.IsRendering` says which texts are
renderings of a configuration. Exactly those are read as it (`Config.parse_eq_ok_iff`), and a text
that is a rendering of none is refused for one of two reasons (`Config.parse_eq_error_iff`).
-/

namespace SecretCodec

open Json (FieldOr IsDocument NullOr Value)

/-- An algorithm is written as its canonical name, or as an object with that name alone and null. -/
def Algorithm.IsWrittenAs (a : Algorithm) (v : Value) : Prop :=
  v = .ofText a.name ∨ v = .ofMembers [(a.name, .null)]

/-- A text is written in a field as itself; none is null, or no field at all. -/
def IsTextIn : Option String → Option Value → Prop :=
  FieldOr (NullOr fun text v => v = .ofText text) none

namespace KeySection

/-- A section is written as a record of three fields, each with a text or none. -/
def IsWrittenAs (s : KeySection) (v : Value) : Prop :=
  ∃ keyEnv keyPath secretKey,
    v.HasFields ["keyEnv", "keyPath", "secretKey"] [keyEnv, keyPath, secretKey] ∧
      IsTextIn s.keyEnv keyEnv ∧ IsTextIn s.keyPath keyPath ∧ IsTextIn s.secretKey secretKey

end KeySection

namespace Config

/-- A cost is written in digits, without sign, fraction or exponent. -/
def IsCostWrittenAs (cost : UInt32) (v : Value) : Prop :=
  ∃ digits, v = .number digits ∧ Decimal.IsNumeralOf digits cost.toNat

/-- A configuration is written as a record of three fields. A section or a cost that is missing is
the default one, and where no algorithm is configured the field is missing or null. -/
def IsWrittenAs (c : Config) (v : Value) : Prop :=
  ∃ key bcryptCost defaultAlgorithm,
    v.HasFields ["key", "bcryptCost", "defaultAlgorithm"] [key, bcryptCost, defaultAlgorithm] ∧
      FieldOr KeySection.IsWrittenAs {} c.key key ∧
      FieldOr IsCostWrittenAs 10 c.bcryptCost bcryptCost ∧
      FieldOr (NullOr Algorithm.IsWrittenAs) none c.defaultAlgorithm defaultAlgorithm

/-- Whether a text is a document that a configuration is written as. -/
def IsRendering (c : Config) (text : String) : Prop := ∃ v, IsDocument text v ∧ c.IsWrittenAs v

end Config

variable {v : Value} {field : Option Value}

/-! ### The values of fields -/

theorem Json.Value.word?_eq_some_iff {cost : UInt32} :
    v.word? = some cost ↔ Config.IsCostWrittenAs cost v := by
  rw [Config.IsCostWrittenAs]
  cases v with
  | number spelling => simp [word?, Decimal.read?_bind_toWord?_eq_some_iff]
  | _ => exact iff_of_false nofun nofun

theorem optionalText?_eq_some_iff {t : Option String} :
    optionalText? field = some t ↔ IsTextIn t field :=
  Json.fieldOr_iff rfl fun _ => Value.textOrNull?_eq_some_iff

namespace Algorithm

variable {a : Algorithm}

theorem textOf?_bind_ofDocumentName?_eq_some_iff {units : Json.Units} :
    (Value.textOf? units).bind ofDocumentName? = some a ↔
      units = Text.Utf16.encode a.name.toList := by
  simp only [Option.bind_eq_some_iff, Value.textOf?_eq_some_iff, ofDocumentName?_eq_some_iff]
  constructor
  · rintro ⟨_, same, rfl⟩
    exact same
  · intro same
    exact ⟨a.name, same, rfl⟩

theorem ofJson?_eq_some_iff : ofJson? v = some a ↔ a.IsWrittenAs v := by
  rw [IsWrittenAs, Value.ofText, Value.ofMembers, List.map_singleton, ofJson?.eq_def]
  split
  · rw [textOf?_bind_ofDocumentName?_eq_some_iff]
    simp
  · rw [textOf?_bind_ofDocumentName?_eq_some_iff]
    simp
  · next noString noObject =>
    constructor
    · intro h
      cases h
    · rintro (rfl | rfl)
      · exact absurd rfl (noString _)
      · exact absurd rfl (noObject _)

end Algorithm

namespace Config

theorem algorithmField?_eq_some_iff {a : Option Algorithm} :
    algorithmField? field = some a ↔ FieldOr (NullOr Algorithm.IsWrittenAs) none a field := by
  refine Json.fieldOr_iff rfl fun v => ?_
  refine Json.nullOr_iff (fun isNull => isNull ▸ rfl) (fun notNull => ?_) ?_
  · have : algorithmField? (some v) = (Algorithm.ofJson? v).map some := by
      cases v with
      | null => exact absurd rfl notNull
      | _ => rfl
    rw [this, Option.map_eq_some_iff]
    simp only [Algorithm.ofJson?_eq_some_iff]
  · rintro a (same | same) <;> cases same

theorem costField?_eq_some_iff {cost : UInt32} :
    costField? field = some cost ↔ FieldOr IsCostWrittenAs 10 cost field :=
  Json.fieldOr_iff rfl fun _ => Value.word?_eq_some_iff

end Config

/-! ### The section and the configuration -/

theorem KeySection.ofJson?_eq_some_iff {s : KeySection} : ofJson? v = some s ↔ s.IsWrittenAs v := by
  simp only [ofJson?, Option.bind_eq_bind, Option.bind_eq_some_iff, Value.record?_eq_some_iff]
  constructor
  · rintro ⟨values, has, read⟩
    split at read
    · next keyEnv keyPath secretKey =>
      simp only [Option.bind_eq_some_iff, optionalText?_eq_some_iff] at read
      obtain ⟨_, env, _, path, _, secret, same⟩ := read
      cases same
      exact ⟨keyEnv, keyPath, secretKey, has, env, path, secret⟩
    · cases read
  · rintro ⟨keyEnv, keyPath, secretKey, has, env, path, secret⟩
    refine ⟨_, has, ?_⟩
    simp only [Option.bind_eq_some_iff, optionalText?_eq_some_iff]
    exact ⟨_, env, _, path, _, secret, rfl⟩

namespace Config

variable {c : Config} {text : String}

theorem keyField?_eq_some_iff {s : KeySection} :
    keyField? field = some s ↔ FieldOr KeySection.IsWrittenAs {} s field :=
  Json.fieldOr_iff rfl fun _ => KeySection.ofJson?_eq_some_iff

theorem ofJson?_eq_some_iff : ofJson? v = some c ↔ c.IsWrittenAs v := by
  simp only [ofJson?, Option.bind_eq_bind, Option.bind_eq_some_iff, Value.record?_eq_some_iff]
  constructor
  · rintro ⟨values, has, read⟩
    split at read
    · next key cost algorithm =>
      simp only [Option.bind_eq_some_iff, keyField?_eq_some_iff, costField?_eq_some_iff,
        algorithmField?_eq_some_iff] at read
      obtain ⟨_, isKey, _, isCost, _, isAlgorithm, same⟩ := read
      cases same
      exact ⟨key, cost, algorithm, has, isKey, isCost, isAlgorithm⟩
    · cases read
  · rintro ⟨key, cost, algorithm, has, isKey, isCost, isAlgorithm⟩
    refine ⟨_, has, ?_⟩
    simp only [Option.bind_eq_some_iff, keyField?_eq_some_iff, costField?_eq_some_iff,
      algorithmField?_eq_some_iff]
    exact ⟨_, isKey, _, isCost, _, isAlgorithm, rfl⟩

/-- Exactly the renderings of a configuration are read as it. -/
theorem parse_eq_ok_iff : parse text = .ok c ↔ c.IsRendering text := by
  simp only [IsRendering, ← Value.parse_eq_some_iff, ← ofJson?_eq_some_iff]
  rw [parse]
  cases Value.parse text with
  | none => simp
  | some v =>
    simp only [Option.some.injEq, exists_eq_left']
    cases ofJson? v with
    | none => simp
    | some read => simp

/-- A text that is no document is reported as such, and so is a document of something else. -/
theorem parse_eq_error_iff {cause : ConfigError} :
    parse text = .error cause ↔
      (∀ v, ¬IsDocument text v) ∧ cause = .notJson ∨
        (∃ v, IsDocument text v ∧ ∀ c : Config, ¬c.IsWrittenAs v) ∧ cause = .notConfig := by
  simp only [← Value.parse_eq_some_iff, ← ofJson?_eq_some_iff]
  rw [parse]
  cases Value.parse text with
  | none => simp [eq_comm]
  | some v =>
    cases read : ofJson? v with
    | none => simp [read, eq_comm]
    | some c => simp [read]

end Config

end SecretCodec

import SecretCodec.Config.Basic
import SecretCodec.World.Directory
import SecretCodec.Proofs.Bcrypt.Written

/-!
# How a codec is built

A configuration has up to three sources for its key, in a fixed order (`KeySection.sources`). A
codec is built from the first of them, or without a key where there is none, or not at all; `Builds`
lists by rule when that is and what is reported on the way. So neither a later source nor any part
of the world but the place of the first source has a say in what is built, and a source that fails
is not replaced by another (`build_from_first`). What is at a path does depend on a file that stands
where the path needs a directory (`build_sees_file_on_path`).
-/

namespace SecretCodec

/-! ### Sources and what they hold -/

/-- The sources that a section has, in the order in which they count. -/
def KeySection.sources (s : KeySection) : List KeySource :=
  (s.keyEnv.map .ofVariable).toList ++ (s.keyPath.map .ofFile).toList ++
    (s.secretKey.map .inline).toList

theorem KeySection.source?_eq_head? (s : KeySection) : s.source? = s.sources.head? := by
  obtain ⟨keyEnv, keyPath, secretKey⟩ := s
  match keyEnv, keyPath, secretKey with
  | some name, _, _ => rfl
  | none, some path, _ => rfl
  | none, none, some secret => rfl
  | none, none, none => rfl

/-- Whether there is a source in any of the three places. -/
theorem KeySection.isSome_head?_sources (s : KeySection) :
    s.sources.head?.isSome = (s.keyEnv.isSome || s.keyPath.isSome || s.secretKey.isSome) := by
  obtain ⟨keyEnv, keyPath, secretKey⟩ := s
  match keyEnv, keyPath, secretKey with
  | some name, _, _ => rfl
  | none, some path, _ => rfl
  | none, none, some secret => rfl
  | none, none, none => rfl

namespace KeySource

variable {w w' : World} {source : KeySource}

/-- Whether two worlds have the same at the place of a source. Other variables and what is at other
paths may differ. -/
def Agrees (w w' : World) : KeySource → Prop
  | .ofVariable name => w.environment name = w'.environment name
  | .ofFile path => w.file path = w'.file path
  | .inline _ => True

theorem secret_congr (same : source.Agrees w w') : source.secret w = source.secret w' := by
  cases source with
  | ofVariable name =>
    have read : w.variableText name = w'.variableText name := by
      simp only [World.variableText, show w.environment name = w'.environment name from same]
    simp only [secret, read]
  | ofFile path =>
    have read : w.fileText path = w'.fileText path := by
      simp only [World.fileText, show w.file path = w'.file path from same]
    simp only [secret, read]
  | inline secret => rfl

theorem key_congr (same : source.Agrees w w') : source.key w = source.key w' := by
  simp only [key, secret_congr same]

end KeySource

namespace SecretKey

variable {key key' : SecretKey} {secret secret' : String}

/-- Whether a key is what a secret starts with. -/
def IsFrontOf (key : SecretKey) (secret : String) : Prop :=
  key.bytes.toList = (Text.utf8 secret).take 16

/-- What is reported of a secret: its length, if that is greater than a key's. -/
def warnings (secret : String) : List Event :=
  if 16 < (Text.utf8 secret).length then
    [⟨.warn, "secret key longer than 16 bytes; truncating",
      [("configured_len", (Text.utf8 secret).length.repr)]⟩]
  else []

/-- Two keys are the same exactly if the secrets that they are the front of start alike. -/
theorem IsFrontOf.eq_iff (front : key.IsFrontOf secret) (front' : key'.IsFrontOf secret') :
    key = key' ↔ (Text.utf8 secret).take 16 = (Text.utf8 secret').take 16 := by
  obtain ⟨bytes⟩ := key
  obtain ⟨bytes'⟩ := key'
  have list : bytes.toList = (Text.utf8 secret).take 16 := front
  have list' : bytes'.toList = (Text.utf8 secret').take 16 := front'
  rw [SecretKey.mk.injEq, ← Vector.toList_inj, list, list']

/-- A secret that is long enough gives the key it starts with, and is reported if it is longer. -/
theorem ofText_of_le (long : 16 ≤ (Text.utf8 secret).length) :
    ∃ key : SecretKey, key.IsFrontOf secret ∧ ofText secret = ⟨.ok key, warnings secret⟩ := by
  have reported : (if (Text.utf8 secret).length = 16 then []
      else [truncation (Text.utf8 secret).length]) = warnings secret := by
    rw [warnings]
    split
    · next exact => rw [if_neg (by omega)]
    · next longer =>
      rw [if_pos (by omega)]
      rfl
  refine ⟨⟨((Text.utf8 secret).take 16).toArray, by simp [long]⟩, rfl, ?_⟩
  rw [ofText, dif_pos long, reported]

end SecretKey

/-- A source fails and reports nothing, or it gives the key that its secret starts with. -/
theorem KeySource.key_cases (source : KeySource) (w : World) :
    (∃ cause, source.key w = { value := .error cause }) ∨
      ∃ secret key, source.secret w = .ok secret ∧ key.IsFrontOf secret ∧
        source.key w = ⟨.ok key, SecretKey.warnings secret⟩ := by
  rw [key]
  cases source.secret w with
  | error reason => exact .inl ⟨_, rfl⟩
  | ok secret =>
    by_cases long : 16 ≤ (Text.utf8 secret).length
    · obtain ⟨key, front, made⟩ := SecretKey.ofText_of_le long
      exact .inr ⟨secret, key, rfl, front, made⟩
    · exact .inl ⟨_, dif_neg long⟩

theorem KeySource.key_eq_of_error {source : KeySource} {w : World} {cause : Error}
    (failed : (source.key w).value = .error cause) : source.key w = { value := .error cause } := by
  obtain ⟨other, only⟩ | ⟨secret, key, -, -, made⟩ := source.key_cases w
  · rw [only] at failed
    cases failed
    exact only
  · rw [made] at failed
    cases failed

namespace Config

variable {c c' : Config} {w w' : World} {codec : Codec} {source : KeySource} {cause : Error}

/-! ### What comes of building -/

/-- Whether a cost is in the range that is supported. -/
def InRange (c : Config) : Prop := 4 ≤ c.bcryptCost ∧ c.bcryptCost ≤ 31

instance (c : Config) : Decidable c.InRange := inferInstanceAs (Decidable (_ ∧ _))

/-- What comes of building a codec, by its cost and its first source. -/
inductive Builds (c : Config) (w : World) : Logged (Except ConfigError Codec) → Prop
  | outOfRange (outside : ¬c.InRange) :
      Builds c w { value := .error (.costOutOfRange c.bcryptCost) }
  | keyless (inRange : c.InRange) (sourceless : c.key.sources.head? = none) :
      Builds c w ⟨.ok ⟨none, c.bcryptCost⟩, [ready ⟨none, c.bcryptCost⟩]⟩
  | failed {source : KeySource} {cause : Error} (inRange : c.InRange)
      (first : c.key.sources.head? = some source)
      (failed : source.key w = { value := .error cause }) :
      Builds c w { value := .error (.key cause) }
  | keyed {source : KeySource} {secret : String} {key : SecretKey} (inRange : c.InRange)
      (first : c.key.sources.head? = some source) (read : source.secret w = .ok secret)
      (front : key.IsFrontOf secret) :
      Builds c w ⟨.ok ⟨some key, c.bcryptCost⟩,
        SecretKey.warnings secret ++ [ready ⟨some key, c.bcryptCost⟩]⟩

theorem isConfigurable_iff : Password.isConfigurable c.bcryptCost ↔ c.InRange := by
  rw [Password.isConfigurable_eq_isCost, Bcrypt.isCost_iff, InRange]

theorem build_of_not_inRange (outside : ¬c.InRange) :
    c.build w = { value := .error (.costOutOfRange c.bcryptCost) } :=
  if_neg (mt isConfigurable_iff.1 outside)

/-- Every outcome of building is one of those. -/
theorem builds_build (c : Config) (w : World) : c.Builds w (c.build w) := by
  by_cases inRange : c.InRange
  · rw [build, if_pos (isConfigurable_iff.2 inRange), loadKey, KeySection.source?_eq_head?]
    cases first : c.key.sources.head? with
    | none => exact .keyless inRange first
    | some source =>
      obtain ⟨cause, failed⟩ | ⟨secret, key, read, front, made⟩ := source.key_cases w
      · simp only [failed]
        exact .failed inRange first failed
      · simp only [made]
        exact .keyed inRange first read front
  · rw [build_of_not_inRange inRange]
    exact .outOfRange inRange

/-- Nothing but the cost and what is at the place of the first source has a say. -/
theorem build_congr (sameCost : c'.bcryptCost = c.bcryptCost)
    (sameFirst : c'.key.sources.head? = c.key.sources.head?)
    (agree : ∀ source, c.key.sources.head? = some source → source.Agrees w' w) :
    c'.build w' = c.build w := by
  have sameKey : c'.loadKey w' = c.loadKey w := by
    rw [loadKey, loadKey, KeySection.source?_eq_head?, KeySection.source?_eq_head?, sameFirst]
    cases first : c.key.sources.head? with
    | none => rfl
    | some source => simp only [KeySource.key_congr (agree source first)]
  simp only [build, sameCost, sameKey]

/-- The error of the first source is passed on, and nothing is reported. -/
theorem build_of_failed (inRange : c.InRange) (first : c.key.sources.head? = some source)
    (failed : (source.key w).value = .error cause) :
    c.build w = { value := .error (.key cause) } := by
  rw [build, if_pos (isConfigurable_iff.2 inRange), loadKey, KeySection.source?_eq_head?, first]
  simp only [KeySource.key_eq_of_error failed]
  rfl

/-- The secret at the first source, if there is one and it can be read. -/
def firstSecret? (c : Config) (w : World) : Option String :=
  c.key.sources.head?.bind fun source => (source.secret w).toOption

theorem firstSecret?_of_secret {secret : String} (first : c.key.sources.head? = some source)
    (read : source.secret w = .ok secret) : c.firstSecret? w = some secret := by
  rw [firstSecret?, first, Option.bind_some, read]
  rfl

/-- A codec that is built has the cost that is configured, and a key if there is a source. What is
reported is the length of its secret, if that is more than a key's, and that the codec is ready. -/
theorem events_of_build (built : (c.build w).value = .ok codec) :
    codec.bcryptCost = c.bcryptCost ∧ codec.hasKey = c.key.sources.head?.isSome ∧
      (c.build w).events = (c.firstSecret? w).toList.flatMap SecretKey.warnings ++ [ready codec] := by
  have outcome := c.builds_build w
  generalize c.build w = made at *
  cases outcome with
  | outOfRange outside => cases built
  | keyless inRange sourceless =>
    cases built
    rw [firstSecret?, sourceless]
    exact ⟨rfl, rfl, rfl⟩
  | failed inRange first failed => cases built
  | keyed inRange first read front =>
    cases built
    rw [firstSecret?_of_secret first read, first]
    exact ⟨rfl, rfl, by simp⟩

theorem events_ne_nil_iff : (c.build w).events ≠ [] ↔ ∃ codec, (c.build w).value = .ok codec := by
  constructor
  · intro reported
    have outcome := c.builds_build w
    generalize c.build w = made at *
    cases outcome with
    | outOfRange outside => exact (reported rfl).elim
    | keyless inRange sourceless => exact ⟨_, rfl⟩
    | failed inRange first failed => exact (reported rfl).elim
    | keyed inRange first read front => exact ⟨_, rfl⟩
  · rintro ⟨codec, built⟩
    rw [(events_of_build built).2.2]
    exact List.append_ne_nil_of_right_ne_nil _ (List.cons_ne_nil _ _)

/-- How a codec is built, and what is reported of it. -/
structure BuildsFromFirst (c : Config) : Prop where
  /-- A cost out of range is reported as such, whatever the sources are and whatever they hold. -/
  outOfRange (w : World) : ¬c.InRange →
    c.build w = { value := .error (.costOutOfRange c.bcryptCost) }
  /-- Otherwise the first source decides alone. A later source may be changed or taken away, and so
  may every other variable and what is at every other path. -/
  decided (c' : Config) (w w' : World) : c'.bcryptCost = c.bcryptCost →
    c'.key.sources.head? = c.key.sources.head? →
    (∀ source, c.key.sources.head? = some source → source.Agrees w' w) → c'.build w' = c.build w
  /-- In a directory, a file can be changed or taken away if the path of the first source does not
  name it, and any file can if the first source is not a path. -/
  directory (environment : String → Option Bytes) (d d' : Directory) :
    (∀ path, c.key.sources.head? = some (.ofFile path) →
      ∀ name : String, name.toList ∈ path.toList.splitOn '/' → d'.lookup name = d.lookup name) →
    c.build ⟨environment, d'.read⟩ = c.build ⟨environment, d.read⟩
  /-- A first source that fails is an error, and no later source takes its place. -/
  failing (w : World) (source : KeySource) (cause : Error) : c.InRange →
    c.key.sources.head? = some source → (source.key w).value = .error cause →
    c.build w = { value := .error (.key cause) }
  /-- Something is reported exactly where a codec is built. -/
  reported (w : World) : (c.build w).events ≠ [] ↔ ∃ codec, (c.build w).value = .ok codec
  /-- What is reported is that the secret is longer than a key, if it is, and that the codec is
  ready. -/
  events (w : World) (codec : Codec) : (c.build w).value = .ok codec →
    (c.build w).events = (c.firstSecret? w).toList.flatMap SecretKey.warnings ++
      [⟨.info, "encryptor ready",
        [("aes_enabled", truthText codec.hasKey), ("bcrypt_cost", codec.bcryptCost.toNat.repr)]⟩]
  /-- The codec has the cost that is configured, and a key exactly if there is a source. -/
  fitted (w : World) (codec : Codec) : (c.build w).value = .ok codec →
    codec.bcryptCost = c.bcryptCost ∧
      codec.hasKey = (c.key.keyEnv.isSome || c.key.keyPath.isSome || c.key.secretKey.isSome)

/-- Every configuration is built so. -/
theorem build_from_first (c : Config) : c.BuildsFromFirst where
  outOfRange w outside := build_of_not_inRange outside
  decided c' w w' sameCost sameFirst agree := build_congr sameCost sameFirst agree
  directory environment d d' same := by
    refine build_congr rfl rfl fun source first => ?_
    cases source with
    | ofVariable name => rfl
    | ofFile path => exact Directory.read_congr (same path first)
    | inline secret => trivial
  failing w source cause inRange first failed := build_of_failed inRange first failed
  reported w := events_ne_nil_iff
  events w codec built := (events_of_build built).2.2
  fitted w codec built := by
    obtain ⟨sameCost, hasKey, -⟩ := events_of_build built
    exact ⟨sameCost, hasKey.trans (KeySection.isSome_head?_sources c.key)⟩

/-- A file that stands where the path of the first source needs a directory is not at that path, and
yet it makes a difference whether it is there: the reason of the failure is another. -/
theorem build_sees_file_on_path :
    let c : Config := { key := { keyPath := some "a/b" } }
    let world (d : Directory) : World := ⟨fun _ => none, d.read⟩
    let cause (reason : FileError) : Error := .keySourceUnreadable (.ofFile "a/b" reason)
    c.InRange ∧ c.key.sources = [.ofFile "a/b"] ∧
      c.build (world [("a", [])]) = { value := .error (.key (cause .notADirectory)) } ∧
      c.build (world []) = { value := .error (.key (cause .notFound)) } ∧
      (cause .notADirectory).message ≠ (cause .notFound).message := by
  intro c world cause
  have inRange : c.InRange := by decide
  have blocked : ((KeySource.ofFile "a/b").key (world [("a", [])])).value =
      .error (cause .notADirectory) := by decide +kernel
  have absent : ((KeySource.ofFile "a/b").key (world [])).value = .error (cause .notFound) := by
    decide +kernel
  exact ⟨inRange, rfl, build_of_failed inRange rfl blocked, build_of_failed inRange rfl absent,
    by decide +kernel⟩

end Config

end SecretCodec

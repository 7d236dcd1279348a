import SecretCodec.Session
import SecretCodec.Proofs.Config.Building
import SecretCodec.Proofs.Text.Spelling
import SecretCodec.Proofs.World.Reading

/-!
# Where a secret is kept, and what of it counts

A secret may be the value of a variable, the content of a file with blanks around it, or part of the
configuration itself. From the same secret the same codec is built, with the same events, wherever
it is kept; and two secrets give the same codec, which does the same in every call, exactly if their
first sixteen bytes are the same, even where these end inside a character (`build_by_secret`).
-/

namespace SecretCodec

namespace KeySource

variable {w w' : World} {source source' : KeySource} {secret : String}

/-- Whether a secret is kept at a source. In a file there may be blanks around it. -/
inductive Keeps (w : World) (secret : String) : KeySource → Prop
  | ofVariable {name : String} (named : World.isVariableName name)
      (value : w.environment name = some (Text.utf8 secret)) : Keeps w secret (.ofVariable name)
  | ofFile {path before after : String} (named : '\x00' ∉ path.toList)
      (blanksBefore : Text.AreBlanks before) (blanksAfter : Text.AreBlanks after)
      (content : w.file path = .ok (Text.utf8 (before ++ secret ++ after))) :
      Keeps w secret (.ofFile path)
  | inline : Keeps w secret (.inline secret)

/-- A secret without blanks at its ends is read as it is, wherever it is kept. -/
theorem secret_of_keeps (bare : Text.IsBare secret) (keeps : source.Keeps w secret) :
    source.secret w = .ok secret := by
  cases keeps with
  | ofVariable named value =>
    rw [KeySource.secret, mapError_eq_ok_iff]
    exact World.variableText_eq_ok_iff.2 ⟨named, value⟩
  | @ofFile path before after named blanksBefore blanksAfter content =>
    rw [KeySource.secret, map_eq_ok_iff]
    refine ⟨before ++ secret ++ after, ?_, bare.trim_append blanksBefore blanksAfter⟩
    rw [mapError_eq_ok_iff]
    exact World.fileText_eq_ok_iff.2 ⟨named, content⟩
  | inline => rfl

/-- The key is made of the secret alone. -/
theorem key_of_secret (read : source.secret w = .ok secret) :
    source.key w = SecretKey.ofText secret := by
  rw [key, read]

end KeySource

namespace Config

variable {c c' : Config} {w w' : World} {source source' : KeySource} {secret secret' : String}

/-- From the same secret and cost comes the same codec, or the same error, with the same events. -/
theorem build_eq_of_secret (sameCost : c.bcryptCost = c'.bcryptCost)
    (first : c.key.sources.head? = some source) (first' : c'.key.sources.head? = some source')
    (read : source.secret w = .ok secret) (read' : source'.secret w' = .ok secret) :
    c.build w = c'.build w' := by
  have sameKey : c.loadKey w = c'.loadKey w' := by
    rw [loadKey, loadKey, KeySection.source?_eq_head?, KeySection.source?_eq_head?, first, first']
    simp only [KeySource.key_of_secret read, KeySource.key_of_secret read']
  simp only [build, sameCost, sameKey]

/-- A secret that is long enough gives a codec with the key that it starts with. -/
theorem build_of_secret (inRange : c.InRange) (first : c.key.sources.head? = some source)
    (read : source.secret w = .ok secret) (long : 16 ≤ (Text.utf8 secret).length) :
    ∃ key : SecretKey, key.IsFrontOf secret ∧
      (c.build w).value = .ok ⟨some key, c.bcryptCost⟩ := by
  obtain ⟨key, front, made⟩ := SecretKey.ofText_of_le long
  refine ⟨key, front, ?_⟩
  rw [build, if_pos (isConfigurable_iff.2 inRange), loadKey, KeySection.source?_eq_head?, first]
  simp only [KeySource.key_of_secret read, made]
  rfl

end Config

/-- It makes no difference where a secret is kept: from two configurations of the same cost whose
first sources keep the same secret comes the same codec, or the same error, with the same events.
And of a secret it is the first sixteen bytes that count: two codecs have the same key and the same
cost exactly if their secrets begin with the same, and then they do the same in every call. -/
theorem build_by_secret :
    (∀ (c c' : Config) (w w' : World) (source source' : KeySource) (secret : String),
      c.bcryptCost = c'.bcryptCost → c.key.sources.head? = some source →
      c'.key.sources.head? = some source' → Text.IsBare secret → source.Keeps w secret →
      source'.Keeps w' secret → c.build w = c'.build w') ∧
    (∀ (c c' : Config) (w w' : World) (source source' : KeySource) (secret secret' : String),
      c.InRange → c.bcryptCost = c'.bcryptCost → c.key.sources.head? = some source →
      c'.key.sources.head? = some source' → source.secret w = .ok secret →
      source'.secret w' = .ok secret' → 16 ≤ (Text.utf8 secret).length →
      16 ≤ (Text.utf8 secret').length →
      ∃ codec codec', (c.build w).value = .ok codec ∧ (c'.build w').value = .ok codec' ∧
        (codec = codec' ↔ (Text.utf8 secret).take 16 = (Text.utf8 secret').take 16) ∧
        ((Text.utf8 secret).take 16 = (Text.utf8 secret').take 16 →
          ∀ random call, codec.perform random call = codec'.perform random call)) := by
  constructor
  · intro c c' w w' source source' secret sameCost first first' bare keeps keeps'
    exact Config.build_eq_of_secret sameCost first first' (KeySource.secret_of_keeps bare keeps)
      (KeySource.secret_of_keeps bare keeps')
  · intro c c' w w' source source' secret secret' inRange sameCost first first' read read' long long'
    have inRange' : c'.InRange := by
      rw [Config.InRange, ← sameCost]
      exact inRange
    obtain ⟨key, front, built⟩ := Config.build_of_secret inRange first read long
    obtain ⟨key', front', built'⟩ := Config.build_of_secret inRange' first' read' long'
    have sameCodec : (⟨some key, c.bcryptCost⟩ : Codec) = ⟨some key', c'.bcryptCost⟩ ↔
        (Text.utf8 secret).take 16 = (Text.utf8 secret').take 16 := by
      rw [Codec.mk.injEq, Option.some.injEq, front.eq_iff front']
      exact and_iff_left sameCost
    refine ⟨_, _, built, built', sameCodec, fun begins random call => ?_⟩
    rw [sameCodec.2 begins]

/-- A secret in a variable and in a file, and two secrets that differ in the seventeenth byte only,
which is the second of a character. -/
theorem build_by_secret_in_variable_and_file :
    let c : Config := { key := { keyEnv := some "SECRET_KEY" }, bcryptCost := 4 }
    let c' : Config := { key := { keyPath := some "key" }, bcryptCost := 4 }
    let inVariable (value : String) : World :=
      ⟨fun name => if name = "SECRET_KEY" then some (Text.utf8 value) else none,
        fun _ => .error .notFound⟩
    let inFile (content : String) : World :=
      ⟨fun _ => none,
        fun path => if path = "key" then .ok (Text.utf8 content) else .error .notFound⟩
    c.build (inVariable "0123456789abcdeé") =
        c'.build (inFile ("\n " ++ "0123456789abcdeé" ++ "\t\u3000")) ∧
      ∃ codec codec', (c.build (inVariable "0123456789abcdeé")).value = .ok codec ∧
        (c'.build (inFile "0123456789abcdeê")).value = .ok codec' ∧
        ∀ random call, codec.perform random call = codec'.perform random call := by
  intro c c' inVariable inFile
  obtain ⟨wherever, begins⟩ := build_by_secret
  have bare : Text.IsBare "0123456789abcdeé" := by decide +kernel
  have value : (inVariable "0123456789abcdeé").environment "SECRET_KEY" =
      some (Text.utf8 "0123456789abcdeé") := by simp [inVariable]
  have content (text : String) : (inFile text).file "key" = .ok (Text.utf8 text) := by
    simp [inFile]
  have keeps : (KeySource.ofVariable "SECRET_KEY").Keeps (inVariable "0123456789abcdeé")
      "0123456789abcdeé" := .ofVariable (by decide +kernel) value
  have keeps' : (KeySource.ofFile "key").Keeps
      (inFile ("\n " ++ "0123456789abcdeé" ++ "\t\u3000")) "0123456789abcdeé" :=
    .ofFile (by decide +kernel) (by decide +kernel) (by decide +kernel) (content _)
  have other : (KeySource.ofFile "key").secret (inFile "0123456789abcdeê") =
      .ok "0123456789abcdeê" := by decide +kernel
  refine ⟨wherever c c' _ _ _ _ _ rfl rfl rfl bare keeps keeps', ?_⟩
  obtain ⟨codec, codec', built, built', -, same⟩ := begins c c' _ _ _ _ _ _ (by decide) rfl rfl rfl
    (KeySource.secret_of_keeps bare keeps) other (by decide +kernel) (by decide +kernel)
  exact ⟨codec, codec', built, built', same (by decide +kernel)⟩

end SecretCodec

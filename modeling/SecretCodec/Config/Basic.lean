import SecretCodec.Codec
import SecretCodec.KeySource

/-!
# Configurations

A configuration says where the key is, how expensive the hashing of passwords is, and which
algorithm is taken where none is given. From it and the world around, a codec is built.

Of several key sources only the first counts: a variable goes before a file, and a file before a
secret in the configuration itself. A source that fails is an error, and no other is tried.
-/

namespace SecretCodec

/-- The places that may hold the key. -/
structure KeySection where
  keyEnv : Option String := none
  keyPath : Option String := none
  secretKey : Option String := none
  deriving DecidableEq, Repr

/-- A configuration. -/
structure Config where
  key : KeySection := {}
  bcryptCost : UInt32 := Password.defaultCost
  defaultAlgorithm : Option Algorithm := none
  deriving DecidableEq, Repr

/-- Why a configuration cannot be loaded or no codec be built from it. -/
inductive ConfigError where
  | unreadable (cause : FileError)
  | notJson
  | notConfig
  | key (cause : Error)
  | costOutOfRange (cost : UInt32)
  deriving DecidableEq, Repr

/-- The wording of an error. Where a text is not the document of a configuration, the reason would
stand after the colon, in the words of the library that reads documents. These are not modelled, and
the wording ends before them. -/
def ConfigError.message : ConfigError → String
  | .unreadable cause => "config file unreadable: " ++ cause.message
  | .notJson | .notConfig => "config parse failed: "
  | .key cause => "secret key error: " ++ cause.message
  | .costOutOfRange cost =>
    "bcrypt cost " ++ cost.toNat.repr ++ " outside the supported range 4..=31"

/-- The source that counts. -/
def KeySection.source? (s : KeySection) : Option KeySource :=
  s.keyEnv.map .ofVariable <|> s.keyPath.map .ofFile <|> s.secretKey.map .inline

namespace Config

/-- The event that a codec is ready. -/
def ready (codec : Codec) : Event :=
  ⟨.info, "encryptor ready",
    [("aes_enabled", truthText codec.hasKey), ("bcrypt_cost", codec.bcryptCost.toNat.repr)]⟩

/-- The key from the source that counts, if there is one. -/
def loadKey (c : Config) (w : World) : Logged (Except Error (Option SecretKey)) :=
  match c.key.source? with
  | none => { value := .ok none }
  | some source =>
    let loaded := source.key w
    ⟨loaded.value.map some, loaded.events⟩

/-- The codec that a configuration describes. The cost is looked at before the key. -/
def build (c : Config) (w : World) : Logged (Except ConfigError Codec) :=
  if Password.isConfigurable c.bcryptCost then
    let loaded := c.loadKey w
    match loaded.value with
    | .error cause => ⟨.error (.key cause), loaded.events⟩
    | .ok key =>
      let codec : Codec := ⟨key, c.bcryptCost⟩
      ⟨.ok codec, loaded.events ++ [ready codec]⟩
  else
    { value := .error (.costOutOfRange c.bcryptCost) }

end Config

end SecretCodec

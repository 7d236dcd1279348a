import SecretCodec.Algorithm.Json
import SecretCodec.Config.Basic
import SecretCodec.Text.Decimal

/-!
# Configurations in JSON

A configuration is a record of three fields, and its key section another. A field that is missing
has its default. Where a value has to be a number or a section, null is none; where it may be
absent, null says that it is.
-/

namespace SecretCodec

/-- A number that is written as a plain unsigned integer and fits into 32 bits. -/
def Json.Value.word? : Json.Value → Option UInt32
  | .number spelling => (Decimal.read? spelling).bind Decimal.toWord?
  | _ => none

/-- The value of a field that may be absent or null. -/
def optionalText? : Option Json.Value → Option (Option String)
  | none => some none
  | some value => value.textOrNull?

/-- The key section that a value describes. -/
def KeySection.ofJson? (value : Json.Value) : Option KeySection := do
  match ← value.record? ["keyEnv", "keyPath", "secretKey"] with
  | [keyEnv, keyPath, secretKey] =>
    let keyEnv ← optionalText? keyEnv
    let keyPath ← optionalText? keyPath
    let secretKey ← optionalText? secretKey
    return { keyEnv, keyPath, secretKey }
  | _ => none

namespace Config

/-- The key section in a field, or the default one. -/
def keyField? : Option Json.Value → Option KeySection
  | none => some {}
  | some value => KeySection.ofJson? value

/-- The cost in a field, or the default one. -/
def costField? : Option Json.Value → Option UInt32
  | none => some Password.defaultCost
  | some value => value.word?

/-- The algorithm in a field, which may be absent. -/
def algorithmField? : Option Json.Value → Option (Option Algorithm)
  | none | some .null => some none
  | some value => (Algorithm.ofJson? value).map some

/-- The configuration that a value describes. -/
def ofJson? (value : Json.Value) : Option Config := do
  match ← value.record? ["key", "bcryptCost", "defaultAlgorithm"] with
  | [key, cost, algorithm] =>
    let key ← keyField? key
    let bcryptCost ← costField? cost
    let defaultAlgorithm ← algorithmField? algorithm
    return { key, bcryptCost, defaultAlgorithm }
  | _ => none

/-- The configuration that a text describes. -/
def parse (text : String) : Except ConfigError Config :=
  match Json.Value.parse text with
  | none => .error .notJson
  | some value =>
    match ofJson? value with
    | none => .error .notConfig
    | some config => .ok config

/-- The configuration in a file. -/
def load (w : World) (path : String) : Except ConfigError Config :=
  match w.fileText path with
  | .error cause => .error (.unreadable cause)
  | .ok text => parse text

end Config

end SecretCodec

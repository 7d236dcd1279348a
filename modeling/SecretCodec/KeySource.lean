import SecretCodec.SecretKey
import SecretCodec.World.Basic

/-!
# Where keys come from

A secret is held by an environment variable, by a file or by the configuration itself. Blanks around
the content of a file do not belong to the secret; elsewhere they do.
-/

namespace SecretCodec

/-- A place that holds a secret. -/
inductive KeySource where
  | ofVariable (name : String)
  | ofFile (path : String)
  | inline (secret : String)
  deriving DecidableEq, Repr

namespace KeySource

/-- The secret that a source holds. -/
def secret (w : World) : KeySource → Except KeySourceError String
  | .ofVariable name => (w.variableText name).mapError (.ofVariable name)
  | .ofFile path => (w.fileText path).mapError (.ofFile path) |>.map Text.trim
  | .inline secret => .ok secret

/-- The key made of the secret that a source holds. -/
def key (w : World) (source : KeySource) : Logged (Except Error SecretKey) :=
  match source.secret w with
  | .error cause => { value := .error (.keySourceUnreadable cause) }
  | .ok secret => SecretKey.ofText secret

end KeySource

end SecretCodec

import SecretCodec.Algorithm.Basic
import SecretCodec.Bcrypt.Error
import SecretCodec.Hex
import SecretCodec.World.Basic

/-!
# Errors

An error is a cause; `Error.message` is the one place where causes are put into words.
-/

namespace SecretCodec

/-- What is wrong with a stored value. -/
inductive Defect where
  | hex (cause : Hex.Error)
  | length (expected found : Nat)
  | bcrypt (cause : Bcrypt.Error)
  deriving DecidableEq, Repr

/-- The wording of a defect. -/
def Defect.message : Defect → String
  | .hex cause => cause.message
  | .length expected found => "expected " ++ expected.repr ++ " bytes, found " ++ found.repr
  | .bcrypt cause => cause.message

/-- Why the source of a key cannot be read. -/
inductive KeySourceError where
  | ofVariable (name : String) (cause : VariableError)
  | ofFile (path : String) (cause : FileError)
  deriving DecidableEq, Repr

/-- The wording of a key source's error: the name of the source, and the cause. -/
def KeySourceError.message : KeySourceError → String
  | .ofVariable name cause => name ++ ": " ++ cause.message
  | .ofFile path cause => path ++ ": " ++ cause.message

/-- Why an operation fails. -/
inductive Error where
  | unknownAlgorithm (name : String)
  | missingAlgorithm
  | notReversible (algorithm : Algorithm)
  | keyNotConfigured
  | keyTooShort
  | keySourceUnreadable (cause : KeySourceError)
  | malformedStoredValue (defect : Defect)
  | decryptionFailed
  | hashingFailed (cause : Bcrypt.Error)
  deriving DecidableEq, Repr

/-- The wording of an error. -/
def Error.message : Error → String
  | .unknownAlgorithm name => "unknown cipher algorithm: " ++ name
  | .missingAlgorithm => "cipher algorithm is required to encode a value"
  | .notReversible algorithm =>
    algorithm.name ++ " is a one-way algorithm and cannot be decoded"
  | .keyNotConfigured => "no secret key configured for reversible encryption"
  | .keyTooShort => "invalid key length; expected at least 16 bytes"
  | .keySourceUnreadable cause => "key source unreadable: " ++ cause.message
  | .malformedStoredValue defect => "malformed stored value: " ++ defect.message
  | .decryptionFailed => "decryption failed"
  | .hashingFailed cause => "password hashing failed: " ++ cause.message

end SecretCodec

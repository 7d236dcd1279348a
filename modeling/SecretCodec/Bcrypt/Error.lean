import SecretCodec.Base64

/-!
# Errors of password hashing

A cost can be out of range, both when a password is hashed and in a stored value; all other errors
say that a stored value is not in the written form.
-/

namespace SecretCodec.Bcrypt

/-- Why a password cannot be hashed or a stored value not be read. -/
inductive Error where
  | costOutOfRange (cost : UInt32)
  | invalidHash (stored : String)
  | invalidVersion (version : String)
  | invalidCost (cost : String)
  | base64 (cause : Base64.Error)
  deriving DecidableEq, Repr

/-- The wording of an error. -/
def Error.message : Error → String
  | .costOutOfRange cost => "Cost needs to be between 4 and 31, got " ++ cost.toNat.repr
  | .invalidHash stored => "Invalid hash: " ++ stored
  | .invalidVersion version => "Invalid Prefix: " ++ version
  | .invalidCost cost => "Invalid Cost: " ++ cost
  | .base64 cause => "Base64 error: " ++ cause.message

end SecretCodec.Bcrypt

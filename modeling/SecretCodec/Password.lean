import SecretCodec.Bcrypt.Stored
import SecretCodec.Error

/-!
# Passwords

Passwords are stored under a hash whose cost is chosen when they are stored. A stored value carries
its cost and its salt, so checking a password takes nothing else. The costs that may be configured
are set here, apart from those the hash itself admits.
-/

namespace SecretCodec.Password

/-- The cost where none is configured. -/
def defaultCost : UInt32 := 10

/-- The lowest cost that may be configured. -/
def minCost : UInt32 := 4

/-- The highest cost that may be configured. -/
def maxCost : UInt32 := 31

/-- Whether a cost may be configured. -/
def isConfigurable (cost : UInt32) : Bool := minCost ≤ cost && cost ≤ maxCost

/-- What may be configured is what passwords can be hashed at. -/
theorem isConfigurable_eq_isCost (cost : UInt32) : isConfigurable cost = Bcrypt.isCost cost := rfl

/-- The stored form of a password under a fresh salt. -/
def hash (cost : UInt32) (random : Entropy) (password : String) : Except Error String :=
  (Bcrypt.encodeFresh cost random password).mapError .hashingFailed

/-- Whether a stored value is of this password. -/
def verify (password stored : String) : Except Error Bool :=
  (Bcrypt.verify password stored).mapError fun cause => .malformedStoredValue (.bcrypt cause)

end SecretCodec.Password

import SecretCodec.Bcrypt.Error
import SecretCodec.Bcrypt.Hash
import SecretCodec.Entropy
import SecretCodec.Text.Decimal

/-!
# Stored password hashes

A stored value holds all that is needed to check a password: a version, the cost, a salt of sixteen
bytes in 22 symbols and a hash of 23 bytes in 31 symbols. Values are written in one way and read a
little more freely: any of four versions is accepted, the cost may have a plus sign and leading
zeros, and empty pieces between dollar signs are ignored. The symbols admit no such freedom.
-/

namespace SecretCodec.Bcrypt

/-- The lowest cost. -/
def minCost : UInt32 := 4

/-- The highest cost. -/
def maxCost : UInt32 := 31

/-- Whether passwords can be hashed at a cost. -/
def isCost (cost : UInt32) : Bool := minCost ≤ cost && cost ≤ maxCost

/-- The stored form of a password under a given salt. -/
def encode (cost : UInt32) (salt : Bytes) (password : String) : String :=
  "$2a$" ++ Decimal.twoDigits cost.toNat ++ "$" ++ Base64.Alphabet.password.text salt ++
    Base64.Alphabet.password.text (hash cost.toNat salt password)

/-- The stored form of a password under a fresh salt. -/
def encodeFresh (cost : UInt32) (random : Entropy) (password : String) : Except Error String :=
  if isCost cost then .ok (encode cost (random.draw 16) password)
  else .error (.costOutOfRange cost)

/-- The parts of a stored value, the salt and the hash still in symbols. -/
structure Stored where
  cost : UInt32
  salt : Bytes
  hash : Bytes
  deriving DecidableEq, Repr

/-- The versions that are accepted. -/
def versions : List String := ["2a", "2b", "2x", "2y"]

/-- The number of symbols of a salt. -/
def saltSymbols : Nat := 22

/-- The number of symbols of a hash. -/
def hashSymbols : Nat := 31

/-- Whether a byte is the first of a character's encoding. -/
def startsCharacter (b : UInt8) : Bool := b &&& 0xC0 ≠ 0x80

/-- The non-empty pieces between dollar signs. -/
def pieces (stored : String) : List String :=
  (stored.toList.splitOn '$').filter (· ≠ []) |>.map String.ofList

/-- The parts of a stored value. The salt has to end where a character ends. -/
def parse (stored : String) : Except Error Stored :=
  match pieces stored with
  | [version, cost, symbols] =>
    if version ∉ versions then .error (.invalidVersion version)
    else
      match Decimal.readWord? cost.toList with
      | none => .error (.invalidCost cost)
      | some n =>
        let bytes := Text.utf8 symbols
        if bytes.length = saltSymbols + hashSymbols ∧ bytes[saltSymbols]?.any startsCharacter then
          .ok ⟨n, bytes.take saltSymbols, bytes.drop saltSymbols⟩
        else .error (.invalidHash stored)
  | _ => .error (.invalidHash stored)

/-- The bytes that symbols stand for. -/
def decodeSymbols (symbols : Bytes) : Except Error Bytes :=
  (Base64.Alphabet.password.decode symbols).mapError .base64

/-- Whether a stored value is of this password. Of several defects the salt's is reported first,
then the cost's, then the hash's. -/
def verify (password stored : String) : Except Error Bool := do
  let parts ← parse stored
  let salt ← decodeSymbols parts.salt
  if isCost parts.cost then
    let expected ← decodeSymbols parts.hash
    return hash parts.cost.toNat salt password = expected
  else
    .error (.costOutOfRange parts.cost)

end SecretCodec.Bcrypt

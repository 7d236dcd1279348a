import SecretCodec.Algorithm.Lookup
import SecretCodec.Digest.Stored
import SecretCodec.Password
import SecretCodec.SecretKey

/-!
# The codec

One value encodes, decodes and verifies under every algorithm. It holds a key, if there is one, and
the cost of hashing passwords; all else that an operation needs is in its arguments.

Absent input is no error: it gives an absent result, or no match. Encoding and decoding return their
errors. Verification never fails: whatever is wrong with a stored value, the key or the name of an
algorithm is reported as an event, and the answer is that the plaintext does not match.
-/

namespace SecretCodec

/-- A key, if there is one, and the cost of hashing passwords. -/
structure Codec where
  key : Option SecretKey := none
  bcryptCost : UInt32 := Password.defaultCost

namespace Codec

/-- Whether there is a key. -/
def hasKey (c : Codec) : Bool := c.key.isSome

/-- What may be shown of a codec, which is nothing of the key's bytes. -/
def redacted (c : Codec) : String :=
  let key := match c.key with
    | some key => "Some(" ++ key.redacted ++ ")"
    | none => "None"
  "Encryptor \x7b key: " ++ key ++ ", bcrypt_cost: " ++ c.bcryptCost.toNat.repr ++ " \x7d"

/-- The key, which the reversible algorithm cannot do without. -/
def requireKey (c : Codec) : Except Error SecretKey :=
  match c.key with
  | some key => .ok key
  | none => .error .keyNotConfigured

/-- The stored form of a plaintext under an algorithm. -/
def encodeText (c : Codec) (random : Entropy) (plaintext : String) (algorithm : Algorithm) :
    Except Error String :=
  let entry := algorithm.entry
  match entry.shape with
  | .plainDigest kind => .ok (kind.encodePlain plaintext)
  | .saltedDigest kind => .ok (kind.encodeSalted entry.saltLength random plaintext)
  | .adaptive => Password.hash c.bcryptCost random plaintext
  | .reversible => do return (← c.requireKey).encrypt plaintext

/-- The plaintext of a stored value. -/
def decodeText (c : Codec) (stored : String) (algorithm : Algorithm) : Except Error String :=
  match algorithm.entry.shape with
  | .reversible => do (← c.requireKey).decrypt stored
  | .plainDigest _ | .saltedDigest _ | .adaptive => .error (.notReversible algorithm)

/-- Whether a stored value is of a plaintext, or what keeps the question from being answered. -/
def checkText (c : Codec) (plaintext : String) (algorithm : Algorithm) (stored : String) :
    Except Error Bool :=
  let entry := algorithm.entry
  match entry.shape with
  | .plainDigest kind | .saltedDigest kind => kind.check entry.saltLength plaintext stored
  | .adaptive => Password.verify plaintext stored
  | .reversible => do (← c.requireKey).verify plaintext stored

/-- Encodes a plaintext. Without one the result is absent, whatever the algorithm. -/
def encode (c : Codec) (random : Entropy) (plaintext : Option String)
    (algorithm : Option Algorithm) : Except Error (Option String) :=
  match plaintext, algorithm with
  | none, _ => .ok none
  | some _, none => .error .missingAlgorithm
  | some plaintext, some algorithm => some <$> c.encodeText random plaintext algorithm

/-- Decodes a stored value. Without one, or without an algorithm, the result is absent. -/
def decode (c : Codec) (stored : Option String) (algorithm : Option Algorithm) :
    Except Error (Option String) :=
  match stored, algorithm with
  | some stored, some algorithm => some <$> c.decodeText stored algorithm
  | _, _ => .ok none

/-- The answer of a failed verification, with the event that reports its cause. -/
def mismatch (details : List (String × String)) (cause : Error) : Logged Bool where
  value := false
  events := [⟨.debug, "verification failed", details ++ [("error", cause.message)]⟩]

/-- Whether a stored value is of a plaintext. Without one of them, or without an algorithm, it is
not. -/
def verify (c : Codec) (plaintext : Option String) (algorithm : Option Algorithm)
    (stored : Option String) : Logged Bool :=
  match plaintext, algorithm, stored with
  | some plaintext, some algorithm, some stored =>
    match c.checkText plaintext algorithm stored with
    | .ok answer => { value := answer }
    | .error cause => mismatch [("algorithm", algorithm.name)] cause
  | _, _, _ => { value := false }

/-- Encodes under an algorithm given by name. A name that is unknown is an error also where there is
nothing to encode. -/
def encodeNamed (c : Codec) (random : Entropy) (plaintext : Option String) (name : String) :
    Except Error (Option String) :=
  match Algorithm.parse name with
  | .ok algorithm => c.encode random plaintext (some algorithm)
  | .error cause => .error cause

/-- Decodes under an algorithm given by name. A name that is unknown is an error also where there is
nothing to decode. -/
def decodeNamed (c : Codec) (stored : Option String) (name : String) :
    Except Error (Option String) :=
  match Algorithm.parse name with
  | .ok algorithm => c.decode stored (some algorithm)
  | .error cause => .error cause

/-- Verifies under an algorithm given by name. Under a name that is unknown nothing matches. -/
def verifyNamed (c : Codec) (plaintext : Option String) (name : String)
    (stored : Option String) : Logged Bool :=
  match Algorithm.parse name with
  | .ok algorithm => c.verify plaintext (some algorithm) stored
  | .error cause => mismatch [] cause

end Codec

end SecretCodec

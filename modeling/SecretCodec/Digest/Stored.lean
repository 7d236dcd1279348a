import SecretCodec.Entropy
import SecretCodec.Error
import SecretCodec.Text.Blank

/-!
# Stored digests

A digest is stored as an upper-case hexadecimal numeral. A salted digest is taken of the plaintext
followed by the salt, and the salt is stored after it, so the length of the digest says where the
salt begins. A digest without salt is the case of an empty one.

A caller may ask for a salt of any length that is a machine word (`verify`). The length of the
digest is added to it as a machine word, so the sum can overflow, and the program may stop. The
algorithms of the catalog have salts of a few bytes, and for these a codec uses `check`, which adds
numbers.
-/

namespace SecretCodec

/-- What a program does where a sum of machine words, which are of 64 bits, is too large for one. It
depends on how the program was built. -/
inductive Overflow where
  /-- It stops. -/
  | stop
  /-- It goes on without the carry. -/
  | wrap
  deriving DecidableEq, Repr

/-- The sum of two machine words, unless the program stops. -/
def Overflow.add (o : Overflow) (a b : UInt64) : Option UInt64 :=
  match o with
  | .stop => if a.toNat + b.toNat < UInt64.size then some (a + b) else none
  | .wrap => some (a + b)

namespace DigestKind

/-- The stored form of a plaintext under a given salt. -/
def encodeWithSalt (kind : DigestKind) (plaintext : String) (salt : Bytes) : String :=
  Hex.text (kind.digest [Text.utf8 plaintext, salt] ++ salt)

/-- The stored form of a plaintext without salt. -/
def encodePlain (kind : DigestKind) (plaintext : String) : String :=
  Hex.text (kind.digest [Text.utf8 plaintext])

/-- The stored form of a plaintext under a fresh salt. -/
def encodeSalted (kind : DigestKind) (saltLength : Nat) (random : Entropy) (plaintext : String) :
    String :=
  kind.encodeWithSalt plaintext (random.draw saltLength)

/-- Whether bytes are the digest of this plaintext with the salt after it. They have to be as many
as are expected. -/
def checkBytes (kind : DigestKind) (expected : Nat) (plaintext : String) (bytes : Bytes) :
    Except Error Bool :=
  if bytes.length ≠ expected then
    .error (.malformedStoredValue (.length expected bytes.length))
  else
    let digest := bytes.take kind.outputLength
    let salt := bytes.drop kind.outputLength
    .ok (kind.digest [Text.utf8 plaintext, salt] = digest)

/-- Whether a stored digest with a salt of the given length is of this plaintext. Blanks around the
stored value and the case of its digits do not matter. -/
def check (kind : DigestKind) (saltLength : Nat) (plaintext stored : String) :
    Except Error Bool :=
  match Hex.decode (Text.utf8 (Text.trim stored)) with
  | .error cause => .error (.malformedStoredValue (.hex cause))
  | .ok bytes => kind.checkBytes (kind.outputLength + saltLength) plaintext bytes

/-- Whether a stored digest with a salt of the given length is of this plaintext, unless the program
stops. -/
def verify (kind : DigestKind) (o : Overflow) (saltLength : UInt64) (plaintext stored : String) :
    Option (Except Error Bool) :=
  match Hex.decode (Text.utf8 (Text.trim stored)) with
  | .error cause => some (.error (.malformedStoredValue (.hex cause)))
  | .ok bytes => do
    let expected ← o.add (UInt64.ofNat kind.outputLength) saltLength
    -- Without its carry the sum can be less than a digest, which is then not there to be split off.
    if bytes.length = expected.toNat ∧ bytes.length < kind.outputLength then none
    else some (kind.checkBytes expected.toNat plaintext bytes)

end DigestKind

end SecretCodec

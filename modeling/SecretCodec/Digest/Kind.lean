import SecretCodec.Digest.Md5
import SecretCodec.Digest.Sha1
import SecretCodec.Digest.Sha2

/-!
# The digests in use

Four hash functions behind one name each. A message may be given in parts; `digest_eq` says that
only its concatenation matters, and `length_digest` how long the digest is.
-/

namespace SecretCodec

/-- A hash function that stored digests are made with. -/
inductive DigestKind where
  | md5
  | sha1
  | sha256
  | sha512
  deriving DecidableEq, Repr

namespace DigestKind

/-- The function behind the name. -/
def function : DigestKind → Digest.IteratedHash
  | .md5 => Digest.md5
  | .sha1 => Digest.sha1
  | .sha256 => Digest.sha256
  | .sha512 => Digest.sha512

/-- The length of a digest in bytes. -/
def outputLength : DigestKind → Nat
  | .md5 => 16
  | .sha1 => 20
  | .sha256 => 32
  | .sha512 => 64

theorem outputLength_function (kind : DigestKind) :
    kind.function.outputLength = kind.outputLength := by
  cases kind <;> rfl

/-- The digest of a message that arrives in parts. -/
def digest (kind : DigestKind) (parts : List Bytes) : Bytes :=
  (parts.foldl Digest.Hasher.update (Digest.Hasher.start (h := kind.function))).finish.toList

/-- The parts do not matter, only their concatenation. -/
theorem digest_eq (kind : DigestKind) (parts : List Bytes) :
    kind.digest parts = (kind.function.hash parts.flatten).toList := by
  rw [digest, Digest.Hasher.finish_updates]

@[simp] theorem length_digest (kind : DigestKind) (parts : List Bytes) :
    (kind.digest parts).length = kind.outputLength := by
  rw [digest, Vector.length_toList, outputLength_function]

end DigestKind

end SecretCodec

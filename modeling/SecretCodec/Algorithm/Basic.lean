import SecretCodec.Digest.Kind

/-!
# The catalog of algorithms

Each algorithm has one entry that says how it is called and what is done under its name. Two names
are aliases: `SHA` for `SHA1` and `SSHA1` for `SSHA`. The entry's shape decides which codec handles
a value, so nothing else distinguishes an algorithm from its alias.
-/

namespace SecretCodec

/-- An algorithm that a value can be stored under. -/
inductive Algorithm where
  | sha
  | sha1
  | sha256
  | sha512
  | aes
  | bcrypt
  | saltedMd5
  | saltedSha1
  | saltedSha1Alias
  | saltedSha256
  | saltedSha512
  deriving DecidableEq, Repr

/-- Which codec handles an algorithm: a digest without or with salt, a password hash of adjustable
cost, or a cipher. -/
inductive Shape where
  | plainDigest (kind : DigestKind)
  | saltedDigest (kind : DigestKind)
  | adaptive
  | reversible
  deriving DecidableEq, Repr

/-- An entry of the catalog. Names are in upper case; `standardName` is the older name, with `S-` in
front where there is a salt. -/
structure Entry where
  algorithm : Algorithm
  name : String
  standardName : String
  shape : Shape
  saltLength : Nat
  deriving DecidableEq, Repr

namespace Entry

/-- The entry of a digest without salt. -/
def plain (algorithm : Algorithm) (name standardName : String) (kind : DigestKind) : Entry :=
  ⟨algorithm, name, standardName, .plainDigest kind, 0⟩

/-- The entry of a digest with a salt of eight bytes. -/
def salted (algorithm : Algorithm) (name standardName : String) (kind : DigestKind) : Entry :=
  ⟨algorithm, name, standardName, .saltedDigest kind, 8⟩

/-- Whether a stored value can be decoded. -/
def isReversible (e : Entry) : Bool := e.shape = .reversible

/-- Whether a digest is made with a salt. -/
def isSalted (e : Entry) : Bool :=
  match e.shape with
  | .saltedDigest _ => true
  | _ => false

/-- Whether the cost of hashing is adjustable. -/
def isAdaptive (e : Entry) : Bool := e.shape = .adaptive

/-- The hash function of a digest. -/
def digestKind? (e : Entry) : Option DigestKind :=
  match e.shape with
  | .plainDigest kind | .saltedDigest kind => some kind
  | .adaptive | .reversible => none

/-- The length in bytes of the digest alone. -/
def digestLength? (e : Entry) : Option Nat := e.digestKind?.map DigestKind.outputLength

/-- The length in bytes of a stored digest with its salt. -/
def encodedLength? (e : Entry) : Option Nat := e.digestLength?.map (· + e.saltLength)

end Entry

namespace Algorithm

/-- The algorithms in the order of the catalog. -/
def all : List Algorithm :=
  [.sha, .sha1, .sha256, .sha512, .aes, .bcrypt, .saltedMd5, .saltedSha1, .saltedSha1Alias,
    .saltedSha256, .saltedSha512]

theorem mem_all (a : Algorithm) : a ∈ all := by cases a <;> decide

/-- The catalog's entry of an algorithm. -/
def entry : Algorithm → Entry
  | .sha => .plain .sha "SHA" "SHA-1" .sha1
  | .sha1 => .plain .sha1 "SHA1" "SHA-1" .sha1
  | .sha256 => .plain .sha256 "SHA256" "SHA-256" .sha256
  | .sha512 => .plain .sha512 "SHA512" "SHA-512" .sha512
  | .aes => ⟨.aes, "AES", "AES", .reversible, 0⟩
  | .bcrypt => ⟨.bcrypt, "BCRYPT", "BCRYPT", .adaptive, 0⟩
  | .saltedMd5 => .salted .saltedMd5 "SMD5" "S-MD5" .md5
  | .saltedSha1 => .salted .saltedSha1 "SSHA" "S-SHA" .sha1
  | .saltedSha1Alias => .salted .saltedSha1Alias "SSHA1" "S-SHA-1" .sha1
  | .saltedSha256 => .salted .saltedSha256 "SSHA256" "S-SHA-256" .sha256
  | .saltedSha512 => .salted .saltedSha512 "SSHA512" "S-SHA-512" .sha512

@[simp] theorem algorithm_entry (a : Algorithm) : a.entry.algorithm = a := by cases a <;> rfl

/-- The canonical name of an algorithm. -/
def name (a : Algorithm) : String := a.entry.name

/-- No two algorithms have the same name. -/
theorem name_injective {a b : Algorithm} (h : a.name = b.name) : a = b := by
  revert h
  cases a <;> cases b <;> decide

/-- The algorithm with exactly the given name. -/
def ofName? (name : String) : Option Algorithm := all.find? (·.name = name)

@[simp] theorem ofName?_name (a : Algorithm) : ofName? a.name = some a := by
  cases a <;> rfl

theorem ofName?_eq_some_iff {n : String} {a : Algorithm} : ofName? n = some a ↔ a.name = n := by
  constructor
  · intro h
    simpa using List.find?_some h
  · rintro rfl
    exact ofName?_name a

end Algorithm

/-- All entries in order. -/
def catalog : List Entry := Algorithm.all.map Algorithm.entry

end SecretCodec

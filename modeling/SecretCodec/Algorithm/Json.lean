import SecretCodec.Algorithm.Basic
import SecretCodec.Json.Value.Parser

/-!
# Algorithms in JSON

A document names an algorithm: as a string, or as the only member of an object, with the value null.
Documents have a table of names of their own, in which case and blanks count. It has the canonical
names and no others (`ofDocumentName?_eq_some_iff`).
-/

namespace SecretCodec.Algorithm

/-- The algorithm that documents call by a name. -/
def ofDocumentName? : String → Option Algorithm
  | "SHA" => some .sha
  | "SHA1" => some .sha1
  | "SHA256" => some .sha256
  | "SHA512" => some .sha512
  | "AES" => some .aes
  | "BCRYPT" => some .bcrypt
  | "SMD5" => some .saltedMd5
  | "SSHA" => some .saltedSha1
  | "SSHA1" => some .saltedSha1Alias
  | "SSHA256" => some .saltedSha256
  | "SSHA512" => some .saltedSha512
  | _ => none

/-- Documents use the canonical names. -/
theorem ofDocumentName?_eq_some_iff {name : String} {a : Algorithm} :
    ofDocumentName? name = some a ↔ a.name = name := by
  constructor
  · intro h
    rw [ofDocumentName?.eq_def] at h
    split at h <;> cases h <;> rfl
  · rintro rfl
    cases a <;> rfl

/-- The algorithm that a JSON value names. -/
def ofJson? : Json.Value → Option Algorithm
  | .string units => (Json.Value.textOf? units).bind ofDocumentName?
  | .object [(name, .null)] => (Json.Value.textOf? name).bind ofDocumentName?
  | _ => none

/-- The algorithm that a JSON text names. -/
def parseJson (text : String) : Option Algorithm := (Json.Value.parse text).bind ofJson?

end SecretCodec.Algorithm

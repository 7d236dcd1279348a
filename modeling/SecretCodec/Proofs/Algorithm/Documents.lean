import SecretCodec.Proofs.Algorithm.Names
import SecretCodec.Proofs.Config.Rendering

/-!
# Documents that name an algorithm

A document names an algorithm by its tokens: a string that denotes the canonical name, or an object
with that name alone and null. Escapes and white space do not count, letter case does. Exactly these
documents are read as the algorithm (`parseJson_eq_some_iff`), so a string that a document may hold
is one that people may write (`json_reading_exact`).
-/

namespace SecretCodec

open Json (IsDocument Spells Value)

/-- Different texts are different strings. -/
theorem Json.Value.ofText_injective {s t : String} (h : ofText s = ofText t) : s = t := by
  have read := text?_eq_some_iff.2 h
  rw [text?_eq_some_iff.2 rfl] at read
  exact Option.some.inj read

namespace Algorithm

variable {a : Algorithm} {text : String}

/-- A string that denotes the canonical name of an algorithm, however its characters are escaped. -/
def nameToken (a : Algorithm) : Json.Token := .string (Text.Utf16.encode a.name.toList)

/-- Whether a text is a document that names an algorithm: a string alone, or an object of one member
whose value is null, with white space at most around the tokens. -/
def IsWrittenIn (a : Algorithm) (text : String) : Prop :=
  Spells text.toList [a.nameToken] ∨
    Spells text.toList [.openBrace, a.nameToken, .colon, .null, .closeBrace]

theorem isWrittenIn_iff : a.IsWrittenIn text ↔ ∃ v, IsDocument text v ∧ a.IsWrittenAs v := by
  have string : Value.tokens (.ofText a.name) = [a.nameToken] := by
    simp only [Value.ofText, Value.tokens, nameToken]
  have object : Value.tokens (.ofMembers [(a.name, .null)]) =
      [.openBrace, a.nameToken, .colon, .null, .closeBrace] := by
    simp only [Value.ofMembers, List.map_cons, List.map_nil, Value.tokens, Json.memberTokens,
      nameToken, List.cons_append, List.nil_append]
  simp only [IsWrittenIn, IsWrittenAs, IsDocument, and_or_left, exists_or, exists_eq_right, string,
    object]

/-- Exactly the documents that name an algorithm are read as it. -/
theorem parseJson_eq_some_iff : parseJson text = some a ↔ a.IsWrittenIn text := by
  rw [isWrittenIn_iff, parseJson, Option.bind_eq_some_iff]
  simp only [Json.Value.parse_eq_some_iff, ofJson?_eq_some_iff]

theorem parseJson_eq_none_iff : parseJson text = none ↔ ∀ a : Algorithm, ¬a.IsWrittenIn text := by
  simp only [← parseJson_eq_some_iff]
  exact Option.eq_none_iff_forall_ne_some

/-- A string names an algorithm only if it denotes the canonical name, character by character. -/
theorem isWrittenIn_string_iff {denoted : String} (document : IsDocument text (.ofText denoted)) :
    a.IsWrittenIn text ↔ a.name = denoted := by
  rw [isWrittenIn_iff]
  constructor
  · rintro ⟨v, other, rfl | rfl⟩
    · exact Value.ofText_injective (other.unique document)
    · cases other.unique document
  · rintro rfl
    exact ⟨_, document, .inl rfl⟩

/-- What a text says when it is read as a document that names an algorithm. -/
structure JsonReading (text : String) : Prop where
  /-- It is read as an algorithm exactly if it is a string for the canonical name, or an object with
  that name alone and null. -/
  read (a : Algorithm) : parseJson text = some a ↔ a.IsWrittenIn text
  /-- Every other text is refused. -/
  refused : parseJson text = none ↔ ∀ a : Algorithm, ¬a.IsWrittenIn text
  /-- A string counts as it stands, without regard to what people would write for it. -/
  exactly (a : Algorithm) (denoted : String) :
    IsDocument text (.ofText denoted) → (parseJson text = some a ↔ a.name = denoted)
  /-- What is read from a string is also what people mean by it. -/
  agrees (a : Algorithm) (denoted : String) :
    IsDocument text (.ofText denoted) → parseJson text = some a → parse denoted = .ok a

/-- Documents name algorithms exactly, and by the names of the catalog. -/
theorem json_reading_exact (text : String) : JsonReading text where
  read _ := parseJson_eq_some_iff
  refused := parseJson_eq_none_iff
  exactly _ _ document := parseJson_eq_some_iff.trans (isWrittenIn_string_iff document)
  agrees a denoted document read := by
    have same := (isWrittenIn_string_iff document).1 (parseJson_eq_some_iff.1 read)
    exact same ▸ parse_name a

/-- An escaped letter and white space around the tokens; then letters of the other case, a blank
inside the marks, and the name twice. -/
example :
    parseJson "\t\x7b \"\\u0053HA\" : null \x7d\n" = some .sha ∧
      parseJson "\"sha\"" = none ∧ parseJson "\" SHA\"" = none ∧
      parseJson "\x7b\"SHA\": null, \"SHA\": null\x7d" = none := by
  decide +kernel

end Algorithm

end SecretCodec

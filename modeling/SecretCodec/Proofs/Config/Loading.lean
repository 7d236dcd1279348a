import SecretCodec.Proofs.Config.Rendering
import SecretCodec.Proofs.Json.Writing
import SecretCodec.Proofs.World.Reading

/-!
# Which files load, and as what

A file loads as a configuration exactly if it holds a rendering of it. Every configuration has a
rendering (`exists_rendering`), every rendering loads back to exactly its configuration
(`load_of_rendering`), and whatever else a file holds is reported without any configuration
(`load_sound`).
-/

namespace SecretCodec

open Json (FieldOr IsDocument NullOr Value)

namespace Config

variable {w : World} {path text : String} {c : Config}

/-! ### Every configuration can be written -/

/-- The value that a text, or none, is written as. -/
def textOrNull : Option String → Value
  | none => .null
  | some text => .ofText text

/-- The value that a configuration is written as with nothing left out. -/
def toValue (c : Config) : Value :=
  .ofMembers [
    ("key", .ofMembers [("keyEnv", textOrNull c.key.keyEnv), ("keyPath", textOrNull c.key.keyPath),
      ("secretKey", textOrNull c.key.secretKey)]),
    ("bcryptCost", .number (Nat.toDigits 10 c.bcryptCost.toNat)),
    ("defaultAlgorithm", textOrNull (c.defaultAlgorithm.map Algorithm.name))]

theorem isTextIn_textOrNull (t : Option String) : IsTextIn t (some (textOrNull t)) := by
  cases t with
  | none => exact .written .null
  | some text => exact .written (.written rfl)

theorem isWrittenAs_toValue (c : Config) : c.IsWrittenAs c.toValue := by
  refine ⟨_, _, _, .object ?_, .written ⟨_, _, _, .object ?_, isTextIn_textOrNull _,
    isTextIn_textOrNull _, isTextIn_textOrNull _⟩, .written ⟨_, rfl, ?_⟩, .written ?_⟩
  · simp
  · simp
  · exact Decimal.read?_eq_some_iff.1 (Decimal.read?_toDigits _ 0)
  · cases c.defaultAlgorithm with
    | none => exact .null
    | some a => exact .written (.inl rfl)

/-- Every configuration has a rendering. -/
theorem exists_rendering (c : Config) : ∃ text, c.IsRendering text := by
  have noNumber : ∀ {spelling t}, .number spelling ∉ (textOrNull t).tokens := by
    rintro spelling (_ | text) <;> simp [textOrNull, Value.ofText, Value.tokens]
  have number : ∀ spelling, .number spelling ∈ c.toValue.tokens → Json.IsNumber spelling := by
    intro spelling member
    have same : spelling = Nat.toDigits 10 c.bcryptCost.toNat := by
      simpa [toValue, Value.ofMembers, Value.tokens, Json.memberTokens, noNumber] using member
    exact same ▸ Json.isNumber_toDigits _
  obtain ⟨text, document⟩ := Json.exists_document number
  exact ⟨text, c.toValue, document, c.isWrittenAs_toValue⟩

/-! ### Loading -/

theorem load_eq_ok_iff :
    load w path = .ok c ↔ ∃ text, w.fileText path = .ok text ∧ c.IsRendering text := by
  simp only [← parse_eq_ok_iff]
  rw [load]
  cases w.fileText path with
  | error cause => simp
  | ok text => simp

theorem load_eq_error_iff {cause : ConfigError} :
    load w path = .error cause ↔
      (∃ e, w.fileText path = .error e ∧ cause = .unreadable e) ∨
        ∃ text, w.fileText path = .ok text ∧ parse text = .error cause := by
  rw [load]
  cases w.fileText path with
  | error e => simp [eq_comm]
  | ok text => simp

/-- Every rendering of a configuration loads back to exactly that configuration. -/
theorem load_of_rendering (name : '\x00' ∉ path.toList)
    (content : w.file path = .ok (Text.utf8 text)) (rendering : c.IsRendering text) :
    load w path = .ok c :=
  load_eq_ok_iff.2 ⟨text, World.fileText_eq_ok_iff.2 ⟨name, content⟩, rendering⟩

/-- A section as a list in an object, escapes for a name and for a pair of surrogates, and a member
of no meaning whose value holds half a pair. -/
def mixedText : String :=
  "\x7b \"x\": [\x7b\x7d, -1.5e+3, \"\\ud800\"],\n" ++
    "\"\\u006bey\": [null, \"/\\u00E9\\ud83d\\ude00\", null], \"bcryptCost\": 4,\n" ++
    "\"defaultAlgorithm\": \x7b\"SSHA256\": null\x7d \x7d"

theorem load_of_rendering_mixed :
    IsRendering ⟨⟨none, some "/é😀", none⟩, 4, some .saltedSha256⟩ mixedText ∧
      load ⟨fun _ => none, fun _ => .ok (Text.utf8 mixedText)⟩ "config.json" =
        .ok ⟨⟨none, some "/é😀", none⟩, 4, some .saltedSha256⟩ := by
  have rendering : IsRendering ⟨⟨none, some "/é😀", none⟩, 4, some .saltedSha256⟩ mixedText := by
    refine ⟨.ofMembers [
      ("x", .array [.object [], .number ['-', '1', '.', '5', 'e', '+', '3'], .string [0xD800]]),
      ("key", .array [.null, .ofText "/é😀", .null]), ("bcryptCost", .number ['4']),
      ("defaultAlgorithm", .ofMembers [("SSHA256", .null)])], ?_, ?_⟩
    · exact Json.lex_sound (by decide +kernel)
    · exact ⟨_, _, _, .object (by decide), .written ⟨_, _, _, .list rfl, .written .null,
        .written (.written rfl), .written .null⟩,
        .written ⟨_, rfl, Decimal.read?_eq_some_iff.1 rfl⟩, .written (.written (.inr rfl))⟩
  exact ⟨rendering, load_of_rendering (by decide) rfl rendering⟩

/-- What loads is one document in UTF-8, and the configuration is the one that it is written for.
Whatever else a file holds is reported: that it has no text, that its text is no document, or that
no configuration is written so. -/
theorem load_sound (w : World) (path : String) :
    (∀ c, load w path = .ok c → ∃ text v, w.file path = .ok (Text.utf8 text) ∧
      IsDocument text v ∧ (∀ other, IsDocument text other → other = v) ∧ c.IsWrittenAs v) ∧
    (∀ cause, load w path = .error cause ↔
      (∃ e, cause = .unreadable e ∧ w.fileText path = .error e) ∨
      (∃ text, cause = .notJson ∧ w.fileText path = .ok text ∧ ∀ v, ¬IsDocument text v) ∨
      (∃ text v, cause = .notConfig ∧ w.fileText path = .ok text ∧ IsDocument text v ∧
        ∀ c : Config, ¬c.IsWrittenAs v)) := by
  refine ⟨fun c loaded => ?_, fun cause => ?_⟩
  · obtain ⟨text, read, v, document, written⟩ := load_eq_ok_iff.1 loaded
    have content := (World.fileText_eq_ok_iff.1 read).2
    exact ⟨text, v, content, document, fun _ other => other.unique document, written⟩
  · simp only [load_eq_error_iff, parse_eq_error_iff]
    constructor
    · rintro (⟨e, read, same⟩ | ⟨text, read, ⟨none, same⟩ | ⟨⟨v, document, none⟩, same⟩⟩)
      · exact .inl ⟨e, same, read⟩
      · exact .inr (.inl ⟨text, same, read, none⟩)
      · exact .inr (.inr ⟨text, v, same, read, document, none⟩)
    · rintro (⟨e, same, read⟩ | ⟨text, same, read, none⟩ | ⟨text, v, same, read, document, none⟩)
      · exact .inl ⟨e, read, same⟩
      · exact .inr ⟨text, read, .inl ⟨none, same⟩⟩
      · exact .inr ⟨text, read, .inr ⟨⟨v, document, none⟩, same⟩⟩

/-- A cost that is there twice, under two spellings of its name, is no cost. -/
example :
    load ⟨fun _ => none, fun _ => .ok (Text.utf8
      "\x7b\"bcryptCost\": 4, \"\\u0062cryptCost\": 31\x7d")⟩ "config.json" =
      .error .notConfig := by
  decide +kernel

end Config

end SecretCodec

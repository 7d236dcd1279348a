import SecretCodec.World.Basic

/-!
# What is read from the world

A text is read from a variable or a file exactly if the name is one that variables or files can have
and its UTF-8 encoding is there (`variableText_eq_ok_iff`, `fileText_eq_ok_iff`). A variable without
a text is not set, or set to bytes that encode none.
-/

namespace SecretCodec.World

variable {w : World} {name path text : String} {value : Bytes}

theorem variableText_eq_ok_iff :
    w.variableText name = .ok text ↔
      isVariableName name ∧ w.environment name = some (Text.utf8 text) := by
  rw [variableText]
  by_cases valid : isVariableName name
  · rw [if_pos valid, and_iff_right valid]
    cases w.environment name with
    | none => simp
    | some value =>
      rw [Option.some.injEq, ← Text.ofUtf8?_eq_some_iff]
      simp only
      cases Text.ofUtf8? value with
      | none => simp
      | some read => simp
  · simp [valid]

/-- A variable that is set to bytes that encode no text has none, and the bytes are the reason. -/
theorem variableText_of_not_text (valid : isVariableName name)
    (held : w.environment name = some value) (noText : Text.ofUtf8? value = none) :
    w.variableText name = .error (.notUnicode value) := by
  rw [variableText, if_pos valid, held]
  simp only [noText]

theorem variableText_of_unset (unset : w.environment name = none) :
    w.variableText name = .error .notFound := by
  simp [variableText, unset]

theorem fileText_eq_ok_iff :
    w.fileText path = .ok text ↔ '\x00' ∉ path.toList ∧ w.file path = .ok (Text.utf8 text) := by
  rw [fileText]
  split
  · next nul => exact iff_of_false nofun fun h => h.1 nul
  · next name =>
    rw [and_iff_right name]
    cases w.file path with
    | error cause => simp
    | ok content =>
      rw [Except.ok.injEq, ← Text.ofUtf8?_eq_some_iff]
      simp only
      cases Text.ofUtf8? content with
      | none => simp
      | some read => simp

end SecretCodec.World

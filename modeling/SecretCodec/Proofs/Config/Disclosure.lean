import SecretCodec.CommandLine
import SecretCodec.Proofs.Config.Building
import SecretCodec.Proofs.Success
import SecretCodec.Proofs.Text.Quoted

/-!
# What messages give away of a key's source

Two runs of the program are compared whose key sources differ in nothing but their content, and
which fail to make a key for reasons of the same kind. If the messages differ, they tell something
of the content. They do so in one case only: a variable whose value is no text is quoted in the
message (`KeySource.shown?`), and then the whole value can be read from it. All other failures are
worded alike whatever the content, and a codec's builder and the command line pass the wording on as
it is (`messages_eq_iff`).
-/

namespace SecretCodec

/-- Whether two errors are of the same kind, whatever they carry. -/
def Error.SameKind (a b : Error) : Prop := a.ctorIdx = b.ctorIdx

namespace KeySource

variable {w w' : World} {source source' : KeySource} {cause cause' : Error}
  {reason reason' : KeySourceError} {secret name path : String} {value content : Bytes}

/-- Two sources, each in a world of its own, that are at the same place and may hold different
contents. -/
inductive SamePlace (w w' : World) : KeySource → KeySource → Prop
  | ofVariable {name : String} {value value' : Bytes} (holds : w.environment name = some value)
      (holds' : w'.environment name = some value') :
      SamePlace w w' (.ofVariable name) (.ofVariable name)
  | ofFile {path : String} {content content' : Bytes} (holds : w.file path = .ok content)
      (holds' : w'.file path = .ok content') : SamePlace w w' (.ofFile path) (.ofFile path)
  | inline {secret secret' : String} : SamePlace w w' (.inline secret) (.inline secret')

/-- What a message shows of the content of a source: the value of a variable that is no text. -/
def shown? (w : World) : KeySource → Option Bytes
  | .ofVariable name =>
    if World.isVariableName name then
      (w.environment name).filter fun value => (Text.ofUtf8? value).isNone
    else none
  | .ofFile _ | .inline _ => none

/-! ### Why a source cannot be read -/

/-- A variable that no environment can hold is not looked for. -/
theorem reason_of_not_isVariableName (invalid : ¬World.isVariableName name)
    (h : (ofVariable name).secret w = .error reason) : reason = .ofVariable name .notFound := by
  rw [KeySource.secret, World.variableText, if_neg invalid] at h
  cases h
  rfl

/-- A variable that is set is refused for not being a text. -/
theorem reason_of_isVariableName (valid : World.isVariableName name)
    (holds : w.environment name = some value) (h : (ofVariable name).secret w = .error reason) :
    Text.ofUtf8? value = none ∧ reason = .ofVariable name (.notUnicode value) := by
  rw [KeySource.secret, World.variableText, if_pos valid, holds] at h
  cases text : Text.ofUtf8? value with
  | none =>
    simp only [text] at h
    cases h
    exact ⟨rfl, rfl⟩
  | some text' =>
    simp only [text] at h
    cases h

/-- A file that can be opened is refused for its name or for not being a text. -/
theorem reason_of_file (holds : w.file path = .ok content)
    (h : (ofFile path).secret w = .error reason) :
    reason = .ofFile path (if '\x00' ∈ path.toList then .nulInName else .notUnicode) := by
  rw [KeySource.secret, map_eq_error_iff, mapError_eq_error_iff] at h
  obtain ⟨cause, failed, rfl⟩ := h
  rw [World.fileText] at failed
  by_cases nul : '\x00' ∈ path.toList
  · rw [if_pos nul] at failed
    cases failed
    rw [if_pos nul]
  · rw [if_neg nul, holds] at failed
    cases text : Text.ofUtf8? content with
    | none =>
      simp only [text] at failed
      cases failed
      rw [if_neg nul]
    | some text' =>
      simp only [text] at failed
      cases failed

/-! ### What is shown -/

theorem shown?_of_not_text (valid : World.isVariableName name)
    (holds : w.environment name = some value) (noText : Text.ofUtf8? value = none) :
    (ofVariable name).shown? w = some value := by
  rw [shown?, if_pos valid, holds, Option.filter_some, noText]
  rfl

/-- A source that can be read is not shown. -/
theorem shown?_of_secret (h : source.secret w = .ok secret) : source.shown? w = none := by
  cases source with
  | ofVariable name =>
    rw [KeySource.secret, mapError_eq_ok_iff, World.variableText] at h
    by_cases valid : World.isVariableName name
    · cases held : w.environment name with
      | none => simp [shown?, held]
      | some value =>
        cases text : Text.ofUtf8? value with
        | none => simp [valid, held, text] at h
        | some text' => simp [shown?, held, text]
    · exact if_neg valid
  | ofFile path => rfl
  | inline secret => rfl

/-- Messages about a variable that holds no text show its whole value. -/
theorem message_notUnicode_eq_iff {value' : Bytes} :
    (KeySourceError.ofVariable name (.notUnicode value)).message =
        (KeySourceError.ofVariable name (.notUnicode value')).message ↔ value = value' := by
  have quoted : (KeySourceError.ofVariable name (.notUnicode value)).message =
      (KeySourceError.ofVariable name (.notUnicode value')).message ↔
        Text.quoteBytes value = Text.quoteBytes value' :=
    (String.append_right_inj _).trans (String.append_right_inj _)
  rw [quoted]
  exact ⟨fun same => Text.quoteBytes_injective same, fun same => same ▸ rfl⟩

theorem reason_message_eq_iff (place : SamePlace w w' source source')
    (failed : source.secret w = .error reason) (failed' : source'.secret w' = .error reason') :
    reason.message = reason'.message ↔ source.shown? w = source'.shown? w' := by
  cases place with
  | @ofVariable name value value' holds holds' =>
    by_cases valid : World.isVariableName name
    · obtain ⟨noText, rfl⟩ := reason_of_isVariableName valid holds failed
      obtain ⟨noText', rfl⟩ := reason_of_isVariableName valid holds' failed'
      rw [message_notUnicode_eq_iff, shown?_of_not_text valid holds noText,
        shown?_of_not_text valid holds' noText', Option.some.injEq]
    · rw [reason_of_not_isVariableName valid failed, reason_of_not_isVariableName valid failed']
      simp [shown?, valid]
  | ofFile holds holds' =>
    rw [reason_of_file holds failed, reason_of_file holds' failed']
    exact iff_of_true rfl rfl
  | inline => cases failed

/-! ### Why there is no key -/

theorem ofText_eq_error_iff :
    (SecretKey.ofText secret).value = .error cause ↔
      (Text.utf8 secret).length < 16 ∧ cause = .keyTooShort := by
  unfold SecretKey.ofText
  by_cases long : 16 ≤ (Text.utf8 secret).length
  · simp [long, Nat.not_lt.2 long]
  · simp [long, Nat.lt_of_not_le long, eq_comm]

/-- A source cannot be read, or its secret is too short. -/
theorem key_eq_error_iff :
    (source.key w).value = .error cause ↔
      (∃ reason, source.secret w = .error reason ∧ cause = .keySourceUnreadable reason) ∨
        ∃ secret, source.secret w = .ok secret ∧ (Text.utf8 secret).length < 16 ∧
          cause = .keyTooShort := by
  rw [key]
  cases source.secret w with
  | error reason => simp [eq_comm]
  | ok secret => simp [ofText_eq_error_iff]

/-- Failures of one kind are worded alike, but for what is shown of the content. -/
theorem cause_message_eq_iff (place : SamePlace w w' source source')
    (failed : (source.key w).value = .error cause)
    (failed' : (source'.key w').value = .error cause') (same : cause.SameKind cause') :
    cause.message = cause'.message ↔ source.shown? w = source'.shown? w' := by
  obtain ⟨reason, unread, rfl⟩ | ⟨secret, read, -, rfl⟩ := key_eq_error_iff.1 failed
  · obtain ⟨reason', unread', rfl⟩ | ⟨secret, -, -, rfl⟩ := key_eq_error_iff.1 failed'
    · rw [← reason_message_eq_iff place unread unread']
      exact String.append_right_inj _
    · cases same
  · obtain ⟨reason, -, rfl⟩ | ⟨secret', read', -, rfl⟩ := key_eq_error_iff.1 failed'
    · cases same
    · rw [shown?_of_secret read, shown?_of_secret read']
      exact iff_of_true rfl rfl

end KeySource

/-! ### Builder and command line -/

theorem Config.build_of_key_error {c : Config} {w : World} {source : KeySource} {cause : Error}
    (counts : c.key.source? = some source) (inRange : Bcrypt.isCost c.bcryptCost)
    (failed : (source.key w).value = .error cause) : (c.build w).value = .error (.key cause) := by
  rw [KeySection.source?_eq_head?] at counts
  exact congrArg Logged.value (build_of_failed (Bcrypt.isCost_iff.1 inRange) counts failed)

theorem Config.build_of_not_isCost {c : Config} {w : World} (h : ¬Bcrypt.isCost c.bcryptCost) :
    (c.build w).value = .error (.costOutOfRange c.bcryptCost) :=
  congrArg Logged.value (build_of_not_inRange (mt Bcrypt.isCost_iff.2 h))

namespace CommandLine

variable {w w' : World} {random random' : Entropy} {args : List String}

/-- Whether a run with these arguments needs a codec. -/
def NeedsCodec (args : List String) : Prop :=
  ∃ command operands, args = command :: operands ∧ command ≠ "algorithms"

/-- A run that needs no codec is the same everywhere. -/
theorem run_eq_of_not_needsCodec (h : ¬NeedsCodec args) : run w random args = run w' random' args := by
  cases args with
  | nil => rfl
  | cons command operands =>
    have listing : command = "algorithms" := by
      by_contra other
      exact h ⟨command, operands, rfl, other⟩
    rw [run, run, if_pos listing, if_pos listing]

/-- A codec that cannot be built is explained by the error of the builder. -/
theorem stderr_of_build_error {c : Config} {e : ConfigError} (needed : NeedsCodec args)
    (configured : configuration w = .ok c) (failed : (c.build w).value = .error e) :
    (run w random args).stderr = "config load failed: " ++ e.message ++ "\n" := by
  obtain ⟨command, operands, rfl, other⟩ := needed
  have unloaded : load w = .error e := by
    rw [load, configured]
    show ((c.build w).value >>= fun codec => pure (codec, c)) = _
    rw [failed]
    rfl
  rw [run, if_neg other, unloaded]
  rfl

end CommandLine

/-! ### Disclosure -/

section

variable {c c' : Config} {w w' : World} {source source' : KeySource} {cause cause' : Error}

/-- The builder passes on the wording of a key's error, unless it does not look at the key. -/
theorem build_message_eq_iff (counts : c.key.source? = some source)
    (counts' : c'.key.source? = some source') (sameCost : c.bcryptCost = c'.bcryptCost)
    (failed : (source.key w).value = .error cause)
    (failed' : (source'.key w').value = .error cause') :
    ∃ e e', (c.build w).value = .error e ∧ (c'.build w').value = .error e' ∧
      (e.message = e'.message ↔ (Bcrypt.isCost c.bcryptCost → cause.message = cause'.message)) := by
  by_cases inRange : Bcrypt.isCost c.bcryptCost
  · refine ⟨_, _, Config.build_of_key_error counts inRange failed,
      Config.build_of_key_error counts' (sameCost ▸ inRange) failed', ?_⟩
    have wrapped : (ConfigError.key cause).message = (ConfigError.key cause').message ↔
        cause.message = cause'.message := String.append_right_inj _
    rw [wrapped]
    exact ⟨fun same _ => same, fun same => same inRange⟩
  · refine ⟨_, _, Config.build_of_not_isCost inRange,
      Config.build_of_not_isCost (sameCost ▸ inRange), ?_⟩
    rw [sameCost]
    exact iff_of_true rfl fun valid => (inRange (sameCost ▸ valid)).elim

/-- The command line passes on the wording of the builder's error, unless it needs no codec. -/
theorem stderr_eq_iff {e e' : ConfigError} {random random' : Entropy} {args : List String}
    (configured : CommandLine.configuration w = .ok c)
    (configured' : CommandLine.configuration w' = .ok c') (failed : (c.build w).value = .error e)
    (failed' : (c'.build w').value = .error e') :
    (CommandLine.run w random args).stderr = (CommandLine.run w' random' args).stderr ↔
      (CommandLine.NeedsCodec args → e.message = e'.message) := by
  by_cases needed : CommandLine.NeedsCodec args
  · rw [CommandLine.stderr_of_build_error needed configured failed,
      CommandLine.stderr_of_build_error needed configured' failed', String.append_left_inj,
      String.append_right_inj]
    exact ⟨fun same _ => same, fun same => same needed⟩
  · rw [CommandLine.run_eq_of_not_needsCodec needed]
    exact iff_of_true rfl fun needs => (needed needs).elim

/-- Two runs whose key sources differ in nothing but their content, and which fail to make a key for
reasons of one kind, can only be told apart by a value that is quoted: by the error of the key, by
the error of the builder, and by what the command line writes. The last two do not look at the key
where the cost is out of range, and the command line has no need of it for some commands. -/
theorem messages_eq_iff (counts : c.key.source? = some source)
    (counts' : c'.key.source? = some source') (sameCost : c.bcryptCost = c'.bcryptCost)
    (place : source.SamePlace w w' source') (failed : (source.key w).value = .error cause)
    (failed' : (source'.key w').value = .error cause') (sameKind : cause.SameKind cause') :
    (cause.message = cause'.message ↔ source.shown? w = source'.shown? w') ∧
    (∃ e e', (c.build w).value = .error e ∧ (c'.build w').value = .error e' ∧
      (e.message = e'.message ↔
        (Bcrypt.isCost c.bcryptCost → source.shown? w = source'.shown? w'))) ∧
    (CommandLine.configuration w = .ok c → CommandLine.configuration w' = .ok c' →
      ∀ random random' args,
        (CommandLine.run w random args).stderr = (CommandLine.run w' random' args).stderr ↔
          (CommandLine.NeedsCodec args → Bcrypt.isCost c.bcryptCost →
            source.shown? w = source'.shown? w')) := by
  have worded := KeySource.cause_message_eq_iff place failed failed' sameKind
  obtain ⟨e, e', built, built', same⟩ :=
    build_message_eq_iff counts counts' sameCost failed failed'
  rw [worded] at same
  refine ⟨worded, ⟨e, e', built, built', same⟩, fun configured configured' random random' args => ?_⟩
  rw [stderr_eq_iff configured configured' built built', same]

/-- Two files that are no texts are told apart by nothing. -/
theorem messages_of_unreadable_files :
    let c : Config := { key := { keyPath := some "key" } }
    let holding (content : Bytes) : World :=
      ⟨fun _ => none, fun path => if path = "key" then .ok content else .error .notFound⟩
    let w := holding [0xFF]
    let w' := holding [0x61, 0xFE]
    let source : KeySource := .ofFile "key"
    let cause : Error := .keySourceUnreadable (.ofFile "key" .notUnicode)
    c.key.source? = some source ∧ source.SamePlace w w' source ∧
      (source.key w).value = .error cause ∧ (source.key w').value = .error cause ∧
      cause.SameKind cause ∧
      ∃ e e', (c.build w).value = .error e ∧ (c.build w').value = .error e' ∧
        e.message = e'.message := by
  intro c holding w w' source cause
  have held (content : Bytes) : (holding content).file "key" = .ok content := by
    simp [holding]
  have place : source.SamePlace w w' source := .ofFile (held _) (held _)
  have failed : (source.key w).value = .error cause := by decide +kernel
  have failed' : (source.key w').value = .error cause := by decide +kernel
  have counts : c.key.source? = some source := rfl
  obtain ⟨-, ⟨e, e', built, built', same⟩, -⟩ :=
    messages_eq_iff counts counts rfl place failed failed' rfl
  exact ⟨counts, place, failed, failed', rfl, e, e', built, built', same.2 fun _ => rfl⟩

/-- Two values of a variable, neither of them a text, are told apart by the error of the key and by
the error of the builder. -/
theorem messages_show_variable :
    let c : Config := { key := { keyEnv := some "SECRET_KEY" } }
    let holding (value : Bytes) : World :=
      ⟨fun name => if name = "SECRET_KEY" then some value else none, fun _ => .error .notFound⟩
    let w := holding [0xFF, 0x61, 0x62]
    let w' := holding [0xFF, 0x63, 0x64]
    let source : KeySource := .ofVariable "SECRET_KEY"
    c.key.source? = some source ∧ source.SamePlace w w' source ∧
      ∃ cause cause', (source.key w).value = .error cause ∧ (source.key w').value = .error cause' ∧
        cause.SameKind cause' ∧ cause.message ≠ cause'.message ∧
        ∃ e e', (c.build w).value = .error e ∧ (c.build w').value = .error e' ∧
          e.message ≠ e'.message := by
  intro c holding w w' source
  let cause (value : Bytes) : Error :=
    .keySourceUnreadable (.ofVariable "SECRET_KEY" (.notUnicode value))
  have failed : (source.key w).value = .error (cause [0xFF, 0x61, 0x62]) := by decide +kernel
  have failed' : (source.key w').value = .error (cause [0xFF, 0x63, 0x64]) := by decide +kernel
  have held (value : Bytes) : (holding value).environment "SECRET_KEY" = some value := by
    simp [holding]
  have place : source.SamePlace w w' source := .ofVariable (held _) (held _)
  have differ : (cause [0xFF, 0x61, 0x62]).message ≠ (cause [0xFF, 0x63, 0x64]).message := by
    rw [Ne, KeySource.cause_message_eq_iff place failed failed' rfl]
    decide +kernel
  refine ⟨rfl, place, _, _, failed, failed', rfl, differ, _, _,
    Config.build_of_key_error rfl rfl failed, Config.build_of_key_error rfl rfl failed', ?_⟩
  intro same
  exact differ ((String.append_right_inj "secret key error: ").1 same)

end

end SecretCodec

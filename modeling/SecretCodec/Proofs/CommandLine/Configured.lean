import SecretCodec.Proofs.CommandLine.Answers
import SecretCodec.Proofs.World.Reading

/-!
# Which configuration is in force

A variable names the file that a run is configured by. Who has set it expects the codec of that file
or a complaint about the configuration, and nothing else (`Heeds`). So it is exactly where the value
of the variable is a text. A value that is no text counts as none, and the run goes on with the
default configuration, as if the variable were not set (`configured_run`).
-/

namespace SecretCodec

/-- The same world without one of its variables. -/
def World.without (w : World) (name : String) : World :=
  { w with environment := fun other => if other = name then none else w.environment other }

theorem World.environment_without (w : World) (name : String) :
    (w.without name).environment name = none := by
  simp [without]

namespace CommandLine

variable {w : World} {random : Entropy} {codec : Codec} {config : Config} {value : Bytes}
  {path command name failure explanation : String} {operands : List String}

/-! ### The value of the variable -/

theorem isVariableName_configVariable : World.isVariableName configVariable := by
  decide +kernel

/-- A text is the path of the configuration. -/
theorem configuration_of_text (held : w.environment configVariable = some (Text.utf8 path)) :
    configuration w = Config.load w path := by
  have named : w.variableText configVariable = .ok path :=
    World.variableText_eq_ok_iff.2 ⟨isVariableName_configVariable, held⟩
  rw [configuration, named]

/-- What is no text is passed over. -/
theorem configuration_of_not_text (held : w.environment configVariable = some value)
    (noText : Text.ofUtf8? value = none) : configuration w = .ok {} := by
  rw [configuration,
    World.variableText_of_not_text isVariableName_configVariable held noText]

theorem configuration_of_unset (unset : w.environment configVariable = none) :
    configuration w = .ok {} := by
  rw [configuration, World.variableText_of_unset unset]

/-- By default there is no key. -/
theorem load_of_default (default : configuration w = .ok {}) : load w = .ok ({}, {}) :=
  load_eq_ok_iff.2 ⟨default, rfl⟩

/-! ### Complaints -/

namespace Output

/-- Whether a run has no result and complains about the configuration. -/
def BlamesConfiguration (output : Output) : Prop :=
  output.stdout = "" ∧ ∃ cause, output.stderr = "config load failed: " ++ cause

/-- Whether a run complains about nothing, or in words that do not begin like a complaint about the
configuration. -/
def IsBlameless (output : Output) : Prop := output.stderr.toList.head? ≠ some 'c'

instance (output : Output) : Decidable output.IsBlameless := inferInstanceAs (Decidable (_ ≠ _))

theorem IsBlameless.not_blamesConfiguration {output : Output} (h : output.IsBlameless) :
    ¬output.BlamesConfiguration := by
  rintro ⟨-, cause, blames⟩
  apply h
  rw [blames, String.toList_append]
  rfl

end Output

theorem blamesConfiguration_of_load {cause : ConfigError} (other : command ≠ "algorithms")
    (failed : load w = .error cause) :
    (run w random (command :: operands)).BlamesConfiguration := by
  rw [run_of_load other failed]
  exact ⟨rfl, cause.message ++ "\n", String.append_assoc ..⟩

theorem isBlameless_print (result : String) : (print result).IsBlameless := by
  nofun

/-- It is the first letter that tells one complaint from another. -/
theorem isBlameless_complain (front rest : String) {c : Char}
    (first : front.toList.head? = some c) (other : c ≠ 'c') :
    (complain (front ++ rest)).IsBlameless := by
  show (front ++ rest ++ "\n").toList.head? ≠ some 'c'
  rw [String.toList_append, String.toList_append, List.head?_append, List.head?_append, first]
  exact fun same => other (Option.some.inj same)

theorem isBlameless_complain_of_algorithm (failed : algorithm config name = .error explanation) :
    (complain explanation).IsBlameless := by
  rw [algorithm] at failed
  split at failed
  · split at failed
    · cases failed
    · cases failed
      decide +kernel
  · obtain ⟨cause, unknown, rfl⟩ := mapError_eq_error_iff.1 failed
    obtain ⟨-, rfl⟩ := Algorithm.parse_eq_error_iff.1 unknown
    exact isBlameless_complain "unknown cipher algorithm: " _ rfl (by decide)

theorem isBlameless_report {c : Char} (first : failure.toList.head? = some c) (other : c ≠ 'c')
    (result : Except Error String) : (report failure result).IsBlameless := by
  cases result with
  | ok result => exact isBlameless_print result
  | error cause =>
    rw [report, String.append_assoc]
    exact isBlameless_complain failure _ first other

theorem isBlameless_withAlgorithm {operation : Algorithm → Output}
    (h : ∀ a, (operation a).IsBlameless) : (withAlgorithm config name operation).IsBlameless := by
  rw [withAlgorithm]
  split
  · next a selected => exact h a
  · next explanation failed => exact isBlameless_complain_of_algorithm failed

/-- Once there is a codec, nothing is blamed on the configuration any more. -/
theorem isBlameless_execute : (execute codec config random command operands).IsBlameless := by
  rw [execute.eq_def]
  split
  · exact isBlameless_withAlgorithm fun a => isBlameless_report rfl (by decide) _
  · exact isBlameless_withAlgorithm fun a => isBlameless_report rfl (by decide) _
  · exact isBlameless_withAlgorithm fun a => isBlameless_print _
  · have called : (complain usage).IsBlameless := by decide +kernel
    exact called

/-! ### Runs -/

/-- What is expected of a run for which the variable is set: the codec of the file that the value
names, and its default algorithm, or a complaint. -/
structure Heeds (w : World) (random : Entropy) (value : Bytes) (command : String)
    (operands : List String) : Prop where
  /-- A file from which a codec can be built is the one that is used. -/
  used (path : String) (config : Config) (codec : Codec) : value = Text.utf8 path →
    Config.load w path = .ok config → (config.build w).value = .ok codec →
    run w random (command :: operands) = execute codec config random command operands
  /-- Without such a file there is a complaint about the configuration and no result. -/
  blamed : (¬∃ path config codec, value = Text.utf8 path ∧ Config.load w path = .ok config ∧
      (config.build w).value = .ok codec) →
    (run w random (command :: operands)).BlamesConfiguration

theorem run_of_default (other : command ≠ "algorithms") (default : configuration w = .ok {}) :
    run w random (command :: operands) = execute {} {} random command operands :=
  run_of_load_ok other (load_of_default default)

/-- A text is heeded: the file is used or complained about. -/
theorem heeds_of_text (other : command ≠ "algorithms")
    (held : w.environment configVariable = some (Text.utf8 path)) :
    Heeds w random (Text.utf8 path) command operands where
  used path' config codec same loaded built := by
    cases Text.utf8_injective same
    exact run_of_load_ok other
      (load_eq_ok_iff.2 ⟨(configuration_of_text held).trans loaded, built⟩)
  blamed useless := by
    cases loaded : load w with
    | error cause => exact blamesConfiguration_of_load other loaded
    | ok found =>
      obtain ⟨codec, config⟩ := found
      obtain ⟨configured, built⟩ := load_eq_ok_iff.1 loaded
      rw [configuration_of_text held] at configured
      exact (useless ⟨path, config, codec, rfl, configured, built⟩).elim

end CommandLine

end SecretCodec

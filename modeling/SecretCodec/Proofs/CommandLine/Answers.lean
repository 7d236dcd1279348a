import SecretCodec.CommandLine
import SecretCodec.Proofs.Algorithm.Names
import SecretCodec.Proofs.Codec.Dispatch

/-!
# What the command line answers

A run adds nothing to what a codec does. `Answers` lists by rule which arguments lead to a call of
the codec in force that has a result, and the run then prints that result; all other runs end in an
explanation (`execute_cases`). So the two outputs never mix, and nothing but a result, or the table
of algorithms, is ever printed (`run_refines`).
-/

namespace SecretCodec.CommandLine

variable {w : World} {random : Entropy} {codec : Codec} {config : Config} {a : Algorithm}
  {command name name' result explanation : String} {operands rest args : List String}

/-! ### Lines -/

theorem line_ne_empty (text : String) : text ++ "\n" ≠ "" := by
  intro empty
  have characters := congrArg String.toList empty
  simp at characters

/-! ### The algorithm of an operand -/

/-- The algorithm that an operand selects. -/
inductive Selects (config : Config) : String → Algorithm → Prop
  | default {a : Algorithm} (configured : config.defaultAlgorithm = some a) : Selects config "-" a
  | named {name : String} {a : Algorithm} (named : a.IsNamed name) : Selects config name a

/-- A dash is the name of no algorithm, so it always stands for the default. -/
theorem not_isNamed_dash (a : Algorithm) : ¬a.IsNamed "-" := by
  cases a <;> decide +kernel

theorem algorithm_eq_ok_iff : algorithm config name = .ok a ↔ Selects config name a := by
  rw [algorithm]
  split
  · next dash =>
    subst dash
    constructor
    · intro found
      split at found
      · next a' configured =>
        cases found
        exact .default configured
      · cases found
    · intro selected
      cases selected with
      | default configured => rw [configured]
      | named named => exact (not_isNamed_dash a named).elim
  · next other =>
    rw [mapError_eq_ok_iff, Algorithm.parse_eq_ok_iff]
    constructor
    · exact .named
    · intro selected
      cases selected with
      | default configured => exact (other rfl).elim
      | named named => exact named

theorem withAlgorithm_of_selects (h : Selects config name a) (operation : Algorithm → Output) :
    withAlgorithm config name operation = operation a := by
  rw [withAlgorithm, algorithm_eq_ok_iff.2 h]

/-- An operation has a result for the algorithm that is selected, or there is a complaint about the
operand or about the operation. -/
theorem withAlgorithm_report_cases (config : Config) (name failure : String)
    (operation : Algorithm → Except Error String) :
    (∃ a result, Selects config name a ∧ operation a = .ok result) ∨
      ∃ explanation,
        withAlgorithm config name (fun a => report failure (operation a)) =
          complain explanation := by
  cases selected : algorithm config name with
  | error explanation => exact .inr ⟨explanation, by rw [withAlgorithm, selected]⟩
  | ok a =>
    have selects := algorithm_eq_ok_iff.1 selected
    cases done : operation a with
    | ok result => exact .inl ⟨a, result, selects, done⟩
    | error cause =>
      exact .inr ⟨_, by rw [withAlgorithm_of_selects selects, done, report]⟩

/-! ### Operations -/

/-- The calls that have a result, by the arguments that lead to them. -/
inductive Answers (codec : Codec) (config : Config) (random : Entropy) :
    List String → String → Prop
  | encode {name plaintext stored : String} {a : Algorithm} (selected : Selects config name a)
      (done : codec.encode random (some plaintext) (some a) = .ok (some stored)) :
      Answers codec config random ["encode", name, plaintext] stored
  | decode {name stored plaintext : String} {a : Algorithm} (selected : Selects config name a)
      (done : codec.decode (some stored) (some a) = .ok (some plaintext)) :
      Answers codec config random ["decode", name, stored] plaintext
  | verify {name plaintext stored : String} {a : Algorithm} (selected : Selects config name a) :
      Answers codec config random ["verify", name, plaintext, stored]
        (if (codec.verify (some plaintext) (some a) (some stored)).value then "match"
          else "no-match")

/-- An operation has a result or ends in a complaint, and other operands are complained about. -/
theorem execute_cases (codec : Codec) (config : Config) (random : Entropy) (command : String)
    (operands : List String) :
    (∃ result, Answers codec config random (command :: operands) result) ∨
      ∃ explanation, execute codec config random command operands = complain explanation := by
  rw [execute.eq_def]
  split
  · next name plaintext =>
    refine (withAlgorithm_report_cases config name "encoding failed"
      (codec.encodeText random plaintext)).imp_left ?_
    rintro ⟨a, stored, selected, done⟩
    exact ⟨stored, .encode selected (Codec.encode_some_eq_ok_iff.2 done)⟩
  · next name stored =>
    refine (withAlgorithm_report_cases config name "decoding failed"
      (codec.decodeText stored)).imp_left ?_
    rintro ⟨a, plaintext, selected, done⟩
    exact ⟨plaintext, .decode selected (Codec.decode_some_eq_ok_iff.2 done)⟩
  · next name plaintext stored =>
    -- A verification cannot fail, so it is an operation that is never complained about.
    refine (withAlgorithm_report_cases config name "" fun a =>
      .ok (if (codec.verify (some plaintext) (some a) (some stored)).value then "match"
        else "no-match")).imp_left ?_
    rintro ⟨a, result, selected, -⟩
    exact ⟨_, .verify selected⟩
  · exact .inr ⟨usage, rfl⟩

/-- Operands that select the same algorithm lead to the same output. -/
theorem execute_congr (h : Selects config name a) (h' : Selects config name' a) :
    execute codec config random command (name :: rest) =
      execute codec config random command (name' :: rest) := by
  have same : withAlgorithm config name = withAlgorithm config name' := by
    funext operation
    rw [withAlgorithm, withAlgorithm, algorithm_eq_ok_iff.2 h, algorithm_eq_ok_iff.2 h']
  rw [execute.eq_def]
  split
  · next operands =>
    cases operands
    rw [same, execute]
  · next operands =>
    cases operands
    rw [same, execute]
  · next operands =>
    cases operands
    rw [same, execute]
  · next noEncode noDecode noVerify =>
    rw [execute]
    · rintro _ plaintext rfl operands
      cases operands
      exact noEncode name plaintext rfl rfl
    · rintro _ stored rfl operands
      cases operands
      exact noDecode name stored rfl rfl
    · rintro _ plaintext stored rfl operands
      cases operands
      exact noVerify name plaintext stored rfl rfl

/-! ### Runs -/

theorem load_eq_ok_iff :
    load w = .ok (codec, config) ↔
      configuration w = .ok config ∧ (config.build w).value = .ok codec := by
  simp only [load, bind_eq_ok_iff, pure_eq_ok_iff, Prod.mk.injEq]
  constructor
  · rintro ⟨config, configured, codec, built, rfl, rfl⟩
    exact ⟨configured, built⟩
  · rintro ⟨configured, built⟩
    exact ⟨config, configured, codec, built, rfl, rfl⟩

theorem run_of_load {cause : ConfigError} (other : command ≠ "algorithms")
    (failed : load w = .error cause) :
    run w random (command :: operands) =
      complain ("config load failed: " ++ cause.message) := by
  rw [run, if_neg other, failed]

theorem run_of_load_ok (other : command ≠ "algorithms") (loaded : load w = .ok (codec, config)) :
    run w random (command :: operands) = execute codec config random command operands := by
  rw [run, if_neg other, loaded]

/-- A result is printed. -/
theorem run_of_answers (loaded : load w = .ok (codec, config))
    (answers : Answers codec config random args result) : run w random args = print result := by
  cases answers with
  | encode selected done =>
    rw [run_of_load_ok (by decide) loaded, execute, withAlgorithm_of_selects selected,
      Codec.encode_some_eq_ok_iff.1 done, report]
  | decode selected done =>
    rw [run_of_load_ok (by decide) loaded, execute, withAlgorithm_of_selects selected,
      Codec.decode_some_eq_ok_iff.1 done, report]
  | verify selected =>
    rw [run_of_load_ok (by decide) loaded, execute, withAlgorithm_of_selects selected]

/-- A run lists the algorithms, prints the result of a call, or explains why there is none. -/
theorem run_cases (w : World) (random : Entropy) (args : List String) :
    (∃ operands, args = "algorithms" :: operands) ∨
      (∃ codec config result, load w = .ok (codec, config) ∧
        Answers codec config random args result) ∨
      ∃ explanation, run w random args = complain explanation := by
  match args with
  | [] => exact .inr (.inr ⟨usage, rfl⟩)
  | command :: operands =>
    by_cases listing : command = "algorithms"
    · exact .inl ⟨operands, by rw [listing]⟩
    refine .inr ?_
    cases loaded : load w with
    | error cause => exact .inr ⟨_, run_of_load listing loaded⟩
    | ok found =>
      obtain ⟨codec, config⟩ := found
      rw [run_of_load_ok listing loaded]
      refine (execute_cases codec config random command operands).imp_left ?_
      rintro ⟨result, answers⟩
      exact ⟨codec, config, result, rfl, answers⟩

/-- What runs of the command line do, and in which order they look for what is wrong. -/
structure Refines (w : World) (random : Entropy) : Prop where
  /-- Every run ends well. -/
  code (args : List String) : (run w random args).code = 0
  /-- It writes to one of its two outputs and not to the other. -/
  exclusive (args : List String) : (run w random args).stdout ≠ "" ↔ (run w random args).stderr = ""
  /-- The algorithms are listed whatever the configuration and the operands. -/
  listing (operands : List String) :
    (run w random ("algorithms" :: operands)).stdout =
      String.join (catalog.map fun e => row e ++ "\n")
  /-- Otherwise something is printed exactly where the codec in force has a result. -/
  answered (args : List String) (other : args.head? ≠ some "algorithms") :
    (run w random args).stdout ≠ "" ↔
      ∃ codec config result, load w = .ok (codec, config) ∧
        Answers codec config random args result
  /-- What is printed is that result, on a line of its own. -/
  printed (args : List String) (codec : Codec) (config : Config) (result : String) :
    load w = .ok (codec, config) → Answers codec config random args result →
      (run w random args).stdout = result ++ "\n"
  /-- A dash stands for the configured default, however else that may be spelled. -/
  dash (command name : String) (rest : List String) (config : Config) (a : Algorithm) :
    configuration w = .ok config → config.defaultAlgorithm = some a → a.IsNamed name →
      run w random (command :: "-" :: rest) = run w random (command :: name :: rest)
  /-- A configuration from which no codec can be built is reported before anything else. -/
  order (command : String) (operands : List String) (cause : ConfigError) :
    command ≠ "algorithms" → load w = .error cause →
      run w random (command :: operands) =
        { stderr := "config load failed: " ++ cause.message ++ "\n", code := 0 }

theorem table_stdout_ne_empty : table.stdout ≠ "" := by
  decide +kernel

/-- The configuration in force says what a dash stands for. -/
theorem run_dash_eq (configured : configuration w = .ok config)
    (default : config.defaultAlgorithm = some a) (named : a.IsNamed name) :
    run w random (command :: "-" :: rest) = run w random (command :: name :: rest) := by
  by_cases listing : command = "algorithms"
  · subst listing
    rfl
  cases loaded : load w with
  | error cause => rw [run_of_load listing loaded, run_of_load listing loaded]
  | ok found =>
    obtain ⟨codec, config'⟩ := found
    cases configured.symm.trans (load_eq_ok_iff.1 loaded).1
    rw [run_of_load_ok listing loaded, run_of_load_ok listing loaded]
    exact execute_congr (.default default) (.named named)

/-- The command line does what the codec does and nothing else. -/
theorem run_refines (w : World) (random : Entropy) : Refines w random where
  code args := by
    obtain ⟨operands, rfl⟩ | ⟨codec, config, result, loaded, answers⟩ | ⟨explanation, explained⟩ :=
      run_cases w random args
    · rfl
    · rw [run_of_answers loaded answers]
      rfl
    · rw [explained]
      rfl
  exclusive args := by
    obtain ⟨operands, rfl⟩ | ⟨codec, config, result, loaded, answers⟩ | ⟨explanation, explained⟩ :=
      run_cases w random args
    · exact iff_of_true table_stdout_ne_empty rfl
    · rw [run_of_answers loaded answers]
      exact iff_of_true (line_ne_empty result) rfl
    · rw [explained]
      exact iff_of_false (fun nonempty => nonempty rfl) (line_ne_empty explanation)
  listing operands := rfl
  answered args other := by
    constructor
    · intro nonempty
      obtain ⟨operands, rfl⟩ | answered | ⟨explanation, explained⟩ := run_cases w random args
      · exact (other rfl).elim
      · exact answered
      · rw [explained] at nonempty
        exact (nonempty rfl).elim
    · rintro ⟨codec, config, result, loaded, answers⟩
      rw [run_of_answers loaded answers]
      exact line_ne_empty result
  printed args codec config result loaded answers := by
    rw [run_of_answers loaded answers, print]
  dash command name rest config a configured default named := run_dash_eq configured default named
  order command operands cause other failed := run_of_load other failed

/-- Without a configuration there is no key, and yet a verification that needs one has an answer. -/
example :
    let w : World := ⟨fun _ => none, fun _ => .error .notFound⟩
    run w (fun _ => 0) ["verify", " aes", "fabiano", "UhgavyjwSlGEJyyevj4whg=="] =
      print "no-match" := by
  decide +kernel

end SecretCodec.CommandLine

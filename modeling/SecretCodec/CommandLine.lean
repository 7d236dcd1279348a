import SecretCodec.Config.Json

/-!
# The command line

An operator encodes, decodes and verifies single values. A run writes either a result to the
standard output or an explanation to the standard error, never both, and ends well after either.
What is wrong is found in a fixed order: the configuration, the number of operands, the algorithm,
the operation. Only the list of algorithms is printed whatever the configuration.

The arguments of a run are texts. A program that is given anything else ends before any of this.
-/

namespace SecretCodec.CommandLine

/-- What a run writes, and the code it ends with. -/
structure Output where
  stdout : String := ""
  stderr : String := ""
  code : UInt32
  deriving DecidableEq, Repr

/-- The code of a run that ends well. -/
def success : UInt32 := 0

/-- A result, on a line of its own. -/
def print (result : String) : Output := { stdout := result ++ "\n", code := success }

/-- An explanation, on a line of its own. A run ends well also after one. -/
def complain (explanation : String) : Output := { stderr := explanation ++ "\n", code := success }

/-- The variable that holds the path of the configuration. -/
def configVariable : String := "ENCRYPTOR_CONFIG"

/-- How the command line is used. -/
def usage : String :=
  "Commands:\n  algorithms\n  encode <algorithm|-> <plaintext>\n" ++
    "  decode <algorithm> <stored>\n  verify <algorithm> <plaintext> <stored>\n\n" ++
    "`-` selects the configured defaultAlgorithm."

/-- A text with spaces after it, up to a width. -/
def padRight (width : Nat) (text : String) : String :=
  text ++ String.ofList (List.replicate (width - text.length) ' ')

/-- The line of the table of algorithms for one entry. -/
def row (e : Entry) : String :=
  padRight 8 e.name ++ " " ++ padRight 10 e.standardName ++
    " reversible=" ++ truthText e.isReversible ++ " salted=" ++ truthText e.isSalted ++
    " adaptive=" ++ truthText e.isAdaptive

/-- The table of algorithms. -/
def table : Output :=
  { stdout := String.join (catalog.map fun e => row e ++ "\n"), code := success }

/-- The configuration in force. Without a path, or where the variable holds no text, it is the
default one. -/
def configuration (w : World) : Except ConfigError Config :=
  match w.variableText configVariable with
  | .ok path => Config.load w path
  | .error _ => .ok {}

/-- The codec in force, with its configuration. -/
def load (w : World) : Except ConfigError (Codec × Config) := do
  let config ← configuration w
  let codec ← (config.build w).value
  return (codec, config)

/-- The algorithm that an operand names. A dash stands for the configured default. -/
def algorithm (config : Config) (name : String) : Except String Algorithm :=
  if name = "-" then
    match config.defaultAlgorithm with
    | some algorithm => .ok algorithm
    | none => .error "no defaultAlgorithm configured"
  else (Algorithm.parse name).mapError Error.message

/-- What comes of an operation under a named algorithm. -/
def withAlgorithm (config : Config) (name : String) (operation : Algorithm → Output) : Output :=
  match algorithm config name with
  | .ok algorithm => operation algorithm
  | .error explanation => complain explanation

/-- The result of an operation, or a complaint about its failure. -/
def report (failure : String) : Except Error String → Output
  | .ok result => print result
  | .error cause => complain (failure ++ ": " ++ cause.message)

/-- What comes of a command with its operands. -/
def execute (codec : Codec) (config : Config) (random : Entropy) (command : String)
    (operands : List String) : Output :=
  match command, operands with
  | "encode", [name, plaintext] =>
    withAlgorithm config name fun algorithm =>
      report "encoding failed" (codec.encodeText random plaintext algorithm)
  | "decode", [name, stored] =>
    withAlgorithm config name fun algorithm =>
      report "decoding failed" (codec.decodeText stored algorithm)
  | "verify", [name, plaintext, stored] =>
    withAlgorithm config name fun algorithm =>
      print (if (codec.verify (some plaintext) (some algorithm) (some stored)).value then "match"
        else "no-match")
  | _, _ => complain usage

/-- What comes of a run with the given arguments. -/
def run (w : World) (random : Entropy) : List String → Output
  | [] => complain usage
  | command :: operands =>
    if command = "algorithms" then table
    else
      match load w with
      | .error cause => complain ("config load failed: " ++ cause.message)
      | .ok (codec, config) => execute codec config random command operands

end SecretCodec.CommandLine

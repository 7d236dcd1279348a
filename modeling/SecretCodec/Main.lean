import SecretCodec.CommandLine

/-!
# The program

The environment, the files and the random bytes that a run may need are fetched first; what the run
writes is then a function of them.
-/

open SecretCodec

namespace SecretCodec.Program

/-- The value of an environment variable, under its name. -/
def fetchVariable (name : String) : IO (List (String × Bytes)) := do
  match ← IO.getEnv name with
  | some value => return [(name, Text.utf8 value)]
  | none => return []

/-- The number of an error and what is said of it, where it comes from the operating system. Some
errors carry the number with the opposite sign. -/
def systemError? : IO.Error → Option (Nat × String)
  | .alreadyExists _ code details | .inappropriateType _ code details
  | .interrupted _ code details | .invalidArgument _ code details
  | .noFileOrDirectory _ code details | .noSuchThing _ code details
  | .permissionDenied _ code details | .resourceExhausted _ code details
  | .hardwareFault code details | .illegalOperation code details | .otherError code details
  | .protocolError code details | .resourceBusy code details | .resourceVanished code details
  | .timeExpired code details | .unsatisfiedConstraints code details
  | .unsupportedOperation code details =>
    some ((if code < 0x80000000 then code else 0 - code).toNat, details)
  | .unexpectedEof | .userError _ => none

/-- The reason that a file cannot be read. It goes by the number that its wording names. -/
def fileError (e : IO.Error) : FileError :=
  match systemError? e with
  | some (2, _) => .notFound
  | some (20, _) => .notADirectory
  | some (21, _) => .isADirectory
  | some (36, _) => .nameTooLong
  | some (number, details) => .other (details.capitalize ++ " (os error " ++ number.repr ++ ")")
  | none => .other (toString e)

/-- The content of a file, under its path. -/
def fetchFile (path : String) : IO (List (String × Except FileError Bytes)) := do
  try
    return [(path, .ok (← IO.FS.readBinFile path).toList)]
  catch e =>
    return [(path, .error (fileError e))]

/-- The world of which the given bindings and files are known. -/
def world (bindings : List (String × Bytes)) (files : List (String × Except FileError Bytes)) :
    World where
  environment name := bindings.lookup name
  file path := (files.lookup path).getD (.error .notFound)

/-- What the configuration and its key source are read from. -/
def fetch : IO World := do
  let bindings ← fetchVariable CommandLine.configVariable
  let files ← match (world bindings []).variableText CommandLine.configVariable with
    | .ok path => fetchFile path
    | .error _ => pure []
  let source := match CommandLine.configuration (world bindings files) with
    | .ok config => config.key.source?
    | .error _ => none
  match source with
  | some (.ofVariable name) => return world (bindings ++ (← fetchVariable name)) files
  | some (.ofFile path) => return world bindings (files ++ (← fetchFile path))
  | some (.inline _) | none => return world bindings files

end SecretCodec.Program

/-- Runs the command line. -/
def main (args : List String) : IO UInt32 := do
  let world ← Program.fetch
  let random := Entropy.cycle (← IO.getRandomBytes 16).toList
  let output := CommandLine.run world random args
  (← IO.getStdout).putStr output.stdout
  (← IO.getStderr).putStr output.stderr
  return output.code

import SecretCodec.Text.Quoted

/-!
# Environment variables and files

A configuration may name a variable or a file. `World` is what such names lead to. Reading a text
from it fails for a reason that is a value of `VariableError` or `FileError`, with the wording an
operator knows from other programs.
-/

namespace SecretCodec

/-- Why a variable has no text. -/
inductive VariableError where
  | notFound
  | notUnicode (value : Bytes)
  deriving DecidableEq, Repr

/-- The wording of an error. A value that is no text is quoted. -/
def VariableError.message : VariableError → String
  | .notFound => "environment variable not found"
  | .notUnicode value => "environment variable was not valid unicode: " ++ Text.quoteBytes value

/-- Why a file has no text. A cause without a name of its own carries its wording. -/
inductive FileError where
  | notFound
  | notADirectory
  | isADirectory
  | nameTooLong
  | nulInName
  | notUnicode
  | other (wording : String)
  deriving DecidableEq, Repr

/-- The wording of an error. -/
def FileError.message : FileError → String
  | .notFound => "No such file or directory (os error 2)"
  | .notADirectory => "Not a directory (os error 20)"
  | .isADirectory => "Is a directory (os error 21)"
  | .nameTooLong => "File name too long (os error 36)"
  | .nulInName => "file name contained an unexpected NUL byte"
  | .notUnicode => "stream did not contain valid UTF-8"
  | .other wording => wording

/-- The values of environment variables and the contents of files. -/
structure World where
  environment : String → Option Bytes
  file : String → Except FileError Bytes

namespace World

/-- Whether an environment can hold a variable of this name. -/
def isVariableName (name : String) : Bool :=
  name.toList ≠ [] && name.toList.all fun c => c ≠ '=' && c ≠ '\x00'

/-- The text of an environment variable. -/
def variableText (w : World) (name : String) : Except VariableError String :=
  match if isVariableName name then w.environment name else none with
  | none => .error .notFound
  | some value =>
    match Text.ofUtf8? value with
    | some text => .ok text
    | none => .error (.notUnicode value)

/-- The text of a file. A name with a NUL is refused before anything is looked up. -/
def fileText (w : World) (path : String) : Except FileError String :=
  if '\x00' ∈ path.toList then .error .nulInName
  else
    match w.file path with
    | .error e => .error e
    | .ok content =>
      match Text.ofUtf8? content with
      | some text => .ok text
      | none => .error .notUnicode

end World

end SecretCodec

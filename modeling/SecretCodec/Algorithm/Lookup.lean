import SecretCodec.Error
import SecretCodec.Text.Blank

/-!
# Algorithms by name

People write names in either case and with blanks around them. A name is looked up without those
blanks and with its ASCII letters in upper case; other letters stand for themselves, so that nothing
outside ASCII is taken for a name.
-/

namespace SecretCodec

/-- The catalog's entry for a name as people write it. -/
def lookup (name : String) : Except Error Entry :=
  match catalog.find? fun e => e.name = (Text.trim name).toUpper with
  | some entry => .ok entry
  | none => .error (.unknownAlgorithm (Text.trim name))

/-- The algorithm for a name as people write it. -/
def Algorithm.parse (name : String) : Except Error Algorithm := (lookup name).map Entry.algorithm

end SecretCodec

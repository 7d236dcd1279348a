import SecretCodec.Text.Unseen
import SecretCodec.Text.Utf8

/-!
# Quoted characters and byte strings

Messages show a single character between apostrophes and a byte string between quotation marks.
Inside them the enclosing mark and the backslash are escaped by a backslash, the usual control
characters have a letter, and every other character that would not be seen is shown by number.
A byte that belongs to no well-formed UTF-8 character is shown as two hexadecimal digits.
-/

namespace SecretCodec.Text

/-- One character as it stands between two `mark`s. -/
def escape (mark c : Char) : List Char :=
  if c = '\x00' then ['\\', '0']
  else if c = '\t' then ['\\', 't']
  else if c = '\n' then ['\\', 'n']
  else if c = '\r' then ['\\', 'r']
  else if c = mark ∨ c = '\\' then ['\\', c]
  else if isUnseen c then ['\\', 'u', '{'] ++ Nat.toDigits 16 c.toNat ++ ['}']
  else [c]

/-- A character between apostrophes. -/
def quoteChar (c : Char) : String := String.ofList ('\'' :: escape '\'' c ++ ['\''])

/-- The character whose encoding a byte string starts with. No character takes more than four
bytes. -/
def firstChar? (bytes : Bytes) : Option Char := (bytes.take 4).toByteArray.utf8DecodeChar? 0

/-- A byte string as it stands between quotation marks. -/
def escapeBytes : Bytes → List Char
  | [] => []
  | b :: rest =>
    match firstChar? (b :: rest) with
    | some c => escape '"' c ++ escapeBytes (rest.drop (c.utf8Size - 1))
    | none => ['\\', 'x'] ++ (Nat.toDigits 16 b.toNat).map Char.toUpper ++ escapeBytes rest
termination_by bytes => bytes.length
decreasing_by
  · simp only [List.length_drop, List.length_cons]
    omega
  · simp

/-- A byte string between quotation marks. -/
def quoteBytes (bytes : Bytes) : String := String.ofList ('"' :: escapeBytes bytes ++ ['"'])

end SecretCodec.Text

import SecretCodec.Hex
import SecretCodec.Text.Utf16

/-!
# The tokens of JSON

A JSON text is a sequence of tokens with white space between them. A string token is kept as the
code units it denotes, so that raw characters and escapes make no difference and an unpaired
surrogate is no obstacle until the text is asked for. A number token is kept as it is spelled.
-/

namespace SecretCodec.Json

/-- The code units that a string denotes. -/
abbrev Units := List UInt16

/-- A token. -/
inductive Token where
  | openBrace
  | closeBrace
  | openBracket
  | closeBracket
  | colon
  | comma
  | null
  | truth (value : Bool)
  | number (spelling : List Char)
  | string (units : Units)
  deriving DecidableEq, Repr

/-- Whether a character is white space between tokens. -/
def isSpace (c : Char) : Bool := c = ' ' || c = '\t' || c = '\n' || c = '\r'

/-- The code unit that four hexadecimal digits denote. -/
def hexUnit? (a b c d : Char) : Option UInt16 := do
  let a ← Hex.value? a.toNat
  let b ← Hex.value? b.toNat
  let c ← Hex.value? c.toNat
  let d ← Hex.value? d.toNat
  return UInt16.ofNat (((a * 16 + b) * 16 + c) * 16 + d)

/-- The code unit that a backslash and one character denote. -/
def shortEscape? (c : Char) : Option UInt16 :=
  match c with
  | '"' => some 0x22
  | '\\' => some 0x5C
  | '/' => some 0x2F
  | 'b' => some 0x08
  | 'f' => some 0x0C
  | 'n' => some 0x0A
  | 'r' => some 0x0D
  | 't' => some 0x09
  | _ => none

/-- The rest of a string token after its opening mark, and what follows the token. Control
characters have to be escaped. -/
def readString : List Char → Option (Units × List Char)
  | [] => none
  | c :: rest =>
    if c = '"' then some ([], rest)
    else if c = '\\' then
      match rest with
      | [] => none
      | e :: rest =>
        if e = 'u' then
          match rest with
          | h₁ :: h₂ :: h₃ :: h₄ :: rest => do
            let unit ← hexUnit? h₁ h₂ h₃ h₄
            let (units, rest) ← readString rest
            return (unit :: units, rest)
          | _ => none
        else do
          let unit ← shortEscape? e
          let (units, rest) ← readString rest
          return (unit :: units, rest)
    else if c.toNat < 0x20 then none
    else do
      let (units, rest) ← readString rest
      return (Text.Utf16.units c ++ units, rest)

/-- One or more digits at the front, and what follows them. -/
def readDigits (cs : List Char) : Option (List Char × List Char) :=
  match cs.takeWhile Char.isDigit with
  | [] => none
  | digits => some (digits, cs.dropWhile Char.isDigit)

/-- The integer part of a number: a zero alone, or digits that start with another one. -/
def readInteger (cs : List Char) : Option (List Char × List Char) :=
  match cs with
  | '0' :: rest => some (['0'], rest)
  | _ => readDigits cs

/-- The fraction of a number: nothing, or a point and digits. -/
def readFraction (cs : List Char) : Option (List Char × List Char) :=
  match cs with
  | '.' :: rest => do
    let (digits, rest) ← readDigits rest
    return ('.' :: digits, rest)
  | _ => some ([], cs)

/-- The sign of an exponent, which may be absent. -/
def readSign (cs : List Char) : List Char × List Char :=
  match cs with
  | '+' :: rest => (['+'], rest)
  | '-' :: rest => (['-'], rest)
  | _ => ([], cs)

/-- The exponent of a number: nothing, or a letter, a sign and digits. -/
def readExponent (cs : List Char) : Option (List Char × List Char) :=
  match cs with
  | [] => some ([], [])
  | c :: rest =>
    if c = 'e' ∨ c = 'E' then do
      let (sign, rest) := readSign rest
      let (digits, rest) ← readDigits rest
      return (c :: sign ++ digits, rest)
    else some ([], cs)

/-- A number without its sign, and what follows it. -/
def readUnsigned (cs : List Char) : Option (List Char × List Char) := do
  let (integer, cs) ← readInteger cs
  let (fraction, cs) ← readFraction cs
  let (exponent, cs) ← readExponent cs
  return (integer ++ fraction ++ exponent, cs)

/-- A token whose spelling goes on with the given letters, and what follows it. -/
def readWord (rest letters : List Char) (token : Token) : Option (Token × List Char) :=
  if letters.isPrefixOf rest then some (token, rest.drop letters.length) else none

/-- The token that starts with `c`, and what follows it. -/
def readToken (c : Char) (rest : List Char) : Option (Token × List Char) :=
  match c with
  | '{' => some (.openBrace, rest)
  | '}' => some (.closeBrace, rest)
  | '[' => some (.openBracket, rest)
  | ']' => some (.closeBracket, rest)
  | ':' => some (.colon, rest)
  | ',' => some (.comma, rest)
  | '"' => (readString rest).map fun read => (.string read.1, read.2)
  | '-' => (readUnsigned rest).map fun read => (.number ('-' :: read.1), read.2)
  | 'n' => readWord rest ['u', 'l', 'l'] .null
  | 't' => readWord rest ['r', 'u', 'e'] (.truth true)
  | 'f' => readWord rest ['a', 'l', 's', 'e'] (.truth false)
  | _ => (readUnsigned (c :: rest)).map fun read => (.number read.1, read.2)

end SecretCodec.Json

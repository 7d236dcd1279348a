import SecretCodec.Json.Value

/-!
# The grammar of JSON

What a document is, whatever reads it: the spellings of a number, of a string and of every other
token, a text as spelled tokens with white space around them, and a document as a text that spells
the tokens of one value (`IsDocument`). How deeply that value is nested does not matter.
-/

namespace SecretCodec.Json

/-! ### Numbers -/

/-- One or more decimal digits. -/
def AreDigits (cs : List Char) : Prop := cs ≠ [] ∧ ∀ c ∈ cs, c.isDigit

/-- The integer part of a number: a zero alone, or digits without a leading zero. -/
def IsInteger (cs : List Char) : Prop := cs = ['0'] ∨ AreDigits cs ∧ cs.head? ≠ some '0'

/-- The fraction of a number: nothing, or a point and digits. -/
def IsFraction (cs : List Char) : Prop := cs = [] ∨ ∃ digits, cs = '.' :: digits ∧ AreDigits digits

/-- The exponent of a number: nothing, or a letter, at most one sign and digits. -/
def IsExponent (cs : List Char) : Prop :=
  cs = [] ∨ ∃ letter sign digits, cs = letter :: sign ++ digits ∧ (letter = 'e' ∨ letter = 'E') ∧
    sign ∈ [[], ['+'], ['-']] ∧ AreDigits digits

/-- A number without its sign. -/
def IsUnsigned (cs : List Char) : Prop :=
  ∃ integer fraction exponent, cs = integer ++ fraction ++ exponent ∧ IsInteger integer ∧
    IsFraction fraction ∧ IsExponent exponent

/-- The spelling of a number. -/
def IsNumber (cs : List Char) : Prop :=
  IsUnsigned cs ∨ ∃ unsigned, cs = '-' :: unsigned ∧ IsUnsigned unsigned

/-! ### Strings -/

/-- The characters that may follow a backslash, with the code units that the two denote. -/
def escapes : List (Char × UInt16) := [
  ('"', 0x22), ('\\', 0x5C), ('/', 0x2F), ('b', 0x08), ('f', 0x0C), ('n', 0x0A), ('r', 0x0D),
  ('t', 0x09)]

/-- Whether four hexadecimal digits are a numeral of a code unit. -/
def IsHexOf (a b c d : Char) (unit : UInt16) : Prop :=
  ∃ i j k l, Hex.value? a.toNat = some i ∧ Hex.value? b.toNat = some j ∧
    Hex.value? c.toNat = some k ∧ Hex.value? d.toNat = some l ∧
    unit.toNat = 4096 * i + 256 * j + 16 * k + l

/-- Whether characters between the marks of a string denote code units. Every character stands for
itself but the marks, the backslash and the control characters, and any unit may be escaped. -/
inductive Denotes : List Char → Units → Prop
  | nil : Denotes [] []
  | raw {c : Char} {cs : List Char} {units : Units} (mark : c ≠ '"') (backslash : c ≠ '\\')
      (control : 0x20 ≤ c.toNat) (rest : Denotes cs units) :
      Denotes (c :: cs) (Text.Utf16.units c ++ units)
  | short {e : Char} {unit : UInt16} {cs : List Char} {units : Units} (known : (e, unit) ∈ escapes)
      (rest : Denotes cs units) : Denotes ('\\' :: e :: cs) (unit :: units)
  | hex {a b c d : Char} {unit : UInt16} {cs : List Char} {units : Units}
      (digits : IsHexOf a b c d unit) (rest : Denotes cs units) :
      Denotes ('\\' :: 'u' :: a :: b :: c :: d :: cs) (unit :: units)

/-! ### Documents -/

/-- Whether characters are a spelling of a token. -/
def Token.IsSpelled (cs : List Char) : Token → Prop
  | .openBrace => cs = ['{']
  | .closeBrace => cs = ['}']
  | .openBracket => cs = ['[']
  | .closeBracket => cs = [']']
  | .colon => cs = [':']
  | .comma => cs = [',']
  | .null => cs = ['n', 'u', 'l', 'l']
  | .truth true => cs = ['t', 'r', 'u', 'e']
  | .truth false => cs = ['f', 'a', 'l', 's', 'e']
  | .number spelling => cs = spelling ∧ IsNumber spelling
  | .string units => ∃ between, cs = '"' :: between ++ ['"'] ∧ Denotes between units

/-- Whether a text spells tokens, with white space before, between and after them. -/
inductive Spells : List Char → List Token → Prop
  | nil {blanks : List Char} (space : ∀ c ∈ blanks, isSpace c) : Spells blanks []
  | cons {blanks cs rest : List Char} {token : Token} {tokens : List Token}
      (space : ∀ c ∈ blanks, isSpace c) (spelled : token.IsSpelled cs)
      (more : Spells rest tokens) : Spells (blanks ++ cs ++ rest) (token :: tokens)

/-- Whether a text is a document for a value: the value's tokens and nothing but white space around
them. -/
def IsDocument (text : String) (v : Value) : Prop := Spells text.toList v.tokens

/-- White space before a text changes nothing. -/
theorem Spells.cons_space {c : Char} {cs : List Char} {tokens : List Token} (space : isSpace c)
    (h : Spells cs tokens) : Spells (c :: cs) tokens := by
  have front : ∀ {blanks : List Char}, (∀ b ∈ blanks, isSpace b) →
      ∀ b ∈ c :: blanks, isSpace b :=
    fun blank => List.forall_mem_cons.2 ⟨space, blank⟩
  cases h with
  | nil blank => exact .nil (front blank)
  | cons blank spelled more => exact .cons (front blank) spelled more

end SecretCodec.Json

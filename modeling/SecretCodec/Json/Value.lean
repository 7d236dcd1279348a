import SecretCodec.Json.Token

/-!
# JSON values

A value is kept as it was written, up to white space and escapes: numbers as they were spelled,
objects with all their members in order, repeated names included. `tokens` writes a value, so a
sequence of tokens stands for at most the values whose tokens they are.
-/

namespace SecretCodec.Json

/-- A JSON value. -/
inductive Value where
  | null
  | truth (value : Bool)
  | number (spelling : List Char)
  | string (units : Units)
  | array (items : List Value)
  | object (members : List (Units × Value))

mutual

/-- The tokens of a value. -/
def Value.tokens : Value → List Token
  | .null => [.null]
  | .truth value => [.truth value]
  | .number spelling => [.number spelling]
  | .string units => [.string units]
  | .array items => .openBracket :: itemTokens items ++ [.closeBracket]
  | .object members => .openBrace :: memberTokens members ++ [.closeBrace]

/-- The tokens of the items of an array, with commas between them. -/
def itemTokens : List Value → List Token
  | [] => []
  | [item] => item.tokens
  | item :: items => item.tokens ++ .comma :: itemTokens items

/-- The tokens of the members of an object, with commas between them. -/
def memberTokens : List (Units × Value) → List Token
  | [] => []
  | [(name, value)] => .string name :: .colon :: value.tokens
  | (name, value) :: members =>
    .string name :: .colon :: value.tokens ++ .comma :: memberTokens members

end

namespace Value

/-- The text that a string denotes, unless a surrogate in it stands alone. -/
def textOf? (units : Units) : Option String := (Text.Utf16.decode? units).map String.ofList

/-- A value that is a text. -/
def text? : Value → Option String
  | .string units => textOf? units
  | _ => none

/-- A value that is a text or null. -/
def textOrNull? : Value → Option (Option String)
  | .null => some none
  | value => value.text?.map some

/-- The members of an object under names that are texts, unless a name is not. -/
def named? (members : List (Units × Value)) : Option (List (String × Value)) :=
  members.mapM fun member => (textOf? member.1).map (·, member.2)

/-- What an object has under a name: nothing or one value. A repeated name gives no answer. -/
def unique? (members : List (String × Value)) (name : String) : Option (Option Value) :=
  match members.filter (·.1 = name) with
  | [] => some none
  | [member] => some (some member.2)
  | _ => none

/-- The values of a record with the given fields. A record is an object, in which fields may be
missing and other members are ignored, or an array of exactly the values of all fields in order. -/
def record? (fields : List String) : Value → Option (List (Option Value))
  | .object members => do
    let members ← named? members
    fields.mapM (unique? members)
  | .array items => if items.length = fields.length then some (items.map some) else none
  | _ => none

end Value

end SecretCodec.Json

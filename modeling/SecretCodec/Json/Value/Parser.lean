import SecretCodec.Json.Token.Lexer
import SecretCodec.Json.Value

/-!
# Reading JSON values

A value is read token by token, with a stack of the arrays and objects that are still open, so there
is no limit on how deeply values are nested. A state of the reading says what has been read, and so
which tokens may come next.
-/

namespace SecretCodec.Json

/-- An array or object that is still open: what it has so far, last first, and for an object the
name of the member whose value comes next. -/
inductive Frame where
  | array (items : List Value)
  | object (members : List (Units × Value)) (name : Units)

/-- What has been read, and so what may come next. -/
inductive State where
  /-- A value comes next. -/
  | start (stack : List Frame)
  /-- The first item of an array comes next, or its end. -/
  | firstItem (stack : List Frame)
  /-- The first name of an object comes next, or its end. -/
  | firstName (stack : List Frame)
  /-- A further name of an object comes next. -/
  | nextName (members : List (Units × Value)) (stack : List Frame)
  /-- The colon after a name comes next. -/
  | colon (members : List (Units × Value)) (name : Units) (stack : List Frame)
  /-- A value is complete. -/
  | complete (value : Value) (stack : List Frame)

namespace State

/-- The state after the first token of a value. -/
def enter (stack : List Frame) : Token → Option State
  | .null => some (.complete .null stack)
  | .truth value => some (.complete (.truth value) stack)
  | .number spelling => some (.complete (.number spelling) stack)
  | .string units => some (.complete (.string units) stack)
  | .openBracket => some (.firstItem stack)
  | .openBrace => some (.firstName stack)
  | _ => none

/-- The state after one more token. -/
def step : State → Token → Option State
  | .start stack, token => enter stack token
  | .firstItem stack, .closeBracket => some (.complete (.array []) stack)
  | .firstItem stack, token => enter (.array [] :: stack) token
  | .firstName stack, .closeBrace => some (.complete (.object []) stack)
  | .firstName stack, .string name => some (.colon [] name stack)
  | .nextName members stack, .string name => some (.colon members name stack)
  | .colon members name stack, .colon => some (.start (.object members name :: stack))
  | .complete value (.array items :: stack), .comma =>
    some (.start (.array (value :: items) :: stack))
  | .complete value (.array items :: stack), .closeBracket =>
    some (.complete (.array (value :: items).reverse) stack)
  | .complete value (.object members name :: stack), .comma =>
    some (.nextName ((name, value) :: members) stack)
  | .complete value (.object members name :: stack), .closeBrace =>
    some (.complete (.object ((name, value) :: members).reverse) stack)
  | _, _ => none

/-- The state after a sequence of tokens. -/
def run : State → List Token → Option State
  | s, [] => some s
  | s, token :: tokens =>
    match s.step token with
    | some next => next.run tokens
    | none => none

end State

/-- The value that a sequence of tokens stands for. -/
def Value.ofTokens? (tokens : List Token) : Option Value :=
  match (State.start []).run tokens with
  | some (.complete value []) => some value
  | _ => none

/-- The value that a text stands for. -/
def Value.parse (text : String) : Option Value := (lex text.toList).bind ofTokens?

end SecretCodec.Json

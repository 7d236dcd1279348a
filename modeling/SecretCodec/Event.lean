/-!
# Events

What an operator may want to know is reported beside a result, in the order in which it happened.
-/

namespace SecretCodec

/-- How important an event is. -/
inductive Level where
  | debug
  | info
  | warn
  deriving DecidableEq, Repr

/-- A reported event: a fixed message, and named details as text. -/
structure Event where
  level : Level
  message : String
  fields : List (String × String)
  deriving DecidableEq, Repr

/-- A result with the events that led to it. -/
structure Logged (α : Type) where
  value : α
  events : List Event := []

/-- How a truth value is written in an event. -/
def truthText (b : Bool) : String := if b then "true" else "false"

end SecretCodec

/-
# Amend.Event — what is logged

An event has a level, a message and fields of its own.  Field values are texts,
apart from the number of parameters.
-/
import Amend.Duration
import Amend.Link.Fault

set_option autoImplicit false

namespace Amend

/-- How much an event matters. -/
inductive Level where
  | debug
  | warn
  deriving DecidableEq, Repr

inductive FieldValue where
  | text (s : String)
  | number (n : Nat)
  deriving DecidableEq, Repr

/-- Something worth a line in the log. -/
inductive Event where
  /-- A commit without a row. -/
  | nothingToUpdate (table : String)
  /-- A statement that writes every row of its table. -/
  | unrestricted (sql : String)
  | executing (sql : String) (paramCount : Nat) (timeout : Option Duration)
  | opening (database : String)
  | connectionEnded (fault : Link.Fault)
  | timedOut (after : Duration)
  | cancelFailed (fault : Link.Fault)
  deriving DecidableEq, Repr

namespace Event

/-- The level of an event; a warning is for what should not happen often. -/
def level : Event → Level
  | .nothingToUpdate _ | .executing _ _ _ | .opening _ => .debug
  | .unrestricted _ | .connectionEnded _ | .timedOut _ | .cancelFailed _ => .warn

/-- The line of an event, which is the same for all events of a kind. -/
def message : Event → String
  | .nothingToUpdate _ => "no entity supplied, nothing to update"
  | .unrestricted _ => "update has no WHERE clause and will touch every row"
  | .executing _ _ _ => "executing update"
  | .opening _ => "opening connection"
  | .connectionEnded _ => "connection task ended with an error"
  | .timedOut _ => "update timed out, cancelling"
  | .cancelFailed _ => "failed to cancel timed out update"

/-- The fields beside the message. -/
def fields : Event → List (String × FieldValue)
  | .nothingToUpdate table => [("table", .text table)]
  | .unrestricted sql => [("sql", .text sql)]
  | .executing sql paramCount timeout =>
    [ ("sql", .text sql), ("param_count", .number paramCount),
      ("timeout", .text (Duration.limitText timeout)) ]
  | .opening database => [("database", .text database)]
  | .connectionEnded fault | .cancelFailed fault => [("error", .text fault.message)]
  | .timedOut after => [("timeout", .text after.text)]

end Event

end Amend

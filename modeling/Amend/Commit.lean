/-
# Amend.Commit — executing an update on a connection

A `Connection` is a state machine: it can be asked for its database and whether it
is open, it can be opened, and it can execute a statement; the latter two answer
and leave a new state.  A commit logs the statement, opens the connection if it
is closed, and executes the statement once.  Without a row it does nothing.
-/
import Amend.Event
import Amend.Query

set_option autoImplicit false

namespace Amend

/-- An answer, the state it leaves, and what was logged on the way. -/
structure Reply (σ α : Type) where
  outcome : Except Error α
  state : σ
  events : List Event := []

/-- A connection that statements can be executed on, with states `σ`. -/
structure Connection (σ : Type) where
  /-- The first part of the name of a table. -/
  database : σ → String
  isOpen : σ → Bool
  opened : σ → Reply σ Unit
  /-- Execute a statement with its parameters within a time limit; the number of rows written. -/
  execute : σ → String → List Param → Option Duration → Reply σ Nat

namespace Query

/-- The statement to execute, or nothing without a row; and what is logged before it is. -/
def prepare (q : Query) (database : String) : Except Error (Option Statement) × List Event :=
  if q.row.isNone then (.ok none, [.nothingToUpdate q.table])
  else
    match q.build database with
    | .error e => (.error e, [])
    | .ok s =>
      let warning := if s.hasWhere then [] else [.unrestricted s.sql]
      (.ok (some s), warning ++ [.executing s.sql s.params.length q.config.timeout])

/-- Execute a statement on a connection, opened first if it is closed. -/
def send {σ : Type} (q : Query) (c : Connection σ) (s : Statement) (state : σ) : Reply σ Nat :=
  if c.isOpen state then c.execute state s.sql s.params q.config.timeout
  else
    let opening := c.opened state
    match opening.outcome with
    | .error e => ⟨.error e, opening.state, opening.events⟩
    | .ok () =>
      let execution := c.execute opening.state s.sql s.params q.config.timeout
      { execution with events := opening.events ++ execution.events }

/-- Execute the update on a connection; the number of rows written, zero without a row. -/
def commit {σ : Type} (q : Query) (c : Connection σ) (state : σ) : Reply σ Nat :=
  match q.prepare (c.database state) with
  | (.error e, events) => ⟨.error e, state, events⟩
  | (.ok none, events) => ⟨.ok 0, state, events⟩
  | (.ok (some s), events) =>
    let sent := q.send c s state
    { sent with events := events ++ sent.events }

end Query

end Amend

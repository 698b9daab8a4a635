/-
# Amend.Course — commits step by step

A commit is carried out on a stage: the connection in its state, and behind it all
that was done so far.  There are two ways to commit.  `commitInPlace` calls a
`Connection` and has its answers at once; `commitAsync` calls an `AsyncConnection`
and waits for each answer.  Either looks at the connection again when it is about
to open it, and ends where a call fails.

What a commit logs itself is a deed of its own.  A call stands for the state that
it met the connection in, with what the connection logged meanwhile, so that the
deeds are in the order in which everything happened.
-/
import Amend.Commit
import Amend.Edit
import Amend.Future

set_option autoImplicit false

namespace Amend

/-- Whether a caller waits on the spot or is called back. -/
inductive Mode where
  | blocking
  | async
  deriving DecidableEq, Repr

/-- Something that a commit does. -/
inductive Deed (σ : Type) where
  | logged (event : Event)
  | opened (before : σ) (events : List Event)
  | executed (before : σ) (sql : String) (params : List Param) (timeout : Option Duration)
    (events : List Event)

/-- What is logged by a deed. -/
def Deed.events {σ : Type} : Deed σ → List Event
  | .logged event => [event]
  | .opened _ events | .executed _ _ _ _ events => events

/-- A connection in its state, and what was done. -/
structure Stage (σ : Type) where
  state : σ
  deeds : List (Deed σ) := []

/-- Steps on a stage; a failure keeps what was done before it. -/
abbrev Course (σ α : Type) := Edit (Stage σ) α

namespace Course

variable {σ α : Type}

def state : Course σ σ := return (← get).state

def log (event : Event) : Course σ Unit :=
  modify fun stage => { stage with deeds := stage.deeds ++ [.logged event] }

/-- Take in the reply to a call. -/
def receive (deed : List Event → Deed σ) (r : Reply σ α) : Course σ α := do
  modify fun stage => ⟨r.state, stage.deeds ++ [deed r.events]⟩
  Edit.check r.outcome

def opened (c : Connection σ) : Course σ Unit := do
  let before ← state
  receive (.opened before) (c.opened before)

def execute (c : Connection σ) (sql : String) (params : List Param) (timeout : Option Duration) :
    Course σ Nat := do
  let before ← state
  receive (.executed before sql params timeout) (c.execute before sql params timeout)

/-- The reply that has come of steps, with all that was logged on the way. -/
def ended : EStateM.Result Error (Stage σ) α → Reply σ α
  | .ok a stage => ⟨.ok a, stage.state, stage.deeds.flatMap Deed.events⟩
  | .error e stage => ⟨.error e, stage.state, stage.deeds.flatMap Deed.events⟩

/-- The reply that steps come to. -/
def reply (x : Course σ α) (state : σ) : Reply σ α := ended (x.run { state })

end Course

/-! ## Waiting for answers -/

/-- A connection whose answers are futures. -/
structure AsyncConnection (σ : Type) where
  database : σ → String
  isOpen : σ → Bool
  opened : σ → Future (Reply σ Unit)
  execute : σ → String → List Param → Option Duration → Future (Reply σ Nat)

/-- An async connection whose every answer is waited for on the spot. -/
def AsyncConnection.blocking {σ : Type} (c : AsyncConnection σ) : Connection σ where
  database := c.database
  isOpen := c.isOpen
  opened state := (c.opened state).wait
  execute state sql params timeout := (c.execute state sql params timeout).wait

/-- A connection whose answers take some polls. -/
def Connection.awaited {σ : Type} (c : Connection σ) (polls : σ → Nat) : AsyncConnection σ where
  database := c.database
  isOpen := c.isOpen
  opened state := .after (c.opened state) (polls state)
  execute state sql params timeout := .after (c.execute state sql params timeout) (polls state)

/-- To wait for answers on the spot is to have them at once. -/
@[simp] theorem Connection.blocking_awaited {σ : Type} (c : Connection σ) (polls : σ → Nat) :
    (c.awaited polls).blocking = c := by
  simp [AsyncConnection.blocking, Connection.awaited]

/-- Steps on a stage, some of which wait for an answer. -/
def AsyncCourse (σ α : Type) := Stage σ → Future (EStateM.Result Error (Stage σ) α)

namespace AsyncCourse

variable {σ α β : Type}

/-- Steps that wait for nothing. -/
def lift (x : Course σ α) : AsyncCourse σ α := fun stage => .ready (x.run stage)

/-- Go on after steps that have not failed. -/
def bind (x : AsyncCourse σ α) (f : α → AsyncCourse σ β) : AsyncCourse σ β := fun stage => do
  match ← x stage with
  | .ok a stage => f a stage
  | .error e stage => return .error e stage

instance : Monad (AsyncCourse σ) where
  pure a := lift (pure a)
  bind := bind

def state : AsyncCourse σ σ := lift Course.state

def receive (deed : List Event → Deed σ) (r : Reply σ α) : AsyncCourse σ α :=
  lift (Course.receive deed r)

/-- Wait for an answer. -/
def await (future : Future α) : AsyncCourse σ α := fun stage =>
  future >>= fun a => .ready (.ok a stage)

def opened (c : AsyncConnection σ) : AsyncCourse σ Unit := do
  let before ← state
  receive (.opened before) (← await (c.opened before))

def execute (c : AsyncConnection σ) (sql : String) (params : List Param)
    (timeout : Option Duration) : AsyncCourse σ Nat := do
  let before ← state
  receive (.executed before sql params timeout) (← await (c.execute before sql params timeout))

/-- Steps whose every answer is waited for on the spot. -/
def wait (x : AsyncCourse σ α) : Course σ α := fun stage => (x stage).wait

end AsyncCourse

/-! ## Commits -/

namespace Query

variable {σ : Type}

/-- The statement to execute, or nothing without a row, logged before it is executed. -/
def announce (q : Query) (database : String) : Course σ (Option Statement) := do
  if q.row.isNone then
    Course.log (.nothingToUpdate q.table)
    return none
  let s ← Edit.check (q.build database)
  if !s.hasWhere then Course.log (.unrestricted s.sql)
  Course.log (.executing s.sql s.params.length q.config.timeout)
  return some s

/-- Execute the update on a connection, opened first if it is closed. -/
def commitInPlace (q : Query) (c : Connection σ) : Course σ Nat := do
  let some s ← q.announce (c.database (← Course.state)) | return 0
  if !c.isOpen (← Course.state) then Course.opened c
  Course.execute c s.sql s.params q.config.timeout

/-- Execute the update on an async connection, opened first if it is closed. -/
def commitAsync (q : Query) (c : AsyncConnection σ) : AsyncCourse σ Nat := do
  let some s ← AsyncCourse.lift (q.announce (c.database (← AsyncCourse.state))) | return 0
  if !c.isOpen (← AsyncCourse.state) then AsyncCourse.opened c
  AsyncCourse.execute c s.sql s.params q.config.timeout

end Query

end Amend

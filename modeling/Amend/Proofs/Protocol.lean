/-
# Amend.Proofs.Protocol — what a commit does to its connection

A run of commits on one connection, each in either way, leaves a record of each:
the state that it met the connection in, its deeds in order, and its outcome.
`Obeys` says of a record what was done and what was not.  A commit that has no
statement touches nothing; another one logs its statement, opens the connection
once if it is closed, and executes once unless that fails.

The two ways to commit are written apart.  With each answer waited for on the spot
the async one is the other (`wait_commitAsync`), so that which of them is used
shows in no deed and no outcome.  `commit` is what they come to
(`reply_commitInPlace`).
-/
import Amend.Proofs.History
import Amend.Proofs.InPlace
import Amend.Rehearsal.Recorder

set_option autoImplicit false

namespace Amend

variable {σ α β : Type}

/-! ## Steps -/

namespace Course

@[simp] theorem run_state (stage : Stage σ) : state.run stage = .ok stage.state stage := rfl

@[simp] theorem run_log (event : Event) (stage : Stage σ) :
    (log event).run stage = .ok () ⟨stage.state, stage.deeds ++ [.logged event]⟩ := rfl

@[simp] theorem run_receive (deed : List Event → Deed σ) (r : Reply σ α) (stage : Stage σ) :
    (receive deed r).run stage = match r.outcome with
      | .ok a => .ok a ⟨r.state, stage.deeds ++ [deed r.events]⟩
      | .error e => .error e ⟨r.state, stage.deeds ++ [deed r.events]⟩ :=
  Edit.run_check r.outcome _

theorem run_opened (c : Connection σ) (stage : Stage σ) :
    (opened c).run stage = (receive (.opened stage.state) (c.opened stage.state)).run stage := rfl

theorem run_execute (c : Connection σ) (sql : String) (params : List Param)
    (timeout : Option Duration) (stage : Stage σ) :
    (execute c sql params timeout).run stage
      = (receive (.executed stage.state sql params timeout)
        (c.execute stage.state sql params timeout)).run stage := rfl

end Course

/-! ## Both ways -/

namespace AsyncCourse

theorem wait_bind (x : AsyncCourse σ α) (f : α → AsyncCourse σ β) :
    (x >>= f).wait = x.wait >>= fun a => (f a).wait := by
  funext stage
  refine (Future.wait_bind (x stage) _).trans ?_
  show _ = EStateM.bind x.wait (fun a => (f a).wait) stage
  unfold EStateM.bind wait
  cases (x stage).wait <;> rfl

theorem wait_await (future : Future α) :
    (await future : AsyncCourse σ α).wait = pure future.wait := by
  funext stage
  exact Future.wait_bind future _

theorem wait_opened (c : AsyncConnection σ) : (opened c).wait = Course.opened c.blocking := by
  simp only [opened, wait_bind, wait_await, pure_bind]
  rfl

theorem wait_execute (c : AsyncConnection σ) (sql : String) (params : List Param)
    (timeout : Option Duration) :
    (execute c sql params timeout).wait = Course.execute c.blocking sql params timeout := by
  simp only [execute, wait_bind, wait_await, pure_bind]
  rfl

end AsyncCourse

namespace Query

/-- **Waited for on the spot, an async commit is a commit in place.** -/
theorem wait_commitAsync (q : Query) (c : AsyncConnection σ) :
    (q.commitAsync c).wait = q.commitInPlace c.blocking := by
  -- The steps are the same one by one; those that are lifted wait for nothing.
  unfold commitAsync commitInPlace
  rw [AsyncCourse.wait_bind]
  refine bind_congr fun database => ?_
  rw [AsyncCourse.wait_bind]
  refine bind_congr fun announced => ?_
  cases announced with
  | none => rfl
  | some s =>
      dsimp only
      rw [AsyncCourse.wait_bind]
      refine bind_congr fun state => ?_
      have sends := AsyncCourse.wait_execute c s.sql s.params q.config.timeout
      show AsyncCourse.wait (if (!c.isOpen state) = true then _ else _)
        = if (!c.isOpen state) = true then _ else _
      split
      · rw [AsyncCourse.wait_bind, AsyncCourse.wait_opened]
        exact bind_congr fun _ => sends
      · exact sends

end Query

/-! ## A commit in place -/

namespace Query

/-- What is logged before a statement is executed: without a condition there is a warning. -/
def announcement (q : Query) (s : Statement) : List Event :=
  (if q.predicates.size = 0 then [.unrestricted s.sql] else [])
    ++ [.executing s.sql s.params.length q.config.timeout]

/-- A statement has a clause for each condition. -/
theorem hasWhere_of_build {q : Query} {database : String} {s : Statement}
    (built : q.build database = .ok s) : s.hasWhere = !decide (q.predicates.size = 0) := by
  obtain ⟨row, table, p, -, -, made, rfl⟩ := plan_of_build built
  obtain ⟨-, -, -, clauses⟩ := parts_of_assemble made
  have count : p.clauses.length = q.predicates.size := by
    -- Mapping and sorting keep the number of conditions, and each has its clause.
    rw [← clauses.length_eq, source, ordered_mapped, Mapping.apply, List.length_map,
      Predicates.ordered, (Condition.perm_sorted _).length_eq, List.length_append,
      List.length_append, Predicates.size]
  rw [Plan.statement, ← count]
  cases p.clauses <;> rfl

theorem run_announce (q : Query) (database : String) (stage : Stage σ) :
    (q.announce database).run stage =
      if q.row.isNone then
        .ok none ⟨stage.state, stage.deeds ++ [.logged (.nothingToUpdate q.table)]⟩
      else match q.build database with
        | .error e => .error e stage
        | .ok s => .ok (some s) ⟨stage.state, stage.deeds ++ (q.announcement s).map .logged⟩ := by
  unfold announce announcement
  cases q.row.isNone with
  | true => rfl
  | false =>
      simp only [Bool.false_eq_true, if_false, EStateM.run_bind, Edit.run_check]
      cases built : q.build database with
      | error e => rfl
      | ok s =>
          have written := hasWhere_of_build built
          by_cases none_ : q.predicates.size = 0 <;> simp [written, none_, -bind_pure_comp]

/-- A commit on a connection that was not touched yet. -/
theorem run_commitInPlace (q : Query) (c : Connection σ) (state : σ) :
    (q.commitInPlace c).run { state } =
      if q.row.isNone then .ok 0 ⟨state, [.logged (.nothingToUpdate q.table)]⟩
      else match q.build (c.database state) with
        | .error e => .error e ⟨state, []⟩
        | .ok s =>
          let sends := Course.execute c s.sql s.params q.config.timeout
          let announced := (q.announcement s).map .logged
          if c.isOpen state then sends.run ⟨state, announced⟩
          else
            let opening := c.opened state
            let opened := announced ++ [.opened state opening.events]
            match opening.outcome with
            | .error e => .error e ⟨opening.state, opened⟩
            | .ok () => sends.run ⟨opening.state, opened⟩ := by
  unfold commitInPlace
  simp only [EStateM.run_bind, Course.run_state, run_announce]
  cases q.row.isNone with
  | true => rfl
  | false =>
      cases q.build (c.database state) with
      | error e => rfl
      | ok s =>
          cases isOpen : c.isOpen state with
          | true => simp [isOpen]
          | false =>
              simp only [isOpen, Bool.not_false, if_true, Bool.false_eq_true, if_false,
                EStateM.run_bind, Course.run_state, Course.run_opened, Course.run_receive,
                List.nil_append]
              cases (c.opened state).outcome <;> rfl

theorem flatMap_logged (events : List Event) :
    (events.map (Deed.logged : Event → Deed σ)).flatMap Deed.events = events := by
  simp [List.flatMap_map, Deed.events]

theorem ended_execute (c : Connection σ) (sql : String) (params : List Param)
    (timeout : Option Duration) (stage : Stage σ) :
    Course.ended ((Course.execute c sql params timeout).run stage)
      = { c.execute stage.state sql params timeout with
        events := stage.deeds.flatMap Deed.events
          ++ (c.execute stage.state sql params timeout).events } := by
  rw [Course.run_execute, Course.run_receive]
  cases outcome : (c.execute stage.state sql params timeout).outcome <;>
    simp [Course.ended, Deed.events, outcome]

/-- **What a commit comes to is what `commit` gives.** -/
theorem reply_commitInPlace (q : Query) (c : Connection σ) (state : σ) :
    (q.commitInPlace c).reply state = q.commit c state := by
  unfold Course.reply commit prepare
  rw [run_commitInPlace]
  cases q.row.isNone with
  | true => rfl
  | false =>
      cases built : q.build (c.database state) with
      | error e => rfl
      | ok s =>
          have announced : q.announcement s = (if s.hasWhere then [] else [.unrestricted s.sql])
              ++ [.executing s.sql s.params.length q.config.timeout] := by
            rw [announcement, hasWhere_of_build built]
            by_cases none_ : q.predicates.size = 0 <;> simp [none_]
          simp only [Bool.false_eq_true, if_false, ← announced, send]
          cases c.isOpen state with
          | true => simp [ended_execute, flatMap_logged]
          | false =>
              cases (c.opened state).outcome with
              | error e => simp [Course.ended, flatMap_logged, Deed.events]
              | ok _ => simp [ended_execute, flatMap_logged, Deed.events]

end Query

/-! ## Runs of commits -/

/-- A connection that can be called in both ways. -/
structure Duplex (σ : Type) where
  blocking : Connection σ
  async : AsyncConnection σ

/-- A commit that was made, with the state that it met the connection in. -/
structure Committed (σ : Type) where
  mode : Mode
  query : Query
  before : σ
  outcome : Except Error Nat
  deeds : List (Deed σ)
  after : σ

def Committed.of (mode : Mode) (q : Query) (before : σ) :
    EStateM.Result Error (Stage σ) Nat → Committed σ
  | .ok n stage => ⟨mode, q, before, .ok n, stage.deeds, stage.state⟩
  | .error e stage => ⟨mode, q, before, .error e, stage.deeds, stage.state⟩

namespace Duplex

/-- The connection as a caller sees it who has each answer before the next call. -/
def seen (d : Duplex σ) : Mode → Connection σ
  | .blocking => d.blocking
  | .async => d.async.blocking

def commit (d : Duplex σ) (mode : Mode) (q : Query) : Course σ Nat :=
  match mode with
  | .blocking => q.commitInPlace d.blocking
  | .async => (q.commitAsync d.async).wait

def committed (d : Duplex σ) (state : σ) (mode : Mode) (q : Query) : Committed σ :=
  .of mode q state ((d.commit mode q).run { state })

/-- The records of commits one after the other. -/
def commits (d : Duplex σ) (state : σ) : List (Mode × Query) → List (Committed σ)
  | [] => []
  | (mode, q) :: rest =>
    let first := d.committed state mode q
    first :: d.commits first.after rest

end Duplex

/-- A statement is executed once, in some state and behind other deeds, and what comes of it is what
comes of the commit. -/
structure Executes (c : Connection σ) (r : Committed σ) (s : Statement) (state : σ)
    (behind : List (Deed σ)) : Prop where
  deeds : r.deeds = behind ++ [.executed state s.sql s.params r.query.config.timeout
    (c.execute state s.sql s.params r.query.config.timeout).events]
  outcome : r.outcome = (c.execute state s.sql s.params r.query.config.timeout).outcome
  after : r.after = (c.execute state s.sql s.params r.query.config.timeout).state

/-- What was done by a commit, and what was not. -/
structure Obeys (c : Connection σ) (r : Committed σ) : Prop where
  /-- Without a row there is nothing to write. -/
  absent : r.query.row = none →
    r.outcome = .ok 0 ∧ r.after = r.before ∧ r.deeds = [.logged (.nothingToUpdate r.query.table)]
  /-- What keeps a statement from being built is the outcome. -/
  refused : ∀ e, r.query.row ≠ none → r.query.build (c.database r.before) = .error e →
    r.outcome = .error e ∧ r.after = r.before ∧ r.deeds = []
  /-- An open connection is not opened. -/
  direct : ∀ s, r.query.build (c.database r.before) = .ok s → c.isOpen r.before = true →
    Executes c r s r.before ((r.query.announcement s).map .logged)
  /-- A closed one is opened once. -/
  opened : ∀ s, r.query.build (c.database r.before) = .ok s → c.isOpen r.before = false →
    (c.opened r.before).outcome = .ok () →
    Executes c r s (c.opened r.before).state ((r.query.announcement s).map .logged
      ++ [.opened r.before (c.opened r.before).events])
  /-- Where that fails, nothing is executed. -/
  unopened : ∀ s e, r.query.build (c.database r.before) = .ok s → c.isOpen r.before = false →
    (c.opened r.before).outcome = .error e →
    r.outcome = .error e ∧ r.after = (c.opened r.before).state
      ∧ r.deeds = (r.query.announcement s).map .logged
        ++ [.opened r.before (c.opened r.before).events]

/-! ## One commit -/

section OneCommit

variable (mode : Mode) (q : Query) (before : σ) (result : EStateM.Result Error (Stage σ) Nat)

@[simp] theorem Committed.mode_of : (Committed.of mode q before result).mode = mode := by
  cases result <;> rfl

@[simp] theorem Committed.query_of : (Committed.of mode q before result).query = q := by
  cases result <;> rfl

@[simp] theorem Committed.before_of : (Committed.of mode q before result).before = before := by
  cases result <;> rfl

/-- An execution is the last deed of its commit. -/
theorem executes_of_run (c : Connection σ) (s : Statement) (state : σ) (behind : List (Deed σ)) :
    Executes c (.of mode q before
      ((Course.execute c s.sql s.params q.config.timeout).run ⟨state, behind⟩)) s state behind := by
  have ran := Course.run_execute c s.sql s.params q.config.timeout ⟨state, behind⟩
  rw [Course.run_receive] at ran
  cases outcome : (c.execute state s.sql s.params q.config.timeout).outcome <;>
    rw [outcome] at ran <;> rw [ran] <;> exact ⟨rfl, outcome.symm, rfl⟩

end OneCommit

namespace Duplex

theorem commit_eq (d : Duplex σ) (mode : Mode) (q : Query) :
    d.commit mode q = q.commitInPlace (d.seen mode) := by
  cases mode with
  | blocking => rfl
  | async => exact q.wait_commitAsync d.async

/-- **A commit obeys the protocol**, in whichever way it is made. -/
theorem obeys_committed (d : Duplex σ) (state : σ) (mode : Mode) (q : Query) :
    Obeys (d.seen mode) (d.committed state mode q) := by
  have present : ∀ {s}, q.build ((d.seen mode).database state) = .ok s → q.row.isNone = false := by
    intro s built
    obtain ⟨row, _, _, there, -⟩ := Query.plan_of_build built
    rw [there]
    rfl
  unfold committed
  -- One case for each way through `run_commitInPlace`.
  rw [commit_eq, Query.run_commitInPlace]
  constructor
  · intro absent
    rw [Committed.query_of] at absent
    simp [absent, Committed.of]
  · intro e there refused
    rw [Committed.query_of] at there refused
    rw [Committed.before_of] at refused
    simp [there, refused, Committed.of]
  · intro s built isOpen
    simp only [Committed.query_of, Committed.before_of] at built isOpen ⊢
    simp only [present built, built, isOpen, if_true, Bool.false_eq_true, if_false]
    exact executes_of_run mode q state _ s state _
  · intro s built closed opened
    simp only [Committed.query_of, Committed.before_of] at built closed opened ⊢
    simp only [present built, built, closed, opened, Bool.false_eq_true, if_false]
    exact executes_of_run mode q state _ s _ _
  · intro s e built closed failed
    simp only [Committed.query_of, Committed.before_of] at built closed failed ⊢
    simp [present built, built, closed, failed, Committed.of]

/-- Where the answers are the same in both ways, only the way of a commit shows in its record. -/
theorem committed_of_same {d : Duplex σ} (same : d.async.blocking = d.blocking) (state : σ)
    (mode mode' : Mode) (q : Query) :
    d.committed state mode' q = { d.committed state mode q with mode := mode' } := by
  have seen : ∀ mode, d.seen mode = d.blocking := fun mode => by
    cases mode with
    | blocking => rfl
    | async => exact same
  unfold committed
  rw [commit_eq, commit_eq, seen, seen]
  cases (q.commitInPlace d.blocking).run { state } <;> rfl

end Duplex

/-- An open that succeeds makes a connection open. -/
def Connection.Opens (c : Connection σ) : Prop :=
  ∀ state, (c.opened state).outcome = .ok () → c.isOpen (c.opened state).state = true

/-- What is executed is executed on an open connection. -/
def Deed.OnOpen (c : Connection σ) : Deed σ → Prop
  | .executed before _ _ _ _ => c.isOpen before = true
  | _ => True

/-- Nothing is executed on a closed connection. -/
theorem Obeys.onOpen {c : Connection σ} {r : Committed σ} (obeys : Obeys c r) (opens : c.Opens) :
    ∀ deed ∈ r.deeds, deed.OnOpen c := by
  have logged : ∀ events : List Event, ∀ deed ∈ events.map Deed.logged, deed.OnOpen c := by
    intro events deed member
    obtain ⟨event, -, rfl⟩ := List.mem_map.1 member
    trivial
  cases row : r.query.row with
  | none => simp [(obeys.absent row).2.2, Deed.OnOpen]
  | some values =>
      cases built : r.query.build (c.database r.before) with
      | error e => simp [(obeys.refused e (by simp [row]) built).2.2]
      | ok s =>
          cases isOpen : c.isOpen r.before with
          | true =>
              rw [(obeys.direct s built isOpen).deeds]
              exact List.forall_mem_append.2 ⟨logged _, by simpa [Deed.OnOpen] using isOpen⟩
          | false =>
              cases opened : (c.opened r.before).outcome with
              | error e =>
                  rw [(obeys.unopened s e built isOpen opened).2.2]
                  exact List.forall_mem_append.2 ⟨logged _, by simp [Deed.OnOpen]⟩
              | ok _ =>
                  have now := opens r.before opened
                  rw [(obeys.opened s built isOpen opened).deeds]
                  refine List.forall_mem_append.2 ⟨?_, by simpa [Deed.OnOpen] using now⟩
                  exact List.forall_mem_append.2 ⟨logged _, by simp [Deed.OnOpen]⟩

/-! ## Runs -/

/-- Each commit meets the connection as the one before has left it. -/
def Threaded (state : σ) : List (Committed σ) → Prop
  | [] => True
  | r :: rest => r.before = state ∧ Threaded r.after rest

namespace Duplex

theorem threaded_commits (d : Duplex σ) (state : σ) (calls : List (Mode × Query)) :
    Threaded state (d.commits state calls) := by
  induction calls generalizing state with
  | nil => trivial
  | cons call rest ih => exact ⟨Committed.before_of _ _ _ _, ih _⟩

theorem map_commits (d : Duplex σ) (state : σ) (calls : List (Mode × Query)) :
    (d.commits state calls).map (fun r => (r.mode, r.query)) = calls := by
  induction calls generalizing state with
  | nil => rfl
  | cons call rest ih =>
      rw [commits, List.map_cons, ih, committed, Committed.mode_of, Committed.query_of]

/-- What holds of each commit holds of those of a run. -/
theorem forall_mem_commits {d : Duplex σ} {P : Committed σ → Prop}
    (each : ∀ state mode q, P (d.committed state mode q)) (state : σ)
    (calls : List (Mode × Query)) : ∀ r ∈ d.commits state calls, P r := by
  induction calls generalizing state with
  | nil => exact List.forall_mem_nil P
  | cons call rest ih => exact List.forall_mem_cons.2 ⟨each state call.1 call.2, ih _⟩

/-- Runs of the same updates on one connection, in ways of their own, have the same records. -/
theorem commits_of_same {d : Duplex σ} (same : d.async.blocking = d.blocking) (state : σ)
    {calls calls' : List (Mode × Query)} (updates : calls'.map Prod.snd = calls.map Prod.snd) :
    List.Forall₂ (fun r r' : Committed σ => r' = { r with mode := r'.mode })
      (d.commits state calls) (d.commits state calls') := by
  induction calls generalizing state calls' with
  | nil =>
      rw [List.map_nil, List.map_eq_nil_iff] at updates
      rw [updates]
      exact .nil
  | cons call rest ih =>
      obtain ⟨call', rest', rfl, here, later⟩ := List.map_eq_cons_iff.1 updates
      obtain ⟨mode, q⟩ := call
      obtain ⟨mode', q'⟩ := call'
      obtain rfl : q' = q := here
      have first := committed_of_same same state mode mode' q'
      have after : (d.committed state mode' q').after = (d.committed state mode q').after := by
        rw [first]
      have way : (d.committed state mode' q').mode = mode' := Committed.mode_of _ _ _ _
      refine .cons (by rw [way]; exact first) ?_
      -- Both connections are left in one state, from which the later commits start.
      rw [after]
      exact ih _ later

end Duplex

/-- **Commits obey the protocol.**  Whatever a connection answers, and in whichever ways updates are
committed on it one after the other: each commit does what `Obeys` asks.  Where an open that
succeeds makes the connection open, no statement is executed on a closed one.  Where the connection
answers the same in both ways, it does not matter which of them is used. -/
theorem commits_obey_protocol (d : Duplex σ) (state : σ) (calls : List (Mode × Query)) :
    (Threaded state (d.commits state calls)
        ∧ (d.commits state calls).map (fun r => (r.mode, r.query)) = calls)
      ∧ (∀ r ∈ d.commits state calls, Obeys (d.seen r.mode) r)
      ∧ ((∀ mode, (d.seen mode).Opens) →
        ∀ r ∈ d.commits state calls, ∀ deed ∈ r.deeds, deed.OnOpen (d.seen r.mode))
      ∧ (d.async.blocking = d.blocking → ∀ calls', calls'.map Prod.snd = calls.map Prod.snd →
        List.Forall₂ (fun r r' : Committed σ => r' = { r with mode := r'.mode })
          (d.commits state calls) (d.commits state calls')) := by
  have obeys : ∀ r ∈ d.commits state calls, Obeys (d.seen r.mode) r := by
    refine Duplex.forall_mem_commits (fun state mode q => ?_) state calls
    rw [Duplex.committed, Committed.mode_of]
    exact d.obeys_committed state mode q
  exact ⟨⟨d.threaded_commits state calls, d.map_commits state calls⟩, obeys,
    fun opens r member => (obeys r member).onOpen (opens r.mode),
    fun same calls' updates => Duplex.commits_of_same same state updates⟩

/-- A recorder opens where its script lets it. -/
theorem recorder_opens (mode : Mode) : (Rehearsal.Recorder.connection mode).Opens := by
  intro r opened
  obtain ⟨database, isOpen, openResults, executeResults, received⟩ := r
  cases openResults with
  | nil => rfl
  | cons result rest =>
      cases result with
      | error e => cases opened
      | ok n => rfl

/-- A recorder that answers the same in both ways, more slowly with each call. -/
def recording : Duplex Rehearsal.Recorder where
  blocking := Rehearsal.Recorder.connection .blocking
  async := (Rehearsal.Recorder.connection .blocking).awaited fun r => r.received.length

/-- A recorder that cannot be opened at first. -/
def reluctant : Rehearsal.Recorder where
  database := "db"
  isOpen := false
  openResults := [.error .closed]
  executeResults := [.ok 3]

/-- An update of every row of a table. -/
def totals : Query :=
  (Query.start { table := "ledger", columns := ["Total"] } (some fun _ => some (.int32 0))).run
    [.addAllColumns]

/-- Commits of it, one of them without a row. -/
def totalsCalls : List (Mode × Query) :=
  [(.async, totals), (.blocking, totals), (.async, { totals with row := none }), (.async, totals)]

theorem totals_obey_protocol :
    (recording.commits reluctant totalsCalls).map Committed.outcome
        = [.error .closed, .ok 3, .ok 0, .ok 1]
      ∧ (∀ r ∈ recording.commits reluctant totalsCalls, Obeys (recording.seen r.mode) r)
      ∧ (∀ r ∈ recording.commits reluctant totalsCalls,
        ∀ deed ∈ r.deeds, deed.OnOpen (recording.seen r.mode))
      ∧ List.Forall₂ (fun r r' : Committed Rehearsal.Recorder => r' = { r with mode := r'.mode })
        (recording.commits reluctant totalsCalls)
        (recording.commits reluctant (totalsCalls.map fun call => (.blocking, call.2))) := by
  obtain ⟨-, obeys, onOpen, same⟩ := commits_obey_protocol recording reluctant totalsCalls
  have waits : recording.async.blocking = recording.blocking := Connection.blocking_awaited _ _
  have opens : ∀ mode, (recording.seen mode).Opens := by
    rintro (_ | _)
    · exact recorder_opens .blocking
    · show recording.async.blocking.Opens
      rw [waits]
      exact recorder_opens .blocking
  exact ⟨rfl, obeys, onOpen opens, same waits _ rfl⟩

end Amend

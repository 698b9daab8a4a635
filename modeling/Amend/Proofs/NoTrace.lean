/-
# Amend.Proofs.NoTrace — a call that fails leaves no trace

A query goes through a history of calls in place: each call meets the query as
the calls before it have left it, those that failed among them.  Nothing in a
history depends on the calls that failed.  Without them the other calls have the
same outcomes and leave the same queries behind, from the first one to the last
(`failed_calls_leave_no_trace`).

The step is `eq_of_error`: a call that fails leaves the whole query as it was.
-/
import Amend.Proofs.InPlace

set_option autoImplicit false

namespace Amend

namespace Edit

variable {σ α : Type}

/-- The state that a change has left, whether it failed or not. -/
def left : EStateM.Result Error σ α → σ
  | .ok _ s => s
  | .error _ s => s

def succeeded : EStateM.Result Error σ α → Bool
  | .ok _ _ => true
  | .error _ _ => false

@[simp] theorem left_ok (a : α) (s : σ) : left (.ok a s) = s := rfl

@[simp] theorem left_error (e : Error) (s : σ) :
    left (.error e s : EStateM.Result Error σ α) = s := rfl

@[simp] theorem succeeded_ok (a : α) (s : σ) : succeeded (.ok a s) = true := rfl

@[simp] theorem succeeded_error (e : Error) (s : σ) :
    succeeded (.error e s : EStateM.Result Error σ α) = false := rfl

end Edit

namespace Query

/-- What comes of each call of a history: its outcome, and the query that it leaves. -/
def trace (q : Query) : List Call → List (EStateM.Result Error Query Unit)
  | [] => []
  | call :: rest =>
    let result := (applyInPlace call).run q
    result :: (Edit.left result).trace rest

/-- The query that a history leaves. -/
def runInPlace (q : Query) (calls : List Call) : Query :=
  calls.foldl (fun q call => Edit.left ((applyInPlace call).run q)) q

/-- The calls of a history that do not fail. -/
def succeeding (q : Query) : List Call → List Call
  | [] => []
  | call :: rest =>
    let result := (applyInPlace call).run q
    let later := (Edit.left result).succeeding rest
    if Edit.succeeded result then call :: later else later

/-- **A call that fails leaves the query as it was.** -/
theorem eq_of_error {q q' : Query} {call : Call} {e : Error}
    (failed : (applyInPlace call).run q = .error e q') : q' = q := by
  cases applied : q.apply call with
  | error e' =>
      rw [run_of_error applied] at failed
      cases failed
      rfl
  | ok next =>
      rw [run_of_ok applied] at failed
      cases failed

theorem succeeding_cons_of_ok {q next : Query} {call : Call}
    (ran : (applyInPlace call).run q = .ok () next) (rest : List Call) :
    q.succeeding (call :: rest) = call :: next.succeeding rest := by
  simp [succeeding, ran]

theorem succeeding_cons_of_error {q : Query} {call : Call} {e : Error}
    (ran : (applyInPlace call).run q = .error e q) (rest : List Call) :
    q.succeeding (call :: rest) = q.succeeding rest := by
  simp [succeeding, ran]

/-- A call in place leaves what `step` gives. -/
theorem left_applyInPlace (q : Query) (call : Call) :
    Edit.left ((applyInPlace call).run q) = q.step call := by
  unfold step
  cases applied : q.apply call with
  | ok next => rw [run_of_ok applied, Edit.left_ok]
  | error e => rw [run_of_error applied, Edit.left_error]

/-- A history in place leaves what `run` gives. -/
theorem runInPlace_eq_run (q : Query) (calls : List Call) : q.runInPlace calls = q.run calls := by
  have same : (fun (q : Query) call => Edit.left ((applyInPlace call).run q)) = step :=
    funext fun q => funext fun call => left_applyInPlace q call
  unfold runInPlace run
  rw [same]

theorem trace_succeeding (q : Query) (calls : List Call) :
    q.trace (q.succeeding calls) = (q.trace calls).filter Edit.succeeded := by
  induction calls generalizing q with
  | nil => rfl
  | cons call rest ih =>
      cases ran : (applyInPlace call).run q with
      | ok _ next => simp [succeeding_cons_of_ok ran, trace, ran, ih next, List.filter_cons]
      | error e next =>
          obtain rfl := eq_of_error ran
          simp [succeeding_cons_of_error ran, trace, ran, ih next]

theorem runInPlace_cons (q : Query) (call : Call) (rest : List Call) :
    q.runInPlace (call :: rest) = (Edit.left ((applyInPlace call).run q)).runInPlace rest := rfl

theorem runInPlace_succeeding (q : Query) (calls : List Call) :
    q.runInPlace (q.succeeding calls) = q.runInPlace calls := by
  induction calls generalizing q with
  | nil => rfl
  | cons call rest ih =>
      cases ran : (applyInPlace call).run q with
      | ok _ next =>
          rw [succeeding_cons_of_ok ran, runInPlace_cons, runInPlace_cons, ran]
          exact ih next
      | error e next =>
          obtain rfl := eq_of_error ran
          rw [succeeding_cons_of_error ran, ih, runInPlace_cons, ran]
          rfl

/-- **Calls that fail leave no trace.**  Without them every other call of a history has the outcome
that it had and leaves the query that it left, and so the history ends in the same query, from which
the same statement is built against each database. -/
theorem failed_calls_leave_no_trace (q : Query) (calls : List Call) :
    q.trace (q.succeeding calls) = (q.trace calls).filter Edit.succeeded
      ∧ q.runInPlace (q.succeeding calls) = q.runInPlace calls
      ∧ ∀ database, (q.runInPlace (q.succeeding calls)).build database
        = (q.runInPlace calls).build database := by
  have same := runInPlace_succeeding q calls
  exact ⟨trace_succeeding q calls, same, fun database => by rw [same]⟩

end Query

end Amend

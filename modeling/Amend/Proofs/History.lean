/-
# Amend.Proofs.History — a query after any calls

Only declarations touch the predicates of a query, so that after any calls they
are those of the declarations among them (`predicates_run`).  A statement that is
built then comes from a plan that was assembled from predicates within reach and
a table of parsed names (`build_eq_ok`).
-/
import Amend.Proofs.Readback
import Amend.Query

set_option autoImplicit false

namespace Amend

def declarations : List Call → List (Joiner × Expr)
  | [] => []
  | .declare joiner expr :: rest => (joiner, expr) :: declarations rest
  | _ :: rest => declarations rest

/-- The declarations among calls that a new query accepts. -/
def acceptedDeclarations (calls : List Call) : List (Joiner × Expr) :=
  ({} : Predicates).accepted (declarations calls)

namespace Query

/-- What a statement of a query on a table and a row is made from. -/
def source (q : Query) (table : QualifiedTable) (row : Row) : Source where
  table := table
  columns := q.columns
  identity := q.identity
  mapping := q.mapping
  predicates := q.predicates.mapped q.mapping
  row := row

/-! ## Predicates -/

theorem predicates_addColumns {q q' : Query} {columns : List String}
    (added : q.addColumns columns = .ok q') : q'.predicates = q.predicates := by
  obtain ⟨staged, -, added⟩ := bind_eq_ok.1 added
  split at added
  · cases added
  · cases added
    rfl

theorem predicates_setIdentity {q q' : Query} {column : String}
    (set : q.setIdentity column = .ok q') : q'.predicates = q.predicates := by
  unfold setIdentity at set
  split at set
  · cases set
  · obtain ⟨i, -, set⟩ := bind_eq_ok.1 set
    split at set
    · cases set
    · cases set
      rfl

/-- A call that is no declaration leaves the predicates alone. -/
theorem predicates_apply {q q' : Query} {call : Call} (applied : q.apply call = .ok q') :
    q'.predicates = (declarations [call]).foldl Predicates.declare q.predicates := by
  cases call with
  | table name =>
      obtain ⟨i, -, applied⟩ := bind_eq_ok.1 applied
      cases applied
      rfl
  | schema name =>
      obtain ⟨i, -, applied⟩ := bind_eq_ok.1 applied
      cases applied
      rfl
  | addColumns columns => exact predicates_addColumns applied
  | addAllColumns => exact predicates_addColumns applied
  | mapColumns mapping =>
      obtain ⟨_, -, applied⟩ := bind_eq_ok.1 applied
      cases applied
      rfl
  | mapColumn property column =>
      obtain ⟨_, -, applied⟩ := bind_eq_ok.1 applied
      cases applied
      rfl
  | configure config =>
      cases applied
      rfl
  | timeoutSeconds seconds =>
      cases applied
      rfl
  | dialect dialect =>
      cases applied
      rfl
  | identity column => exact predicates_setIdentity applied
  | entityIdentity =>
      simp only [apply] at applied
      split at applied
      · exact predicates_setIdentity applied
      · cases applied
        rfl
  | declare joiner expr =>
      obtain ⟨⟨predicates, n⟩, added, applied⟩ := bind_eq_ok.1 applied
      cases applied
      simp [declarations, Predicates.declare, added]

/-- A call that fails has no declaration that is accepted. -/
theorem predicates_step (q : Query) (call : Call) :
    (q.step call).predicates = (declarations [call]).foldl Predicates.declare q.predicates := by
  unfold step
  cases applied : q.apply call with
  | ok q' => exact predicates_apply applied
  | error e =>
      cases call with
      | declare joiner expr =>
          cases added : q.predicates.add joiner expr with
          | error e' => simp [declarations, Predicates.declare, added]
          | ok result =>
              simp only [apply, added, bind, Except.bind] at applied
              cases applied
      | _ => rfl

theorem declarations_cons (call : Call) (calls : List Call) :
    declarations (call :: calls) = declarations [call] ++ declarations calls := by
  cases call <;> rfl

/-- The predicates of a query take part in its declarations alone. -/
theorem predicates_run (q : Query) (calls : List Call) :
    (q.run calls).predicates = (declarations calls).foldl Predicates.declare q.predicates := by
  induction calls generalizing q with
  | nil => rfl
  | cons call rest ih =>
      rw [declarations_cons, List.foldl_append, ← predicates_step]
      exact ih (q.step call)

/-- The predicates of a new query are those of its declarations. -/
theorem predicates_run_start (entity : Entity) (row : Option Row) (calls : List Call) :
    ((start entity row).run calls).predicates = Predicates.after (declarations calls) :=
  predicates_run (start entity row) calls

/-! ## Statements -/

theorem reached_source {q : Query} {declared : List (Joiner × Expr)}
    (reached : q.predicates = Predicates.after declared) (table : QualifiedTable) (row : Row) :
    Reached declared q.mapping (q.source table row).predicates :=
  congrArg (fun p : Predicates => p.mapped q.mapping) reached

theorem made_of_read {written : String} {i : Ident} (read : Ident.read written = .ok i) :
    i.Made :=
  ⟨written, .inl (Ident.read_eq_ok.1 read)⟩

theorem target_eq_ok {q : Query} {database : String} {table : QualifiedTable}
    (named : q.target database = .ok table) : table.Made := by
  obtain ⟨first, quoted, named⟩ := bind_eq_ok.1 named
  obtain ⟨schema, schemaRead, named⟩ := bind_eq_ok.1 named
  obtain ⟨own, ownRead, named⟩ := bind_eq_ok.1 named
  cases named
  rw [mapError_eq_ok] at quoted
  exact ⟨⟨database, .inr (.inr quoted)⟩, made_of_read schemaRead, made_of_read ownRead⟩

/-- A statement that is built is one of a plan for the row of its query. -/
theorem plan_of_build {q : Query} {database : String} {s : Statement}
    (built : q.build database = .ok s) :
    ∃ row table p, q.row = some row ∧ q.target database = .ok table
      ∧ Plan.assemble (q.source table row) = .ok p ∧ s = p.statement q.config.dialect := by
  obtain ⟨p, planned, built⟩ := bind_eq_ok.1 built
  cases built
  unfold plan at planned
  split at planned
  · cases planned
  · rename_i row present
    obtain ⟨table, named, assembled⟩ := bind_eq_ok.1 planned
    exact ⟨row, table, p, present, named, assembled, rfl⟩

/-- A statement that is built is one of an assembled plan. -/
theorem build_eq_ok {entity : Entity} {row : Option Row} {calls : List Call} {database : String}
    {s : Statement} (built : ((start entity row).run calls).build database = .ok s) :
    ∃ (source : Source) (p : Plan), Assembled source p
      ∧ Reached (declarations calls) source.mapping source.predicates
      ∧ s = p.statement ((start entity row).run calls).config.dialect := by
  obtain ⟨row', table, p, -, named, assembled, same⟩ := plan_of_build built
  have reached := reached_source (predicates_run_start entity row calls) table row'
  exact ⟨_, p, ⟨target_eq_ok named, ⟨_, _, reached⟩, assembled⟩, reached, same⟩

end Query

end Amend

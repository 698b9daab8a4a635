/-
# Amend.Proofs.Indifference — values influence nothing but the values bound

Two runs of the same calls whose rows have values for the same properties, and
whose expressions have `NULL` in the same places, are one run under a veil.  So
they are alike in all that a caller, the log or a connection gets to see before
a statement is executed: `values_influence_nothing` puts it together for the
calls, for `build` and for `commit`.

Of an error its kind, its message and the messages below it are compared; of a
statement its text, its flag and the names of its parameters.
-/
import Amend.Commit
import Amend.Proofs.VeilPlan
import Mathlib.Data.List.Forall2

set_option autoImplicit false

namespace Amend

/-! ## Alike -/

/-- Calls that differ in the values of their expressions alone. -/
inductive Call.Alike : Call → Call → Prop where
  | same (call : Call) : Alike call call
  | declare (joiner : Joiner) {e e' : Expr} (alike : e.Alike e') :
    Alike (.declare joiner e) (.declare joiner e')

/-- Two rows with values for the same properties, or no rows. -/
def RowsAlike : Option Row → Option Row → Prop
  | none, none => True
  | some row, some row' => ∀ property, (row property).isSome = (row' property).isSome
  | _, _ => False

/-- The kinds of errors. -/
inductive Error.Kind where
  | duplicateIdentity
  | unsupportedShape
  | emptyColumnSet
  | parameterCollision
  | missingValue
  | validation
  | connection
  | closed
  | query
  | timeout
  | other
  deriving DecidableEq, Repr

def Error.kind : Error → Error.Kind
  | .duplicateIdentity _ _ => .duplicateIdentity
  | .unsupportedShape _ => .unsupportedShape
  | .emptyColumnSet => .emptyColumnSet
  | .parameterCollision _ => .parameterCollision
  | .missingValue _ => .missingValue
  | .validation _ => .validation
  | .connection _ => .connection
  | .closed => .closed
  | .query _ => .query
  | .timeout _ => .timeout
  | .other _ => .other

/-- Errors of one kind that say the same. -/
structure Error.Alike (e e' : Error) : Prop where
  kind : e.kind = e'.kind
  message : e.message = e'.message
  causes : e.causes = e'.causes

/-- Outcomes that fail alike, or succeed with results in the relation `R`. -/
def OutcomesAlike {α : Type} (R : α → α → Prop) : Except Error α → Except Error α → Prop
  | .ok a, .ok a' => R a a'
  | .error e, .error e' => e.Alike e'
  | _, _ => False

/-- Parameters with the same names in the same order. -/
def ParamsAlike (ps ps' : List Param) : Prop := ps.map Param.name = ps'.map Param.name

/-- Statements that differ in the values of their parameters alone. -/
structure Statement.Alike (s s' : Statement) : Prop where
  sql : s.sql = s'.sql
  hasWhere : s.hasWhere = s'.hasWhere
  params : ParamsAlike s.params s'.params

/-- Queries that differ in the values of their rows and their conditions alone. -/
structure Query.Alike (q q' : Query) : Prop where
  entity : q.entity = q'.entity
  row : q.row.isSome = q'.row.isSome
  table : q.table = q'.table
  schema : q.schema = q'.schema
  columns : q.columns = q'.columns
  mapping : q.mapping = q'.mapping
  identity : q.identity = q'.identity
  config : q.config = q'.config
  conditions : q.predicates.ordered = q'.predicates.ordered
  params : ParamsAlike q.predicates.params.params q'.predicates.params.params

/-- The outcome of each of a list of calls. -/
def Query.outcomes (q : Query) : List Call → List (Except Error Query)
  | [] => []
  | call :: rest => q.apply call :: (q.step call).outcomes rest

/-- A reply behind earlier events. -/
def Reply.behind {σ α : Type} (events : List Event) (r : Reply σ α) : Reply σ α :=
  { r with events := events ++ r.events }

/-- Two commits on a connection that are alike as far as the execution of a statement: both end
without one, or both execute it in the same state of the connection, behind the same events. -/
inductive CommitsAlike {σ : Type} (c : Connection σ) : Reply σ Nat → Reply σ Nat → Prop where
  | ended {o o' : Except Error Nat} (state : σ) (events : List Event)
    (outcome : OutcomesAlike (· = ·) o o') :
    CommitsAlike c ⟨o, state, events⟩ ⟨o', state, events⟩
  | executed (state : σ) (events : List Event) (sql : String) {ps ps' : List Param}
    (limit : Option Duration) (params : ParamsAlike ps ps') :
    CommitsAlike c ((c.execute state sql ps limit).behind events)
      ((c.execute state sql ps' limit).behind events)

/-- A call that changes a connection, with the names of the parameters in place of their values. -/
inductive Ask where
  | opened
  | execute (sql : String) (names : List String) (limit : Option Duration)
  deriving DecidableEq, Repr

/-- A connection that keeps what it is asked. -/
def Connection.recorded {σ : Type} (c : Connection σ) : Connection (σ × List Ask) where
  database s := c.database s.1
  isOpen s := c.isOpen s.1
  opened s :=
    let r := c.opened s.1
    ⟨r.outcome, (r.state, s.2 ++ [.opened]), r.events⟩
  execute s sql params limit :=
    let r := c.execute s.1 sql params limit
    ⟨r.outcome, (r.state, s.2 ++ [.execute sql (params.map Param.name) limit]), r.events⟩

/-- What a commit asks of a connection. -/
def Query.asks {σ : Type} (q : Query) (c : Connection σ) (state : σ) : List Ask :=
  (q.commit c.recorded (state, [])).state.2

/-! ## Queries under a veil -/

/-- A query with the values of its row and its conditions covered. -/
def Query.veil (q : Query) : Query :=
  { q with row := q.row.map Row.veil, predicates := q.predicates.veil }

def Call.veil : Call → Call
  | .declare joiner expr => .declare joiner expr.veil
  | call => call

theorem Call.Alike.veil_eq {call call' : Call} (alike : call.Alike call') :
    call.veil = call'.veil := by
  cases alike with
  | same => rfl
  | declare joiner alike => simp [Call.veil, alike.veil_eq]

theorem RowsAlike.veil_eq {row row' : Option Row} (alike : RowsAlike row row') :
    row.map Row.veil = row'.map Row.veil := by
  cases row with
  | none =>
      cases row' with
      | none => rfl
      | some row' => exact alike.elim
  | some row =>
      cases row' with
      | none => exact alike.elim
      | some row' =>
          have covered : row.veil = row'.veil := by
            funext property
            have same := alike property
            unfold Row.veil
            cases h : row property <;> cases h' : row' property <;> simp_all
          simp [covered]

namespace Query

theorem knows_veil (q : Query) (column : String) : q.veil.knows column = q.knows column := by
  unfold knows veil Row.veil
  cases q.row <;> simp

theorem checkColumn_veil (q : Query) (column : String) :
    q.veil.checkColumn column = veiled id (q.checkColumn column) := by
  refine bind_recast (read_veil column) fun i => ?_
  refine bind_recast (read_veil (q.mapping.resolve column)) fun j => ?_
  rw [knows_veil]
  split <;> rfl

theorem stageColumns_veil (q : Query) (staged columns : List String) :
    q.veil.stageColumns staged columns = veiled id (q.stageColumns staged columns) := by
  induction columns generalizing staged with
  | nil => rfl
  | cons column rest ih =>
      unfold stageColumns
      split
      · exact ih staged
      · exact bind_recast (checkColumn_veil q column) fun _ => ih _

theorem addColumns_veil (q : Query) (columns : List String) :
    q.veil.addColumns columns = veiled veil (q.addColumns columns) := by
  refine bind_recast (stageColumns_veil q q.columns columns) fun staged => ?_
  rw [id_eq, show q.veil.identity = q.identity from rfl]
  split <;> rfl

theorem checkPair_veil (pair : String × String) : checkPair pair = veiled id (checkPair pair) := by
  refine bind_recast (read_veil pair.1) fun i => ?_
  exact bind_recast (read_veil pair.2) fun j => rfl

theorem checkPairs_veil (pairs : List (String × String)) :
    pairs.forM checkPair = veiled id (pairs.forM checkPair) := by
  induction pairs with
  | nil => rfl
  | cons pair rest ih => exact bind_recast (checkPair_veil pair) fun _ => ih

theorem setIdentity_veil (q : Query) (column : String) :
    q.veil.setIdentity column = veiled veil (q.setIdentity column) := by
  unfold setIdentity
  rw [show q.veil.identity = q.identity from rfl]
  cases q.identity with
  | some existing => rfl
  | none =>
      refine bind_recast (read_veil column) fun i => ?_
      rw [show q.veil.columns = q.columns from rfl]
      split <;> rfl

/-- A call is checked and taken in without looking at values. -/
theorem apply_veil (q : Query) (call : Call) :
    q.veil.apply call.veil = veiled veil (q.apply call) := by
  cases call with
  | table name => exact bind_recast (read_veil name) fun i => rfl
  | schema name => exact bind_recast (read_veil name) fun i => rfl
  | addColumns columns => exact addColumns_veil q columns
  | addAllColumns => exact addColumns_veil q q.entity.columns
  | mapColumns mapping => exact bind_recast (checkPairs_veil mapping.pairs) fun _ => rfl
  | mapColumn property column => exact bind_recast (checkPair_veil (property, column)) fun _ => rfl
  | configure config => rfl
  | timeoutSeconds seconds => rfl
  | dialect dialect => rfl
  | identity column => exact setIdentity_veil q column
  | entityIdentity =>
      simp only [Call.veil, apply]
      rw [show q.veil.entity.identity = q.entity.identity from rfl]
      cases q.entity.identity with
      | none => rfl
      | some column => exact setIdentity_veil q column
  | declare joiner expr =>
      exact bind_recast (Predicates.add_veil q.predicates joiner expr) fun _ => rfl

theorem step_veil (q : Query) (call : Call) : q.veil.step call.veil = (q.step call).veil := by
  unfold step
  rw [apply_veil]
  cases q.apply call <;> rfl

theorem run_veil (q : Query) (calls : List Call) :
    q.veil.run (calls.map Call.veil) = (q.run calls).veil := by
  induction calls generalizing q with
  | nil => rfl
  | cons call rest ih =>
      have later := ih (q.step call)
      rw [← step_veil] at later
      exact later

theorem outcomes_veil (q : Query) (calls : List Call) :
    q.veil.outcomes (calls.map Call.veil) = (q.outcomes calls).map (veiled veil) := by
  induction calls generalizing q with
  | nil => rfl
  | cons call rest ih => simp only [List.map_cons, outcomes, apply_veil, step_veil, ih]

theorem target_veil (q : Query) (database : String) :
    q.veil.target database = veiled id (q.target database) := by
  have first : (Ident.quoteIfNeeded database).mapError Error.ident
      = veiled id ((Ident.quoteIfNeeded database).mapError Error.ident) := by
    cases Ident.quoteIfNeeded database <;> rfl
  refine bind_recast first fun database => ?_
  refine bind_recast (read_veil _) fun schema => ?_
  exact bind_recast (read_veil _) fun table => rfl

theorem plan_veil (q : Query) (database : String) :
    q.veil.plan database = veiled Plan.veil (q.plan database) := by
  unfold plan
  rw [show q.veil.row = q.row.map Row.veil from rfl]
  cases q.row with
  | none => rfl
  | some row =>
      exact bind_recast (target_veil q database) fun table => Plan.assemble_veil
        { table, row
          columns := q.columns
          identity := q.identity
          mapping := q.mapping
          predicates := q.predicates.mapped q.mapping }

theorem build_veil (q : Query) (database : String) :
    q.veil.build database = veiled Statement.veil (q.build database) := by
  refine bind_recast (plan_veil q database) fun plan => ?_
  exact congrArg Except.ok (Plan.statement_veil q.config.dialect plan)

/-- What is logged in front of an execution shows no value. -/
theorem prepare_veil (q : Query) (database : String) : q.veil.prepare database
    = Prod.map (veiled (Option.map Statement.veil)) id (q.prepare database) := by
  unfold prepare
  rw [build_veil, show q.veil.row.isNone = q.row.isNone by simp [veil]]
  split
  · rfl
  · cases q.build database with
    | error e => rfl
    | ok s => simp [Statement.veil, veil]

end Query

/-! ## Alike under a veil -/

theorem Error.Alike.refl (e : Error) : e.Alike e := ⟨rfl, rfl, rfl⟩

/-- Errors that are the same under a veil are alike. -/
theorem Error.Alike.of_veil {e e' : Error} (same : e.veil = e'.veil) : e.Alike e' := by
  have kind_veil : ∀ e : Error, e.veil.kind = e.kind := fun e => by cases e <;> rfl
  have causes_veil : ∀ e : Error, e.veil.causes = e.causes := fun e => by cases e <;> rfl
  refine ⟨?_, ?_, ?_⟩
  · rw [← kind_veil e, same, kind_veil]
  · rw [← message_veil e, same, message_veil]
  · rw [← causes_veil e, same, causes_veil]

theorem OutcomesAlike.of_veil {α β : Type} {f : α → β} {R : α → α → Prop} {x x' : Except Error α}
    (same : veiled f x = veiled f x') (results : ∀ {a a'}, f a = f a' → R a a') :
    OutcomesAlike R x x' := by
  cases x with
  | error e =>
      cases x' with
      | error e' => exact Error.Alike.of_veil (Except.error.inj same)
      | ok a' => cases same
  | ok a =>
      cases x' with
      | error e' => cases same
      | ok a' => exact results (Except.ok.inj same)

theorem Param.name_veil (ps : List Param) :
    (ps.map Param.veil).map Param.name = ps.map Param.name := by
  rw [List.map_map]
  rfl

theorem Statement.Alike.of_veil {s s' : Statement} (same : s.veil = s'.veil) : s.Alike s' := by
  obtain ⟨sql, params, hasWhere⟩ := Statement.mk.inj same
  have names := congrArg (List.map Param.name) params
  rw [Param.name_veil, Param.name_veil] at names
  exact ⟨sql, hasWhere, names⟩

theorem Query.Alike.of_veil {q q' : Query} (same : q.veil = q'.veil) : q.Alike q' := by
  obtain ⟨entity, rows, table, schema, columns, mapping, identity, predicates, config⟩ :=
    Query.mk.inj same
  have row : q.row.isSome = q'.row.isSome := by simpa using congrArg Option.isSome rows
  have conditions : q.predicates.veil.ordered = q'.predicates.veil.ordered := by
    rw [predicates]
  have names : q.predicates.veil.params.names = q'.predicates.veil.params.names := by
    rw [predicates]
  rw [Predicates.veil, ParamList.names_veil, Predicates.veil, ParamList.names_veil] at names
  exact ⟨entity, row, table, schema, columns, mapping, identity, config, conditions, names⟩

/-! ## Executing -/

/-- On a connection in one state, statements that are alike are sent alike. -/
theorem sendsAlike {σ : Type} {q q' : Query} (config : q.config = q'.config) (c : Connection σ)
    (state : σ) {s s' : Statement} (alike : s.Alike s') (events : List Event) :
    CommitsAlike c ((q.send c s state).behind events) ((q'.send c s' state).behind events) := by
  unfold Query.send
  rw [← config, ← alike.sql]
  split
  · exact .executed state events s.sql q.config.timeout alike.params
  · dsimp only
    split
    · rename_i e _
      exact .ended _ _ (Error.Alike.refl e)
    · simp only [Reply.behind, ← List.append_assoc]
      exact .executed _ _ s.sql q.config.timeout alike.params

theorem CommitsAlike.of_veil {σ : Type} {q q' : Query} (same : q.veil = q'.veil)
    (c : Connection σ) (state : σ) : CommitsAlike c (q.commit c state) (q'.commit c state) := by
  have prepared := congrArg (fun q => q.prepare (c.database state)) same
  simp only [Query.prepare_veil] at prepared
  unfold Query.commit
  generalize q.prepare (c.database state) = p at prepared ⊢
  generalize q'.prepare (c.database state) = p' at prepared ⊢
  obtain ⟨o, events⟩ := p
  obtain ⟨o', events'⟩ := p'
  obtain ⟨outcomes, logged⟩ := Prod.mk.inj prepared
  obtain rfl : events = events' := logged
  cases o with
  | error e =>
      cases o' with
      | ok _ => cases outcomes
      | error e' => exact .ended _ _ (Error.Alike.of_veil (Except.error.inj outcomes))
  | ok statement =>
      cases o' with
      | error _ => cases outcomes
      | ok statement' =>
          have veils := Except.ok.inj outcomes
          cases statement with
          | none =>
              cases statement' with
              | none => exact .ended _ _ rfl
              | some _ => cases veils
          | some s =>
              cases statement' with
              | none => cases veils
              | some s' =>
                  exact sendsAlike (congrArg Query.config same) c state
                    (Statement.Alike.of_veil (Option.some.inj veils)) events

/-- What a connection is asked up to an execution is asked in both commits. -/
theorem CommitsAlike.asks_eq {σ : Type} {c : Connection σ} {r r' : Reply (σ × List Ask) Nat}
    (alike : CommitsAlike c.recorded r r') : r.state.2 = r'.state.2 := by
  cases alike with
  | ended => rfl
  | executed state events sql limit params =>
      simp only [Reply.behind, Connection.recorded]
      rw [params]

/-! ## Two runs -/

/-- **Values influence nothing but the values bound.**  Two runs of calls that differ in values
alone have like outcomes at every call; `build` gives like statements, and `commit` asks the same
of a connection behind the same events, up to the execution of a statement. -/
theorem values_influence_nothing (entity : Entity) {row row' : Option Row}
    {calls calls' : List Call} (rows : RowsAlike row row')
    (same : List.Forall₂ Call.Alike calls calls') :
    List.Forall₂ (OutcomesAlike Query.Alike) ((Query.start entity row).outcomes calls)
        ((Query.start entity row').outcomes calls')
      ∧ (∀ database, OutcomesAlike Statement.Alike
        (((Query.start entity row).run calls).build database)
        (((Query.start entity row').run calls').build database))
      ∧ ∀ {σ : Type} (c : Connection σ) (state : σ),
        CommitsAlike c (((Query.start entity row).run calls).commit c state)
          (((Query.start entity row').run calls').commit c state)
        ∧ ((Query.start entity row).run calls).asks c state
          = ((Query.start entity row').run calls').asks c state := by
  have started : (Query.start entity row).veil = (Query.start entity row').veil := by
    simp only [Query.start, Query.veil, rows.veil_eq]
  have veils : calls.map Call.veil = calls'.map Call.veil := by
    induction same with
    | nil => rfl
    | cons head tail ih => rw [List.map_cons, List.map_cons, head.veil_eq, ih]
  have ran : ((Query.start entity row).run calls).veil
      = ((Query.start entity row').run calls').veil := by
    rw [← Query.run_veil, started, veils, Query.run_veil]
  refine ⟨?_, fun database => ?_, fun c state => ⟨.of_veil ran c state, ?_⟩⟩
  · have outcomes : ((Query.start entity row).outcomes calls).map (veiled Query.veil)
        = ((Query.start entity row').outcomes calls').map (veiled Query.veil) := by
      rw [← Query.outcomes_veil, started, veils, Query.outcomes_veil]
    rw [← List.forall₂_eq_eq_eq, List.forall₂_map_left_iff, List.forall₂_map_right_iff] at outcomes
    exact outcomes.imp fun _ _ same => .of_veil same Query.Alike.of_veil
  · refine .of_veil (f := Statement.veil) ?_ Statement.Alike.of_veil
    rw [← Query.build_veil, ran, Query.build_veil]
  · exact (CommitsAlike.of_veil ran c.recorded (state, [])).asks_eq

/-- An entity with a key and a name. -/
def people : Entity where
  table := "people"
  identity := some "Id"
  columns := ["Id", "Name"]

/-- A row of people without a key. -/
def named (value : Value) : Row := fun property =>
  if property = "Name" then some value else none

/-- Calls that rename those with some key, or with none, and then fail. -/
def sampleRun (key other : Value) : List Call :=
  [.addAllColumns, .addColumns ["Name"], .declare .opening (.test "Id" .equal key),
    .declare .or (.test "Id" .equal .null), .declare .and (.constant other)]

theorem sample_values_influence_nothing :
    RowsAlike (some (named (.text "Tom"))) (some (named .null))
      ∧ List.Forall₂ Call.Alike (sampleRun (.int64 1) (.bool false))
        (sampleRun (.text "$1") (.int16 2))
      ∧ List.Forall₂ (OutcomesAlike Query.Alike)
        ((Query.start people (some (named (.text "Tom")))).outcomes
          (sampleRun (.int64 1) (.bool false)))
        ((Query.start people (some (named .null))).outcomes
          (sampleRun (.text "$1") (.int16 2))) := by
  have rows : RowsAlike (some (named (.text "Tom"))) (some (named .null)) := by
    intro property
    by_cases h : property = "Name" <;> simp [named, h]
  have calls : List.Forall₂ Call.Alike (sampleRun (.int64 1) (.bool false))
      (sampleRun (.text "$1") (.int16 2)) :=
    .cons (.same _) (.cons (.same _) (.cons (.declare _ (.compare _ (.member _) (.constant rfl)))
      (.cons (.same _) (.cons (.declare _ (.constant rfl)) .nil))))
  exact ⟨rows, calls, (values_influence_nothing people rows calls).1⟩

end Amend

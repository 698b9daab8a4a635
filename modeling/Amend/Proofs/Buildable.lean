/-
# Amend.Proofs.Buildable — when a statement can be built

Declarations are checked when they are made, and little is left to go wrong when a
statement is built.  `Buildable` lists it: the names in front of SET, a column to
set at all, and the columns of the conditions, which are mapped at the end and
were not checked as columns before.

`builds_iff_buildable` proves the list complete after any history of calls, of
which some may have failed.  A column that was accepted always has a value and
another name than every parameter has (`exists_assign`), and a condition always
finds its parameter (`found_of_reached`), so that the errors for these cases do
not occur.
-/
import Amend.Proofs.Consistency
import Amend.Proofs.History
import Amend.Proofs.Readiness

set_option autoImplicit false

namespace Amend

/-! ## What a statement needs -/

/-- The schema of a statement: the last one that was accepted, or that of the entity, or that of the
dialect. -/
def schemaOf (entity : Entity) (accepted : List Call) (d : Dialect) : String :=
  ((accepted.filterMap Call.schema?).getLast?.or entity.schema).getD d.defaultSchema

/-- The table of a statement: the last one that was accepted, or that of the entity. -/
def tableOf (entity : Entity) (accepted : List Call) : String :=
  (accepted.filterMap Call.table?).getLast?.getD entity.table

/-- All that a query needs, after some calls on it, for a statement. -/
structure Buildable (q : Query) (calls : List Call) (database : String) : Prop where
  database : database ≠ "" ∧ '\x00' ∉ database.toList
  schema : ∃ i, Ident.parse
    (schemaOf q.entity (q.succeeding calls) (q.runInPlace calls).config.dialect) = .ok i
  table : ∃ i, Ident.parse (tableOf q.entity (q.succeeding calls)) = .ok i
  /-- A call that offers a column was accepted. -/
  column : ∃ call ∈ q.succeeding calls, call.offered q.entity ≠ []
  conditions : ∀ d ∈ conditionsOf (declarations calls), ∃ i,
    Ident.parse ((q.runInPlace calls).mapping.resolve d.leaf.property) = .ok i

/-- An error of a name that is no identifier. -/
def Error.IsName (e : Error) : Prop := ∃ fault, e = Error.ident fault

theorem failsBy_read_name (written : String) : FailsBy Error.IsName (Ident.read written) :=
  .mapError fun fault => ⟨fault, rfl⟩

/-! ## Assignments -/

/-- A column that can be written has its assignment, whatever names are taken. -/
theorem exists_assignOne {s : Source} (n : Plan.Naming) {property : String}
    (writable : Writable s.row s.mapping property) :
    ∃ r, Plan.assignOne s n property = .ok r := by
  obtain ⟨i, parsed⟩ := writable.parsed
  obtain ⟨column, resolved⟩ := writable.resolved
  obtain ⟨value, valued⟩ := Option.isSome_iff_exists.1 writable.valued
  let named := Param.freeName (n.params.names ++ s.predicates.params.names)
    (Param.baseName property) n.last
  obtain ⟨params, pushed⟩ : ∃ params, n.params.push named.1 value = .ok params :=
    ⟨_, Param.push_freeName n.params _ _ _ value⟩
  refine ⟨(⟨column, ⟨named.1, value⟩⟩, ⟨params, named.2⟩),
    bind_eq_ok.2 ⟨i, parsed, bind_eq_ok.2 ⟨column, resolved, ?_⟩⟩⟩
  dsimp only
  rw [valued]
  exact bind_eq_ok.2 ⟨_, pushed, rfl⟩

/-- **Columns that can be written have their assignments.** -/
theorem exists_assign {s : Source} (n : Plan.Naming) {properties : List String}
    (writable : ∀ property ∈ properties, Writable s.row s.mapping property) :
    ∃ r, Plan.assign s n properties = .ok r := by
  induction properties generalizing n with
  | nil => exact ⟨([], n), rfl⟩
  | cons property rest ih =>
      obtain ⟨⟨a, next⟩, first⟩ := exists_assignOne n (writable property (by simp))
      obtain ⟨⟨others, last⟩, tail⟩ := ih next fun other later => writable other (by simp [later])
      exact ⟨(a :: others, last), bind_eq_ok.2 ⟨_, first, bind_eq_ok.2 ⟨_, tail, rfl⟩⟩⟩

/-! ## Clauses -/

/-- Where the name in a condition finds a parameter, only its column is left to be checked. -/
theorem clause_eq {params : ParamList} {c : Condition}
    (found : ∀ name ∈ c.param, ∃ p, params.get? name = some p) :
    Plan.clause params c = (Ident.read c.column).map fun column =>
      ⟨c.joiner, column, c.op, c.param.bind params.get?⟩ := by
  unfold Plan.clause
  cases param : c.param with
  | none => cases Ident.read c.column <;> rfl
  | some name =>
      obtain ⟨p, there⟩ := found name param
      cases Ident.read c.column <;> simp [bind, Except.bind, Except.map, there, pure, Except.pure]

theorem exists_clause_iff {params : ParamList} {c : Condition}
    (found : ∀ name ∈ c.param, ∃ p, params.get? name = some p) :
    (∃ clause, Plan.clause params c = .ok clause) ↔ ∃ i, Ident.read c.column = .ok i := by
  rw [clause_eq found]
  cases Ident.read c.column <;> simp [Except.map]

theorem failsBy_clause {params : ParamList} {c : Condition}
    (found : ∀ name ∈ c.param, ∃ p, params.get? name = some p) :
    FailsBy Error.IsName (Plan.clause params c) := by
  rw [clause_eq found]
  have fails := failsBy_read_name c.column
  cases parsed : Ident.read c.column with
  | ok column => exact .ok _
  | error e => exact .error (fails e parsed)

/-- **A condition finds its parameter.** -/
theorem found_of_reached {calls : List (Joiner × Expr)} {m : Mapping} {p : Predicates}
    (reached : Reached calls m p) {c : Condition} (member : c ∈ p.ordered) :
    ∀ name ∈ c.param, ∃ param, p.params.get? name = some param := by
  obtain ⟨ordered, params⟩ := ordered_reached reached
  rw [ordered] at member
  obtain ⟨d, there, rfl⟩ := List.mem_map.1 member
  intro name named
  have listed : name ∈ (paramsFrom 0 (conditionsOf calls)).map Param.name := by
    rw [names_paramsFrom 0]
    exact List.mem_filterMap.2 ⟨d, there, named⟩
  obtain ⟨param, here, rfl⟩ := List.mem_map.1 listed
  exact ⟨param, params ▸ get?_of_mem here⟩

theorem map_property_conditionsFrom (sort number : Nat) (ds : List Declared) :
    (conditionsFrom sort number ds).map Condition.property = ds.map fun d => d.leaf.property := by
  induction ds generalizing sort number with
  | nil => rfl
  | cons d ds ih => exact congrArg (_ :: ·) (ih (sort + 1) (number + d.weight))

/-- What holds of the columns of all conditions holds of those that the properties are mapped to. -/
theorem forall_column_apply {m : Mapping} {ds : List Declared} {P : String → Prop} :
    (∀ c ∈ m.apply (conditionsFrom 0 0 ds), P c.column)
      ↔ ∀ d ∈ ds, P (m.resolve d.leaf.property) := by
  have columns : (m.apply (conditionsFrom 0 0 ds)).map Condition.column
      = ds.map fun d => m.resolve d.leaf.property := by
    have properties := congrArg (List.map m.resolve) (map_property_conditionsFrom 0 0 ds)
    simpa [Mapping.apply, Function.comp_def] using properties
  rw [← List.forall_mem_map (f := Condition.column), columns, List.forall_mem_map]

/-- The clauses of a statement are there just when the columns of its conditions are identifiers. -/
theorem exists_clauses_iff {calls : List (Joiner × Expr)} {m : Mapping} {p : Predicates}
    (reached : Reached calls m p) :
    (∃ l, p.ordered.mapM (Plan.clause p.params) = .ok l)
      ↔ ∀ d ∈ conditionsOf calls, ∃ i, Ident.read (m.resolve d.leaf.property) = .ok i :=
  calc (∃ l, p.ordered.mapM (Plan.clause p.params) = .ok l)
      ↔ ∀ c ∈ p.ordered, ∃ clause, Plan.clause p.params c = .ok clause := exists_mapM_eq_ok
    _ ↔ ∀ c ∈ p.ordered, ∃ i, Ident.read c.column = .ok i :=
        forall₂_congr fun _ member => exists_clause_iff (found_of_reached reached member)
    _ ↔ ∀ d ∈ conditionsOf calls, ∃ i, Ident.read (m.resolve d.leaf.property) = .ok i := by
        rw [(ordered_reached reached).1]
        exact forall_column_apply (P := fun column => ∃ i, Ident.read column = .ok i)

/-! ## Plans -/

/-- Where the columns can be written, a plan is a matter of its clauses. -/
theorem assemble_eq {s : Source}
    (writable : ∀ property ∈ s.columns, Writable s.row s.mapping property) :
    ∃ as, Plan.assemble s = if setColumns s.columns s.identity = [] then .error .emptyColumnSet
      else s.predicates.ordered.mapM (Plan.clause s.predicates.params)
        >>= fun clauses => .ok ⟨s.table, as, clauses⟩ := by
  have set : ∀ property ∈ setColumns s.columns s.identity, Writable s.row s.mapping property :=
    fun property member => writable property (List.mem_of_mem_filter member)
  obtain ⟨⟨as, last⟩, assigned⟩ := exists_assign {} set
  refine ⟨as, ?_⟩
  unfold Plan.assemble
  simp only [List.isEmpty_iff, assigned]
  rfl

/-- A plan is there just when there is a column to set and those of the conditions are
identifiers. -/
theorem exists_assemble_iff {calls : List (Joiner × Expr)} {m : Mapping} {s : Source}
    (reached : Reached calls m s.predicates)
    (writable : ∀ property ∈ s.columns, Writable s.row s.mapping property) :
    (∃ p, Plan.assemble s = .ok p) ↔ setColumns s.columns s.identity ≠ []
      ∧ ∀ d ∈ conditionsOf calls, ∃ i, Ident.read (m.resolve d.leaf.property) = .ok i := by
  obtain ⟨as, made⟩ := assemble_eq writable
  rw [made, ← exists_clauses_iff reached]
  split
  · rename_i none_
    simp [none_]
  · rename_i some_
    constructor
    · rintro ⟨p, made⟩
      obtain ⟨l, made, -⟩ := bind_eq_ok.1 made
      exact ⟨some_, l, made⟩
    · rintro ⟨-, l, made⟩
      exact ⟨_, bind_eq_ok.2 ⟨l, made, rfl⟩⟩

/-- A plan fails by the name of a condition, or because there is nothing to set. -/
theorem failsBy_assemble {calls : List (Joiner × Expr)} {m : Mapping} {s : Source}
    (reached : Reached calls m s.predicates)
    (writable : ∀ property ∈ s.columns, Writable s.row s.mapping property) :
    FailsBy (fun e => e.IsName ∨ e = .emptyColumnSet ∧ setColumns s.columns s.identity = [])
      (Plan.assemble s) := by
  have clauses : FailsBy Error.IsName
      (s.predicates.ordered.mapM (Plan.clause s.predicates.params)) :=
    .mapM fun _ member => failsBy_clause (found_of_reached reached member)
  obtain ⟨as, made⟩ := assemble_eq writable
  rw [made]
  split
  · rename_i none_
    exact .error (.inr ⟨rfl, none_⟩)
  · exact (clauses.imp fun _ name => .inl name).bind fun _ _ => .ok _

/-! ## Statements -/

namespace Query

/-- A table is there just when its three names are identifiers. -/
theorem exists_target_iff (q : Query) (database : String) :
    (∃ table, q.target database = .ok table) ↔ (database ≠ "" ∧ '\x00' ∉ database.toList)
      ∧ (∃ i, Ident.parse (q.schema.getD q.config.dialect.defaultSchema) = .ok i)
      ∧ ∃ i, Ident.parse q.table = .ok i := by
  rw [← Ident.isOk_quoteIfNeeded]
  constructor
  · rintro ⟨table, named⟩
    obtain ⟨i, quoted, named⟩ := bind_eq_ok.1 named
    obtain ⟨j, schema, named⟩ := bind_eq_ok.1 named
    obtain ⟨k, own, -⟩ := bind_eq_ok.1 named
    exact ⟨⟨i, (mapError_eq_ok _).1 quoted⟩, ⟨j, Ident.read_eq_ok.1 schema⟩,
      ⟨k, Ident.read_eq_ok.1 own⟩⟩
  · rintro ⟨⟨i, quoted⟩, ⟨j, schema⟩, ⟨k, own⟩⟩
    exact ⟨⟨i, j, k⟩, bind_eq_ok.2 ⟨i, (mapError_eq_ok _).2 quoted, bind_eq_ok.2
      ⟨j, Ident.read_eq_ok.2 schema, bind_eq_ok.2 ⟨k, Ident.read_eq_ok.2 own, rfl⟩⟩⟩⟩

theorem failsBy_target (q : Query) (database : String) :
    FailsBy Error.IsName (q.target database) :=
  FailsBy.bind (.mapError fun fault => ⟨fault, rfl⟩) fun _ _ =>
    (failsBy_read_name _).bind fun _ _ => (failsBy_read_name _).bind fun _ _ => .ok _

/-- Columns are there to be written unless there are none at all. -/
theorem Ready.setColumns_eq_nil {row : Row} {q : Query} (ready : q.Ready row) :
    setColumns q.columns q.identity = [] ↔ q.columns = [] := by
  have written := ready.written
  constructor
  · intro none_
    simpa [onlyIdentity, none_] using written
  · intro empty
    rw [empty]
    rfl

theorem plan_eq {q : Query} {row : Row} (ready : q.Ready row) (database : String) :
    q.plan database
      = q.target database >>= fun table => Plan.assemble (q.source table row) := by
  unfold plan
  rw [ready.present]
  rfl

/-- A statement of a query that is ready is there just when its names are identifiers and it has a
column. -/
theorem exists_build_iff {q : Query} {row : Row} {declared : List (Joiner × Expr)}
    (ready : q.Ready row) (reached : q.predicates = Predicates.after declared)
    (database : String) :
    (∃ s, q.build database = .ok s) ↔ (∃ table, q.target database = .ok table)
      ∧ q.columns ≠ [] ∧ ∀ d ∈ conditionsOf declared, ∃ i,
        Ident.parse (q.mapping.resolve d.leaf.property) = .ok i := by
  have assembled : ∀ table, (∃ p, Plan.assemble (q.source table row) = .ok p) ↔ q.columns ≠ []
      ∧ ∀ d ∈ conditionsOf declared, ∃ i,
        Ident.parse (q.mapping.resolve d.leaf.property) = .ok i := fun table => by
    have assembles := exists_assemble_iff (reached_source reached table row) ready.columns
    simp only [Ident.read_eq_ok] at assembles
    exact assembles.trans (and_congr_left' (not_congr ready.setColumns_eq_nil))
  unfold build
  rw [plan_eq ready]
  constructor
  · rintro ⟨s, built⟩
    obtain ⟨p, made, -⟩ := bind_eq_ok.1 built
    obtain ⟨table, named, made⟩ := bind_eq_ok.1 made
    exact ⟨⟨table, named⟩, (assembled table).1 ⟨p, made⟩⟩
  · rintro ⟨⟨table, named⟩, needs⟩
    obtain ⟨p, made⟩ := (assembled table).2 needs
    exact ⟨_, bind_eq_ok.2 ⟨p, bind_eq_ok.2 ⟨table, named, made⟩, rfl⟩⟩

/-- A statement of a query that is ready fails by a name, or for want of any column. -/
theorem failsBy_build {q : Query} {row : Row} {declared : List (Joiner × Expr)}
    (ready : q.Ready row) (reached : q.predicates = Predicates.after declared)
    (database : String) :
    FailsBy (fun e => e.IsName ∨ e = .emptyColumnSet ∧ q.columns = []) (q.build database) := by
  unfold build
  rw [plan_eq ready]
  refine FailsBy.bind (FailsBy.bind ?_ fun table _ => ?_) fun _ _ => .ok _
  · exact (q.failsBy_target database).imp fun _ name => .inl name
  · have assembles := failsBy_assemble (reached_source reached table row) ready.columns
    exact assembles.imp fun e fault =>
      fault.imp_right fun ⟨empty, none_⟩ => ⟨empty, ready.setColumns_eq_nil.1 none_⟩

end Query

/-- **Only names and a missing column keep a statement from being built**, whatever an entity
declares and whatever calls were made on it, those that failed among them.  No other error is left
for the end: each error of a build or of a call is one of configuration, no value is missing when a
statement is built, no names of parameters collide, and no column is set only where no call that
offers one was accepted. -/
theorem builds_iff_buildable (entity : Entity) (row : Row) (calls : List Call)
    (database : String) :
    let q := Query.start entity (some row)
    ((∃ s, (q.runInPlace calls).build database = .ok s) ↔ Buildable q calls database)
      ∧ (∀ e, (q.runInPlace calls).build database = .error e → e.isConfiguration = true
        ∧ (∀ column, e ≠ .missingValue column) ∧ (∀ name, e ≠ .parameterCollision name)
        ∧ (∀ text, e ≠ .other text)
        ∧ (e = .emptyColumnSet → ∀ call ∈ q.succeeding calls, call.offered entity = []))
      ∧ ∀ e q', .error e q' ∈ q.trace calls → e.isConfiguration = true := by
  intro q
  have leaves := q.leaves_runInPlace calls
  have ready := leaves.ready row (Query.ready_start entity row)
  have reached : (q.runInPlace calls).predicates = Predicates.after (declarations calls) := by
    rw [Query.runInPlace_eq_run]
    exact Query.predicates_run_start entity (some row) calls
  have empty : (q.runInPlace calls).columns = []
      ↔ ∀ call ∈ q.succeeding calls, call.offered entity = [] :=
    leaves.columns.trans (and_iff_right rfl)
  have builds := Query.exists_build_iff ready reached database
  have fails := Query.failsBy_build ready reached database
  refine ⟨builds.trans ?_, fun e failed => ?_, fun e q' => Query.configures_of_mem_trace⟩
  · have offered : (q.runInPlace calls).columns ≠ []
        ↔ ∃ call ∈ q.succeeding calls, call.offered entity ≠ [] := by
      rw [ne_eq, empty]
      push Not
      rfl
    rw [Query.exists_target_iff, leaves.table, leaves.schema, offered]
    exact ⟨fun ⟨⟨name, schema, table⟩, column, conditions⟩ =>
        ⟨name, schema, table, column, conditions⟩,
      fun ⟨name, schema, table, column, conditions⟩ =>
        ⟨⟨name, schema, table⟩, column, conditions⟩⟩
  · rcases fails e failed with ⟨fault, rfl⟩ | ⟨rfl, none_⟩
    · exact ⟨rfl, nofun, nofun, nofun, nofun⟩
    · exact ⟨rfl, nofun, nofun, nofun, fun _ => empty.1 none_⟩

end Amend

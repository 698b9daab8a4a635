/-
# Amend.Proofs.Readiness — what a history of calls leaves

The columns of a query are checked when they are added, but what they are checked
against goes on changing: mappings are merged and a key is named later.  `Ready`
says what stays true all the same.  A column can be written, under whatever name
it is mapped to by now and with a value of the row, and the columns are never
reduced to the key.

`Leaves` ties a query to the calls that were accepted on the way: the table and
the schema are those of the last override, and there are columns just when some
accepted call has offered one.  One call leaves what it says (`leaves_apply`), so
a history does (`leaves_runInPlace`).

A call that fails is at fault itself: each of its errors is of configuration
(`failsBy_apply`).
-/
import Amend.Proofs.NoTrace

set_option autoImplicit false

namespace Amend

/-! ## Columns that can be written -/

/-- A column that can be written: an identifier, mapped to one, with a value. -/
structure Writable (row : Row) (m : Mapping) (column : String) : Prop where
  parsed : ∃ i, Ident.read column = .ok i
  resolved : ∃ i, Ident.read (m.resolve column) = .ok i
  valued : (row column).isSome = true

/-- A column stays writable under a mapping that resolves it to an identifier as well. -/
theorem Writable.remap {row : Row} {m m' : Mapping} {column : String}
    (writable : Writable row m column)
    (keeps : (∃ i, Ident.read (m.resolve column) = .ok i) →
      ∃ i, Ident.read (m'.resolve column) = .ok i) : Writable row m' column :=
  ⟨writable.parsed, keeps writable.resolved, writable.valued⟩

namespace Mapping

theorem resolve_insert (m : Mapping) (property column other : String) :
    (m.insert property column).resolve other
      = if other = property then column else m.resolve other := by
  unfold resolve
  rw [column?_insert]
  split <;> rfl

/-- A checked pair keeps what resolves to identifiers. -/
theorem reads_insert {m : Mapping} {pair : String × String}
    (checked : Query.checkPair pair = .ok ()) {column : String}
    (reads : ∃ i, Ident.read (m.resolve column) = .ok i) :
    ∃ i, Ident.read ((m.insert pair.1 pair.2).resolve column) = .ok i := by
  obtain ⟨_, -, checked⟩ := bind_eq_ok.1 checked
  obtain ⟨i, parsed, -⟩ := bind_eq_ok.1 checked
  rw [resolve_insert]
  split
  · exact ⟨i, parsed⟩
  · exact reads

/-- Checked pairs keep what resolves to identifiers. -/
theorem reads_merge {m other : Mapping}
    (checked : ∀ pair ∈ other.pairs, Query.checkPair pair = .ok ())
    {column : String} (reads : ∃ i, Ident.read (m.resolve column) = .ok i) :
    ∃ i, Ident.read ((m.merge other).resolve column) = .ok i := by
  unfold merge
  generalize other.pairs = pairs at checked
  induction pairs generalizing m with
  | nil => exact reads
  | cons pair rest ih =>
      have inserted := reads_insert (checked pair (by simp)) reads
      exact ih inserted fun pair later => checked pair (by simp [later])

end Mapping

/-! ## What a call asks for -/

namespace Call

def table? : Call → Option String
  | .table name => some name
  | _ => none

def schema? : Call → Option String
  | .schema name => some name
  | _ => none

def offered (entity : Entity) : Call → List String
  | .addColumns columns => columns
  | .addAllColumns => entity.columns
  | _ => []

end Call

namespace Query

/-- What holds of a query at any time, where a row is there. -/
structure Ready (row : Row) (q : Query) : Prop where
  present : q.row = some row
  columns : ∀ column ∈ q.columns, Writable row q.mapping column
  written : onlyIdentity q.columns q.identity = false

/-- What a query has become by calls that were accepted. -/
structure Leaves (q : Query) (accepted : List Call) (q' : Query) : Prop where
  entity : q'.entity = q.entity
  table : q'.table = (accepted.filterMap Call.table?).getLast?.getD q.table
  schema : q'.schema = (accepted.filterMap Call.schema?).getLast?.or q.schema
  columns : q'.columns = [] ↔ q.columns = [] ∧ ∀ call ∈ accepted, call.offered q.entity = []
  ready : ∀ row, q.Ready row → q'.Ready row

theorem Leaves.refl (q : Query) : q.Leaves [] q :=
  ⟨rfl, rfl, rfl, by simp, fun _ ready => ready⟩

theorem Leaves.trans {q q' q'' : Query} {calls later : List Call} (first : q.Leaves calls q')
    (second : q'.Leaves later q'') : q.Leaves (calls ++ later) q'' where
  entity := second.entity.trans first.entity
  table := by
    rw [second.table, first.table, List.filterMap_append, List.getLast?_append, Option.getD_or]
  schema := by
    rw [second.schema, first.schema, List.filterMap_append, List.getLast?_append, Option.or_assoc]
  columns := by
    rw [second.columns, first.columns, first.entity, List.forall_mem_append, and_assoc]
  ready := fun row ready => second.ready row (first.ready row ready)

/-- A call that names no table or schema and offers no column leaves those parts as they were. -/
theorem Leaves.of_same {q q' : Query} {call : Call}
    (names : call.table? = none ∧ call.schema? = none) (offers : call.offered q.entity = [])
    (same : q'.entity = q.entity ∧ q'.table = q.table ∧ q'.schema = q.schema
      ∧ q'.columns = q.columns)
    (ready : ∀ row, q.Ready row → q'.Ready row) : q.Leaves [call] q' where
  entity := same.1
  table := by simp [names.1, same.2.1]
  schema := by simp [names.2, same.2.2.1]
  columns := by simp [offers, same.2.2.2]
  ready := ready

/-! ## Accepted calls -/

theorem writable_of_checkColumn {q : Query} {row : Row} {column : String}
    (ready : q.Ready row) (checked : q.checkColumn column = .ok ()) :
    Writable row q.mapping column := by
  obtain ⟨i, parsed, checked⟩ := bind_eq_ok.1 checked
  obtain ⟨j, resolved, checked⟩ := bind_eq_ok.1 checked
  have known : q.knows column = (row column).isSome := by simp [knows, ready.present]
  rw [known] at checked
  split at checked
  · rename_i valued
    exact ⟨⟨i, parsed⟩, ⟨j, resolved⟩, valued⟩
  · cases checked

/-- Staged columns are those that were there, and others that were checked; if none of both are
there, there are none. -/
theorem stageColumns_eq_ok {q : Query} {staged columns result : List String}
    (made : q.stageColumns staged columns = .ok result) :
    (∀ column ∈ result, column ∈ staged ∨ q.checkColumn column = .ok ())
      ∧ (result = [] ↔ staged = [] ∧ columns = []) := by
  induction columns generalizing staged with
  | nil =>
      cases made
      exact ⟨fun _ member => .inl member, by simp⟩
  | cons column rest ih =>
      rw [stageColumns] at made
      split at made
      · rename_i there
        obtain ⟨each, empty⟩ := ih made
        refine ⟨each, empty.trans ?_⟩
        have nonempty : staged ≠ [] := fun none_ => by simp [none_] at there
        simp [nonempty]
      · obtain ⟨_, checked, made⟩ := bind_eq_ok.1 made
        obtain ⟨each, empty⟩ := ih made
        refine ⟨fun other member => ?_, empty.trans (by simp)⟩
        rcases each other member with there | passed
        · rcases List.mem_append.1 there with before | here
          · exact .inl before
          · obtain rfl := List.mem_singleton.1 here
            exact .inr checked
        · exact .inr passed

theorem leaves_addColumns {q q' : Query} {call : Call} {columns : List String}
    (names : call.table? = none ∧ call.schema? = none) (offers : call.offered q.entity = columns)
    (added : q.addColumns columns = .ok q') : q.Leaves [call] q' := by
  obtain ⟨staged, made, added⟩ := bind_eq_ok.1 added
  obtain ⟨each, empty⟩ := stageColumns_eq_ok made
  split at added
  · cases added
  · rename_i written
    cases added
    refine ⟨rfl, by simp [names.1], by simp [names.2], by simpa [offers] using empty,
      fun row ready => ⟨ready.present, fun column member => ?_, by simpa using written⟩⟩
    rcases each column member with there | checked
    · exact ready.columns column there
    · exact writable_of_checkColumn (q := q) ready checked

theorem leaves_setIdentity {q q' : Query} {call : Call} {column : String}
    (names : call.table? = none ∧ call.schema? = none) (offers : call.offered q.entity = [])
    (set : q.setIdentity column = .ok q') : q.Leaves [call] q' := by
  unfold setIdentity at set
  split at set
  · cases set
  · obtain ⟨_, -, set⟩ := bind_eq_ok.1 set
    split at set
    · cases set
    · rename_i written
      cases set
      exact .of_same names offers ⟨rfl, rfl, rfl, rfl⟩ fun row ready =>
        ⟨ready.present, ready.columns, by simpa using written⟩

/-- **An accepted call leaves what it asks for**, and a query that is ready stays so. -/
theorem leaves_apply {q q' : Query} {call : Call} (applied : q.apply call = .ok q') :
    q.Leaves [call] q' := by
  cases call with
  | table name =>
      obtain ⟨_, -, applied⟩ := bind_eq_ok.1 applied
      cases applied
      exact ⟨rfl, rfl, rfl, by simp [Call.offered], fun row ready => ⟨ready.1, ready.2, ready.3⟩⟩
  | schema name =>
      obtain ⟨_, -, applied⟩ := bind_eq_ok.1 applied
      cases applied
      exact ⟨rfl, rfl, rfl, by simp [Call.offered], fun row ready => ⟨ready.1, ready.2, ready.3⟩⟩
  | addColumns columns => exact leaves_addColumns ⟨rfl, rfl⟩ rfl applied
  | addAllColumns => exact leaves_addColumns ⟨rfl, rfl⟩ rfl applied
  | mapColumns mapping =>
      obtain ⟨_, checked, applied⟩ := bind_eq_ok.1 applied
      cases applied
      exact .of_same ⟨rfl, rfl⟩ rfl ⟨rfl, rfl, rfl, rfl⟩ fun row ready =>
        ⟨ready.present, fun column member => (ready.columns column member).remap
          (Mapping.reads_merge (forM_eq_ok.1 checked)), ready.written⟩
  | mapColumn property column =>
      obtain ⟨_, checked, applied⟩ := bind_eq_ok.1 applied
      cases applied
      exact .of_same ⟨rfl, rfl⟩ rfl ⟨rfl, rfl, rfl, rfl⟩ fun row ready =>
        ⟨ready.present, fun column member => (ready.columns column member).remap
          (Mapping.reads_insert checked), ready.written⟩
  | identity column => exact leaves_setIdentity ⟨rfl, rfl⟩ rfl applied
  | entityIdentity =>
      simp only [apply] at applied
      split at applied
      · exact leaves_setIdentity ⟨rfl, rfl⟩ rfl applied
      · cases applied
        exact .of_same ⟨rfl, rfl⟩ rfl ⟨rfl, rfl, rfl, rfl⟩ fun _ ready => ready
  | declare joiner expr =>
      obtain ⟨_, -, applied⟩ := bind_eq_ok.1 applied
      cases applied
      exact .of_same ⟨rfl, rfl⟩ rfl ⟨rfl, rfl, rfl, rfl⟩ fun _ ready =>
        ⟨ready.1, ready.2, ready.3⟩
  | configure | timeoutSeconds | dialect =>
      cases applied
      exact .of_same ⟨rfl, rfl⟩ rfl ⟨rfl, rfl, rfl, rfl⟩ fun _ ready =>
        ⟨ready.1, ready.2, ready.3⟩

/-- **A history leaves what its accepted calls ask for**, whatever calls fail in between. -/
theorem leaves_runInPlace (q : Query) (calls : List Call) :
    q.Leaves (q.succeeding calls) (q.runInPlace calls) := by
  induction calls generalizing q with
  | nil => exact .refl q
  | cons call rest ih =>
      rw [runInPlace_cons]
      cases applied : q.apply call with
      | ok next =>
          rw [succeeding_cons_of_ok (run_of_ok applied), run_of_ok applied]
          exact (leaves_apply applied).trans (ih next)
      | error e =>
          rw [succeeding_cons_of_error (run_of_error applied), run_of_error applied]
          exact ih q

/-- A new query on a row is ready. -/
theorem ready_start (entity : Entity) (row : Row) : (start entity (some row)).Ready row :=
  ⟨rfl, nofun, rfl⟩

end Query

/-! ## Errors of calls -/

/-- An error for which a declaration is at fault. -/
abbrev Error.Configures (e : Error) : Prop := e.isConfiguration = true

theorem failsBy_read (written : String) : FailsBy Error.Configures (Ident.read written) :=
  .mapError fun _ => rfl

theorem failsBy_ofExpr (e : Expr) : FailsBy Error.Configures (Leaf.ofExpr e) := by
  have made : ∀ property op value,
      FailsBy Error.Configures (Leaf.make property op value) := fun property op value =>
    (failsBy_read property).bind fun _ _ => by
      split
      · exact .ok _
      · exact .ok _
      · exact .error rfl
      · exact .ok _
  unfold Leaf.ofExpr
  split
  · exact made _ _ _
  · exact made _ _ _
  · exact .error rfl
  · exact .error rfl
  · exact .error rfl

namespace Predicates

theorem failsBy_addLeaf (p : Predicates) (joiner : Joiner) (leaf : Leaf) :
    FailsBy Error.Configures (p.addLeaf joiner leaf) := by
  have bound : FailsBy Error.Configures (p.bindLeaf leaf) := by
    unfold bindLeaf
    split
    · exact .ok _
    · refine FailsBy.bind ?_ fun _ _ => .ok _
      unfold ParamList.push
      split
      · exact .error rfl
      · exact .ok _
  refine bound.bind fun r _ => FailsBy.bind ?_ fun _ _ => .ok _
  unfold Condition.make
  split
  · exact .error rfl
  · split
    · exact .error rfl
    · exact .ok _

theorem failsBy_add (p : Predicates) (joiner : Joiner) (e : Expr) :
    FailsBy Error.Configures (p.add joiner e) := by
  have leaves : ∀ (leaves : List Leaf) (p : Predicates) (first later : Joiner),
      FailsBy Error.Configures (p.addLeaves first later leaves) := by
    intro leaves
    induction leaves with
    | nil => exact fun p _ _ => .ok p
    | cons leaf rest ih =>
        exact fun p first later => (p.failsBy_addLeaf first leaf).bind fun p _ => ih p later later
  refine FailsBy.bind (.mapError fun _ => rfl) fun parts _ => ?_
  refine FailsBy.bind (.mapM fun e _ => failsBy_ofExpr e) fun _ _ => ?_
  exact (leaves _ p joiner parts.2).bind fun _ _ => .ok _

end Predicates

namespace Query

theorem failsBy_checkPair (pair : String × String) :
    FailsBy Error.Configures (checkPair pair) :=
  (failsBy_read pair.1).bind fun _ _ => (failsBy_read pair.2).bind fun _ _ => .ok ()

theorem failsBy_stageColumns (q : Query) (staged columns : List String) :
    FailsBy Error.Configures (q.stageColumns staged columns) := by
  have checked : ∀ column, FailsBy Error.Configures (q.checkColumn column) := fun column =>
    (failsBy_read column).bind fun _ _ => (failsBy_read _).bind fun _ _ => by
      split
      · exact .ok ()
      · exact .error rfl
  induction columns generalizing staged with
  | nil => exact .ok staged
  | cons column rest ih =>
      rw [stageColumns]
      split
      · exact ih staged
      · exact (checked column).bind fun _ _ => ih _

theorem failsBy_addColumns (q : Query) (columns : List String) :
    FailsBy Error.Configures (q.addColumns columns) :=
  (q.failsBy_stageColumns q.columns columns).bind fun _ _ => by
    split
    · exact .error rfl
    · exact .ok _

theorem failsBy_setIdentity (q : Query) (column : String) :
    FailsBy Error.Configures (q.setIdentity column) := by
  unfold setIdentity
  split
  · exact .error rfl
  · refine (failsBy_read column).bind fun _ _ => ?_
    split
    · exact .error rfl
    · exact .ok _

/-- **A call that fails is at fault itself.** -/
theorem failsBy_apply (q : Query) (call : Call) : FailsBy Error.Configures (q.apply call) := by
  cases call with
  | table name => exact (failsBy_read name).bind fun _ _ => .ok _
  | schema name => exact (failsBy_read name).bind fun _ _ => .ok _
  | addColumns columns => exact q.failsBy_addColumns columns
  | addAllColumns => exact q.failsBy_addColumns q.entity.columns
  | mapColumns mapping =>
      exact FailsBy.bind (.forM fun pair _ => failsBy_checkPair pair) fun _ _ => .ok _
  | mapColumn property column =>
      exact (failsBy_checkPair (property, column)).bind fun _ _ => .ok _
  | identity column => exact q.failsBy_setIdentity column
  | entityIdentity =>
      simp only [apply]
      split
      · exact q.failsBy_setIdentity _
      · exact .ok q
  | declare joiner expr => exact (q.predicates.failsBy_add joiner expr).bind fun _ _ => .ok _
  | configure | timeoutSeconds | dialect => exact .ok _

/-- No call of a history fails with another error than one of configuration. -/
theorem configures_of_mem_trace {q q' : Query} {calls : List Call} {e : Error}
    (member : .error e q' ∈ q.trace calls) : e.Configures := by
  induction calls generalizing q with
  | nil => cases member
  | cons call rest ih =>
      rcases List.mem_cons.1 member with here | later
      · cases applied : q.apply call with
        | ok next =>
            rw [run_of_ok applied] at here
            cases here
        | error e' =>
            rw [run_of_error applied] at here
            cases here
            exact failsBy_apply _ call _ applied
      · exact ih later

end Query

end Amend

/-
# Amend.Proofs.SetList — what stands behind SET after a history

`namesToSet` are the columns that accepted calls offer, each where it comes first
and the key left out.  A statement that is built after a history sets them in that
order, one entry each (`set_list_of_history`): what `build` puts behind SET was
settled by the calls, and no later call takes it back.

A key stays the one that was named first, and every other attempt to name one
fails before its name is looked at.  A column that is there already is passed over
where it is offered again, so that nothing is left to fail.
-/
import Amend.Proofs.Gathered
import Amend.Proofs.History
import Amend.Proofs.Placeholders

set_option autoImplicit false

namespace Amend

/-- The names that calls leave to be set: the columns they offer, without the key. -/
def namesToSet (entity : Entity) (accepted : List Call) : List String :=
  setColumns (columnsOf entity accepted) (keyOf entity accepted)

/-- An entry of a SET list is that of a name: the column of the name, and the row's value for it. -/
structure EntryOf (row : Row) (columnOf : String → String) (name : String)
    (entry : (Ident × String) × Param) : Prop where
  column : Ident.parse (columnOf name) = .ok entry.1.1
  value : row name = some entry.2.value

/-- A SET list has one entry for each of some names, in order. -/
structure SetsNames (row : Row) (columnOf : String → String) (names : List String)
    (assignments : List (Ident × String)) (params : List Param) : Prop where
  count : assignments.length = names.length
  entries : List.Forall₂ (EntryOf row columnOf) names (assignments.zip params)

theorem Gathered.names {entity : Entity} {row : Option Row} {accepted : List Call} {q : Query}
    (gathered : Gathered entity row accepted q) :
    setColumns q.columns q.identity = namesToSet entity accepted := by
  rw [gathered.columns, gathered.key, namesToSet]

theorem nodup_namesToSet (entity : Entity) (accepted : List Call) :
    (namesToSet entity accepted).Nodup :=
  (nodup_eraseDups _).filter _

namespace Query

/-- The predicates that a history leaves are those of its declarations. -/
theorem predicates_runInPlace (entity : Entity) (row : Option Row) (calls : List Call) :
    ((start entity row).runInPlace calls).predicates = Predicates.after (declarations calls) := by
  rw [runInPlace_eq_run]
  exact predicates_run_start entity row calls

/-- What the text of a statement that is built says. -/
theorem outline_of_build {q : Query} {declared : List (Joiner × Expr)} {database : String}
    {s : Statement} (reached : q.predicates = Predicates.after declared)
    (built : q.build database = .ok s) :
    ∃ row table o, q.row = some row ∧ Outline.read? s.sql = some o
      ∧ setColumns q.columns q.identity ≠ []
      ∧ Spells (q.source table row) (q.config.dialect.placeholders s.params) o
      ∧ Paired (q.source table row) q.mapping (testsOf declared) q.config.dialect o.body
        s.params := by
  obtain ⟨row, table, p, present, named, made, rfl⟩ := plan_of_build built
  have reaches := reached_source reached table row
  have tableMade := target_eq_ok named
  obtain ⟨same, nonempty, -, -⟩ := parts_of_assemble made
  have formed := wellFormed_of_assemble reaches made
  exact ⟨row, table, p.outline q.config.dialect, present,
    Plan.read?_render formed (same ▸ tableMade.wellFormed) _, nonempty,
    spells_outline ⟨tableMade, ⟨_, _, reaches⟩, made⟩ _, paired_body reaches made _⟩

/-! ## Offering a column again -/

/-- Columns that are there are passed over. -/
theorem stageColumns_of_subset {q : Query} {staged columns : List String}
    (there : ∀ column ∈ columns, column ∈ staged) : q.stageColumns staged columns = .ok staged := by
  induction columns with
  | nil => rfl
  | cons column rest ih =>
      have here : staged.contains column = true := by simpa using there column (by simp)
      rw [stageColumns, if_pos here]
      exact ih fun other later => there other (by simp [later])

theorem addColumns_of_subset {q : Query} {columns : List String}
    (written : onlyIdentity q.columns q.identity = false)
    (there : ∀ column ∈ columns, column ∈ q.columns) : q.addColumns columns = .ok q := by
  unfold addColumns
  rw [stageColumns_of_subset there]
  simp only [bind, Except.bind, written]
  rfl

/-! ## Naming a key again -/

/-- Where a key is there, another is refused whatever its name. -/
theorem apply_of_key? {q : Query} {call : Call} {key attempted : String}
    (there : q.identity = some key) (names : call.key? q.entity = some attempted) :
    q.apply call = .error (.duplicateIdentity key attempted) := by
  have refused : ∀ column, q.setIdentity column = .error (.duplicateIdentity key column) := by
    intro column
    rw [setIdentity, there]
  cases call with
  | identity column =>
      cases names
      exact refused _
  | entityIdentity =>
      have named : q.entity.identity = some attempted := names
      rw [apply, named]
      exact refused _
  | _ => cases names

/-! ## Histories -/

/-- A key that is there stays. -/
theorem identity_runInPlace {entity : Entity} {row : Option Row} {accepted : List Call}
    {q : Query} {key : String} (gathered : Gathered entity row accepted q)
    (there : q.identity = some key) (later : List Call) :
    (q.runInPlace later).identity = some key := by
  rw [(gathered_runInPlace gathered later).key, keyOf, List.findSome?_append, ← keyOf,
    ← gathered.key, there, Option.some_or]

/-- **What stands behind SET is settled by the calls.**  Whatever calls are made on a new query, in
whatever order, and however many of them fail: a statement that is built sets the columns that the
accepted calls offer, each where it comes first and the key left out, with one entry each and one at
least.  The key is the first that was named; it stays, and every later call that names one is
refused with both names.  Columns that are there already can be offered again, which changes
nothing. -/
theorem set_list_of_history (entity : Entity) (row : Option Row) (calls : List Call) :
    let q := (start entity row).runInPlace calls
    let accepted := (start entity row).succeeding calls
    (∀ database s, q.build database = .ok s → namesToSet entity accepted ≠ []
        ∧ (namesToSet entity accepted).Nodup
        ∧ ∃ values o, row = some values ∧ Outline.read? s.sql = some o
          ∧ SetsNames values (columnFor entity (accepted.flatMap Call.pairs))
            (namesToSet entity accepted) o.body.assignments s.params)
      ∧ q.identity = keyOf entity accepted
      ∧ (∀ key, q.identity = some key → ∀ later,
        (q.runInPlace later).identity = some key
          ∧ ∀ call attempted, call.key? entity = some attempted →
            (applyInPlace call).run (q.runInPlace later)
              = .error (.duplicateIdentity key attempted) (q.runInPlace later))
      ∧ (∀ columns, (∀ column ∈ columns, column ∈ columnsOf entity accepted) →
        (applyInPlace (.addColumns columns)).run q = .ok () q)
      ∧ ((∀ column ∈ entity.columns, column ∈ columnsOf entity accepted) →
        (applyInPlace .addAllColumns).run q = .ok () q) := by
  intro q accepted
  have gathered : Gathered entity row accepted q := gathered_history entity row calls
  refine ⟨fun database s built => ?_, gathered.key, fun key there later => ?_,
    fun columns subset => ?_, fun subset => ?_⟩
  · have reached : q.predicates = Predicates.after (declarations calls) :=
      predicates_runInPlace entity row calls
    obtain ⟨values, table, o, present, read, nonempty, -, paired⟩ := outline_of_build reached built
    have count := paired.length
    have written := paired.written
    simp only [source, gathered.names] at nonempty count written
    have written_ : row = some values := gathered.start.2.symm.trans present
    refine ⟨nonempty, nodup_namesToSet entity accepted, values, o, written_, read, count,
      written.imp fun name entry writes => ⟨?_, writes.value⟩⟩
    rw [← gathered.mapping]
    exact Ident.read_eq_ok.1 writes.column
  · have still := identity_runInPlace gathered there later
    refine ⟨still, fun call attempted attempts => run_of_error (apply_of_key? still ?_)⟩
    rw [(gathered_runInPlace gathered later).start.1]
    exact attempts
  · refine run_of_ok (addColumns_of_subset gathered.written ?_)
    rw [gathered.columns]
    exact subset
  · refine run_of_ok (addColumns_of_subset gathered.written ?_)
    rw [gathered.columns, gathered.start.1]
    exact subset

/-- An entity with a key, and two columns for one of its properties. -/
def crew : Entity where
  table := "crew"
  identity := some "Id"
  columns := ["Id", "Name", "Left"]
  mappings := [("Name", "full_name"), ("Name", "nick_name")]

/-- A row where the value of each property is its name. -/
def echo : Row := fun property => some (.text property)

/-- Columns that are offered more than once, with the key in between. -/
def crewCalls : List Call :=
  [.identity "Id", .addColumns ["Id"], .addColumns ["Name", "Id", "Name"], .entityIdentity,
    .addAllColumns, .mapColumn "Left" "left_at", .addColumns ["Left", "no name"]]

theorem crew_set_list :
    let q := (start crew (some echo)).runInPlace crewCalls
    ∃ s o, q.build "db" = .ok s ∧ Outline.read? s.sql = some o
      ∧ SetsNames echo (columnFor crew [("Left", "left_at")]) ["Name", "Left"]
        o.body.assignments s.params
      ∧ (applyInPlace (.identity "no name")).run q = .error (.duplicateIdentity "Id" "no name") q
      ∧ (applyInPlace .addAllColumns).run q = .ok () q := by
  obtain ⟨builds, -, keyed, -, again⟩ := set_list_of_history crew (some echo) crewCalls
  obtain ⟨-, -, _, o, present, read, sets⟩ := builds "db" _ rfl
  cases present
  exact ⟨_, o, rfl, read, sets, (keyed "Id" rfl []).2 (.identity "no name") _ rfl,
    again (by decide +kernel)⟩

end Query

end Amend

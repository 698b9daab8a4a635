/-
# Amend.Proofs.Interleaving — declarations of different kinds commute

The calls on a query are of seven kinds, by what they declare: the table, the
schema, the columns, the mapping, the key, the configuration and the predicates.
While it checks, a call of one kind reads what calls of others have declared: a
column is looked up in the mapping and in the row, and a key is held against the
columns.

None of that is written.  An accepted call writes one part of the query, as a
function of that part and of the call (`apply_eq_write`), so that two calls of
different kinds can change places (`write_comm`).  Of two histories in which every
call is accepted, the ones that have the same calls of each kind in the same order
end in the same query, however the kinds are interleaved
(`interleaving_makes_no_difference`).
-/
import Amend.Course
import Amend.Proofs.SetList

set_option autoImplicit false

namespace Amend

/-! ## Histories of steps that commute -/

section Steps

variable {α κ σ : Type}

/-- The steps of one kind, in order. -/
def ofKind [DecidableEq κ] (kindOf : α → κ) (kind : κ) (steps : List α) : List α :=
  steps.filter fun step => kindOf step = kind

variable {kindOf : α → κ} {run : σ → α → σ}

/-- A step goes before steps of other kinds. -/
theorem foldl_past (comm : ∀ s a b, kindOf a ≠ kindOf b → run (run s a) b = run (run s b) a)
    {step : α} {before : List α} (other : ∀ b ∈ before, kindOf b ≠ kindOf step) (s : σ) :
    run (before.foldl run s) step = before.foldl run (run s step) := by
  induction before generalizing s with
  | nil => rfl
  | cons b before ih =>
      obtain ⟨here, later⟩ := List.forall_mem_cons.1 other
      rw [List.foldl_cons, List.foldl_cons, ih later, comm s b step here]

/-- **Where steps of different kinds commute, histories with the same steps of each kind come to the
same.** -/
theorem foldl_eq_of_ofKind [DecidableEq κ]
    (comm : ∀ s a b, kindOf a ≠ kindOf b → run (run s a) b = run (run s b) a)
    {steps steps' : List α} (same : ∀ kind, ofKind kindOf kind steps = ofKind kindOf kind steps')
    (s : σ) : steps.foldl run s = steps'.foldl run s := by
  induction steps generalizing steps' s with
  | nil =>
      cases steps' with
      | nil => rfl
      | cons step rest => simpa [ofKind] using same (kindOf step)
  | cons step rest ih =>
      -- The first step of the one history is the first of its kind in the other.
      have first : ofKind kindOf (kindOf step) steps'
          = step :: ofKind kindOf (kindOf step) rest := by
        rw [← same]
        simp [ofKind]
      obtain ⟨before, after, rfl, other, -, tail⟩ := List.filter_eq_cons_iff.1 first
      replace other : ∀ b ∈ before, kindOf b ≠ kindOf step := by simpa using other
      have without : ∀ kind, ofKind kindOf kind rest = ofKind kindOf kind (before ++ after) := by
        intro kind
        have whole := same kind
        simp only [ofKind, List.filter_append, List.filter_cons] at whole ⊢
        by_cases here : kindOf step = kind
        · have none_ : before.filter (fun b => kindOf b = kind) = [] := by
            simpa [← here] using other
          subst here
          simpa [none_] using whole
        · simpa [here] using whole
      rw [List.foldl_cons, ih without, List.foldl_append, List.foldl_append, List.foldl_cons,
        foldl_past comm other]

end Steps

/-! ## Kinds of calls -/

/-- What a call declares. -/
inductive Call.Kind where
  | table
  | schema
  | columns
  | mapping
  | identity
  | configuration
  | predicates
  deriving DecidableEq, Repr

def Call.kind : Call → Kind
  | .table _ => .table
  | .schema _ => .schema
  | .addColumns _ | .addAllColumns => .columns
  | .mapColumns _ | .mapColumn _ _ => .mapping
  | .identity _ | .entityIdentity => .identity
  | .configure _ | .timeoutSeconds _ | .dialect _ => .configuration
  | .declare _ _ => .predicates

namespace Query

/-- Columns, and behind them those of some others that they do not hold yet. -/
def withColumns (columns others : List String) : List String :=
  others.foldl (fun held column => if held.contains column then held else held ++ [column]) columns

/-- What a call writes once its checks have passed: one part of the query. -/
def write (q : Query) : Call → Query
  | .table name => { q with table := name }
  | .schema name => { q with schema := some name }
  | .addColumns columns => { q with columns := withColumns q.columns columns }
  | .addAllColumns => { q with columns := withColumns q.columns q.entity.columns }
  | .mapColumns mapping => { q with mapping := q.mapping.merge mapping }
  | .mapColumn property column => { q with mapping := q.mapping.insert property column }
  | .configure config => { q with config }
  | .timeoutSeconds seconds => { q with config := q.config.withTimeoutSeconds seconds }
  | .dialect dialect => { q with config := q.config.withDialect dialect }
  | .identity column => { q with identity := some column }
  | .entityIdentity => { q with identity := q.entity.identity.or q.identity }
  | .declare joiner expr => { q with predicates := q.predicates.declare (joiner, expr) }

/-- **Calls of different kinds write different parts**, and neither reads what the other writes. -/
theorem write_comm (q : Query) (a b : Call) (apart : a.kind ≠ b.kind) :
    (q.write a).write b = (q.write b).write a := by
  cases a <;> cases b <;> first | rfl | exact absurd rfl apart

/-! ## Accepted calls -/

/-- What is checked on the way does not show in the columns that are staged. -/
theorem stageColumns_eq_withColumns {q : Query} {staged columns result : List String}
    (made : q.stageColumns staged columns = .ok result) : result = withColumns staged columns := by
  induction columns generalizing staged with
  | nil =>
      cases made
      rfl
  | cons column rest ih =>
      rw [stageColumns] at made
      rw [withColumns, List.foldl_cons]
      split at made
      · rename_i held
        rw [if_pos held]
        exact ih made
      · rename_i new
        obtain ⟨_, -, made⟩ := bind_eq_ok.1 made
        rw [if_neg new]
        exact ih made

theorem addColumns_eq_write {q q' : Query} {columns : List String}
    (added : q.addColumns columns = .ok q') :
    q' = { q with columns := withColumns q.columns columns } := by
  obtain ⟨staged, made, added⟩ := bind_eq_ok.1 added
  split at added
  · cases added
  · cases added
    rw [stageColumns_eq_withColumns made]

theorem setIdentity_eq_write {q q' : Query} {column : String}
    (set : q.setIdentity column = .ok q') : q' = { q with identity := some column } := by
  unfold setIdentity at set
  split at set
  · cases set
  · obtain ⟨_, -, set⟩ := bind_eq_ok.1 set
    split at set
    · cases set
    · cases set
      rfl

/-- **An accepted call has written its part and nothing else.** -/
theorem apply_eq_write {q q' : Query} {call : Call} (applied : q.apply call = .ok q') :
    q' = q.write call := by
  cases call with
  | table | schema | mapColumns | mapColumn =>
      obtain ⟨_, -, applied⟩ := bind_eq_ok.1 applied
      cases applied
      rfl
  | addColumns columns => exact addColumns_eq_write applied
  | addAllColumns => exact addColumns_eq_write applied
  | configure | timeoutSeconds | dialect =>
      cases applied
      rfl
  | identity column => exact setIdentity_eq_write applied
  | entityIdentity =>
      rw [apply] at applied
      split at applied
      · rename_i column named
        rw [setIdentity_eq_write applied, write, named, Option.some_or]
      · rename_i unnamed
        cases applied
        rw [write, unnamed, Option.none_or]
  | declare joiner expr =>
      obtain ⟨⟨predicates, n⟩, added, applied⟩ := bind_eq_ok.1 applied
      cases applied
      simp [write, Predicates.declare, added]

/-- No call of a history fails. -/
def Accepts (q : Query) (calls : List Call) : Prop := (q.trace calls).all Edit.succeeded = true

instance (q : Query) (calls : List Call) : Decidable (q.Accepts calls) :=
  inferInstanceAs (Decidable ((q.trace calls).all Edit.succeeded = true))

/-- A history of accepted calls leaves what they write. -/
theorem runInPlace_eq_write {q : Query} {calls : List Call} (accepted : q.Accepts calls) :
    q.runInPlace calls = calls.foldl write q := by
  induction calls generalizing q with
  | nil => rfl
  | cons call rest ih =>
      rw [Accepts, trace, List.all_cons, Bool.and_eq_true] at accepted
      obtain ⟨here, later⟩ := accepted
      cases applied : q.apply call with
      | error e =>
          rw [run_of_error applied] at here
          cases here
      | ok next =>
          rw [run_of_ok applied] at later
          rw [runInPlace_cons, run_of_ok applied, List.foldl_cons, ← apply_eq_write applied]
          exact ih later

/-- **How calls of different kinds are interleaved makes no difference.**  Two histories on one
query, in which no call fails and which have the same calls of each kind in the same order, end in
the same query.  It builds the same statement against each database, and it is committed in the same
steps on each connection, with or without waiting. -/
theorem interleaving_makes_no_difference {q : Query} {calls calls' : List Call}
    (accepted : q.Accepts calls) (accepted' : q.Accepts calls')
    (same : ∀ kind, ofKind Call.kind kind calls = ofKind Call.kind kind calls') :
    q.runInPlace calls = q.runInPlace calls'
      ∧ (∀ database, (q.runInPlace calls).build database = (q.runInPlace calls').build database)
      ∧ (∀ (σ : Type) (c : Connection σ) (stage : Stage σ),
        ((q.runInPlace calls).commitInPlace c).run stage
          = ((q.runInPlace calls').commitInPlace c).run stage)
      ∧ ∀ (σ : Type) (c : AsyncConnection σ) (stage : Stage σ),
        (q.runInPlace calls).commitAsync c stage = (q.runInPlace calls').commitAsync c stage := by
  have ends : q.runInPlace calls = q.runInPlace calls' := by
    rw [runInPlace_eq_write accepted, runInPlace_eq_write accepted']
    exact foldl_eq_of_ofKind write_comm same q
  refine ⟨ends, ?_, ?_, ?_⟩
  · intro database
    rw [ends]
  · intro σ c stage
    rw [ends]
  · intro σ c stage
    rw [ends]

/-- Calls of each kind, the columns before their mapping and the key in between. -/
def grouped : List Call :=
  [.addColumns ["Name"], .identity "Id", .addAllColumns, .mapColumn "Name" "Left",
    .mapColumns (.ofPairs [("Left", "gone"), ("Name", "full_name")]), .table "people",
    .schema "staff", .timeoutSeconds 5, .dialect .sqlServer,
    .declare .opening (.test "Name" .equal (.text "Tom")),
    .declare .or (.test "Id" .less (.int32 5))]

/-- The same calls, one of each kind by turns. -/
def shuffled : List Call :=
  [.declare .opening (.test "Name" .equal (.text "Tom")), .timeoutSeconds 5,
    .mapColumn "Name" "Left", .identity "Id", .addColumns ["Name"], .schema "staff",
    .declare .or (.test "Id" .less (.int32 5)), .dialect .sqlServer,
    .mapColumns (.ofPairs [("Left", "gone"), ("Name", "full_name")]), .addAllColumns,
    .table "people"]

theorem shuffled_calls_build_the_same :
    (start crew (some echo)).Accepts grouped ∧ (start crew (some echo)).Accepts shuffled
      ∧ (∀ kind, ofKind Call.kind kind grouped = ofKind Call.kind kind shuffled)
      ∧ (start crew (some echo)).runInPlace grouped = (start crew (some echo)).runInPlace shuffled
      ∧ ∃ s, ((start crew (some echo)).runInPlace shuffled).build "db" = .ok s
        ∧ s.sql = "UPDATE db.staff.people SET full_name = @Name, gone = @Left "
          ++ "WHERE full_name = @Name_cond0 OR Id < @Id_cond1" := by
  have accepted : (start crew (some echo)).Accepts grouped := by decide +kernel
  have accepted' : (start crew (some echo)).Accepts shuffled := by decide +kernel
  have same : ∀ kind, ofKind Call.kind kind grouped = ofKind Call.kind kind shuffled := by
    intro kind
    cases kind <;> rfl
  obtain ⟨ends, builds, -⟩ := interleaving_makes_no_difference accepted accepted' same
  exact ⟨accepted, accepted', same, ends, _, (builds "db").symm, rfl⟩

end Query

end Amend

/-
# Amend.Proofs.Absence — declaring without a row

A query can be declared before there is a row to write.  Whether a column has a
value is then asked of the entity, and otherwise of the row.  The two give the same
answer where the row has a value for the columns of its entity and for nothing
else, as the rows of an item do (`answeredBy_of_derive`).

So a call cannot tell whether there is a row: to forget the row and to make the
call come to the same in either order (`apply_absent`), and no call puts a row in
or changes the entity, so that this holds of a history from its first call to its
last (`absence_goes_unnoticed`).
-/
import Amend.Proofs.Deriving
import Amend.Proofs.Gathered

set_option autoImplicit false

namespace Amend

/-- A row has a value for the columns of an entity and for nothing else. -/
def Entity.AnsweredBy (entity : Entity) (row : Row) : Prop :=
  ∀ column, (row column).isSome = entity.columns.contains column

/-- **A row of an item answers for its entity**, whatever the values of its fields are. -/
theorem Declaration.answeredBy_of_derive {i : Item} {d : Derived} (made : i.derive = .ok d)
    (values : String → Value) : d.entity.AnsweredBy (d.row values) := by
  intro column
  rw [Bool.eq_iff_iff, isSome_row made, List.contains_iff_mem]

namespace Edit

variable {σ α : Type}

/-- Whether a change succeeded, with its result or its error. -/
def outcome : EStateM.Result Error σ α → Except Error α
  | .ok a _ => .ok a
  | .error e _ => .error e

end Edit

namespace Query

/-! ## One call -/

def absent (q : Query) : Query := { q with row := none }

/-- The row answers for the entity, if there is one. -/
def Answered (q : Query) : Prop := ∀ row ∈ q.row, q.entity.AnsweredBy row

section Absent

variable {q : Query}

theorem knows_absent (answered : q.Answered) (column : String) :
    q.absent.knows column = q.knows column := by
  unfold knows
  cases present : q.row with
  | none => rfl
  | some row => exact (answered row present column).symm

theorem checkColumn_absent (answered : q.Answered) (column : String) :
    q.absent.checkColumn column = q.checkColumn column := by
  unfold checkColumn
  rw [knows_absent answered]
  rfl

theorem stageColumns_absent (answered : q.Answered) (staged columns : List String) :
    q.absent.stageColumns staged columns = q.stageColumns staged columns := by
  induction columns generalizing staged with
  | nil => rfl
  | cons column rest ih => simp only [stageColumns, checkColumn_absent answered, ih]

theorem addColumns_absent (answered : q.Answered) (columns : List String) :
    q.absent.addColumns columns = (q.addColumns columns).map absent := by
  unfold addColumns
  rw [stageColumns_absent answered]
  refine bind_eq_map_bind fun staged => ?_
  rw [apply_ite (Except.map absent)]
  rfl

theorem setIdentity_absent (column : String) :
    q.absent.setIdentity column = (q.setIdentity column).map absent := by
  have same : q.absent.identity = q.identity := rfl
  unfold setIdentity
  rw [same]
  cases q.identity with
  | some existing => rfl
  | none =>
      refine bind_eq_map_bind fun _ => ?_
      rw [apply_ite (Except.map absent)]
      rfl

/-- **A call does to a query without its row what it does to the query.** -/
theorem apply_absent (answered : q.Answered) (call : Call) :
    q.absent.apply call = (q.apply call).map absent := by
  cases call with
  | table name => exact bind_eq_map_bind fun _ => rfl
  | schema name => exact bind_eq_map_bind fun _ => rfl
  | addColumns columns => exact addColumns_absent answered columns
  | addAllColumns => exact addColumns_absent answered q.entity.columns
  | mapColumns mapping => exact bind_eq_map_bind fun _ => rfl
  | mapColumn property column => exact bind_eq_map_bind fun _ => rfl
  | configure config => rfl
  | timeoutSeconds seconds => rfl
  | dialect dialect => rfl
  | identity column => exact setIdentity_absent column
  | entityIdentity =>
      have same : q.absent.entity = q.entity := rfl
      simp only [apply, same]
      cases q.entity.identity with
      | none => rfl
      | some column => exact setIdentity_absent column
  | declare joiner expr => exact bind_eq_map_bind fun _ => rfl

end Absent

/-! ## Histories -/

/-- Two queries that differ in their rows at most. -/
structure SameButRow (q q' : Query) : Prop where
  entity : q.entity = q'.entity
  table : q.table = q'.table
  schema : q.schema = q'.schema
  columns : q.columns = q'.columns
  mapping : q.mapping = q'.mapping
  identity : q.identity = q'.identity
  predicates : q.predicates = q'.predicates
  config : q.config = q'.config

theorem SameButRow.absent (q : Query) : q.SameButRow q.absent :=
  ⟨rfl, rfl, rfl, rfl, rfl, rfl, rfl, rfl⟩

/-- The same comes of two calls: one outcome, and queries that differ in their rows at most. -/
structure SameResult (x y : EStateM.Result Error Query Unit) : Prop where
  outcome : Edit.outcome x = Edit.outcome y
  left : (Edit.left x).SameButRow (Edit.left y)

/-- The same comes of each call of a history when the row is forgotten in front of it. -/
theorem trace_absent {entity : Entity} {row : Row} (answers : entity.AnsweredBy row)
    {accepted : List Call} {q : Query} (gathered : Gathered entity (some row) accepted q)
    (calls : List Call) : List.Forall₂ SameResult (q.trace calls) (q.absent.trace calls) := by
  -- An accepted call is gathered, and keeps the row and the entity by that.
  induction calls generalizing accepted q with
  | nil => exact .nil
  | cons call rest ih =>
      have answered : q.Answered := by
        obtain ⟨same, present⟩ := gathered.start
        intro row' here
        obtain rfl := Option.some.inj (present.symm.trans here)
        rw [same]
        exact answers
      have both := apply_absent answered call
      unfold trace
      cases applied : q.apply call with
      | ok next =>
          rw [applied] at both
          rw [run_of_ok applied, run_of_ok both]
          exact .cons ⟨rfl, .absent next⟩ (ih (gathered_apply gathered applied))
      | error e =>
          rw [applied] at both
          rw [run_of_error applied, run_of_error both]
          exact .cons ⟨rfl, .absent q⟩ (ih gathered)

open Declaration in
/-- **Calls do not notice that a row is absent.**  On a query of an item's entity each call of a
history has the same outcome, and leaves all but the row the same, whether the query was started on
a row of the item or on none. -/
theorem absence_goes_unnoticed {i : Item} {d : Derived} (made : i.derive = .ok d)
    (values : String → Value) (calls : List Call) :
    List.Forall₂ SameResult ((start d.entity (some (d.row values))).trace calls)
      ((start d.entity none).trace calls) :=
  trace_absent (answeredBy_of_derive made values) (.nothing d.entity _) calls

/-- Calls of which the first names a field that is left out, and the last a second key. -/
def shelfCalls : List Call :=
  [.addColumns ["title", "cache"], .mapColumn "title" "label", .addColumns ["title"],
    .entityIdentity, .addAllColumns, .identity "title"]

open Declaration in
theorem shelf_calls_unnoticed :
    ∃ d, shelf.derive = .ok d ∧ ∀ values,
      ((start d.entity (some (d.row values))).trace shelfCalls).map Edit.outcome
        = [.error (.missingValue "cache"), .ok (), .ok (), .ok (), .ok (),
          .error (.duplicateIdentity "type" "title")] := by
  have derives : ∃ d, shelf.derive = .ok d ∧ d.entity
      = { table := "shelves", identity := some "type", columns := ["type", "title"],
          mappings := [("type", "shelf_type")] } := ⟨_, rfl, by decide⟩
  obtain ⟨d, made, entity⟩ := derives
  refine ⟨d, made, fun values => ?_⟩
  have same := absence_goes_unnoticed made values shelfCalls
  rw [← map_eq_of_forall₂ same fun result => result.outcome.symm, entity]
  rfl

end Query

end Amend

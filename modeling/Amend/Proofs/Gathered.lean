/-
# Amend.Proofs.Gathered — what accepted calls add up to

The columns, the key and the mapping of a query are functions of the calls that
were accepted on it.  Of the columns that calls offer each stands where it came
first, the key is the first that was named, and of the pairs for a property the
last one counts.  Before any call the mapping is that of the entity, where of the
pairs for a property the first one counts.

`Gathered` says so of a query.  An accepted call keeps it (`gathered_apply`), and
so does a history (`gathered_runInPlace`).
-/
import Amend.Proofs.Readiness
import Mathlib.Data.List.Induction

set_option autoImplicit false

namespace Amend

/-! ## First occurrences -/

section FirstOccurrences

variable {α : Type} [BEq α] [LawfulBEq α]

/-- Behind other elements an element is kept unless it is among them. -/
theorem eraseDups_concat (l : List α) (a : α) :
    (l ++ [a]).eraseDups = if l.contains a then l.eraseDups else l.eraseDups ++ [a] := by
  rw [List.eraseDups_append]
  by_cases there : a ∈ l <;> simp [List.removeAll, there, List.eraseDups_cons]

theorem nodup_eraseDups (l : List α) : l.eraseDups.Nodup := by
  induction l using List.reverseRecOn with
  | nil => exact .nil
  | append_singleton l a ih =>
      rw [eraseDups_concat]
      split
      · exact ih
      · rename_i new
        have fresh : a ∉ l.eraseDups := by simpa using new
        exact List.nodup_append.2 ⟨ih, List.nodup_singleton a, by grind⟩

end FirstOccurrences

/-! ## Pairs of a mapping -/

namespace Mapping

theorem lookup_pair (property p c : String) (rest : List (String × String)) :
    ((p, c) :: rest).lookup property = if property = p then some c else rest.lookup property := by
  by_cases here : property = p <;> simp [List.lookup_cons, beq_eq_false_iff_ne.2, here]

/-- Of pairs that are inserted the last one for a property is found. -/
theorem column?_merge (m other : Mapping) (property : String) :
    (m.merge other).column? property
      = (other.pairs.reverse.lookup property).or (m.column? property) := by
  unfold merge
  generalize other.pairs = pairs
  induction pairs generalizing m with
  | nil => rfl
  | cons pair rest ih =>
      obtain ⟨p, c⟩ := pair
      rw [List.foldl_cons, ih, column?_insert, List.reverse_cons, List.lookup_append,
        Option.or_assoc, lookup_pair]
      split <;> rfl

/-- Of the pairs that an entity declares the first one for a property is found. -/
theorem column?_ofDefaults (pairs : List (String × String)) (property : String) :
    (ofDefaults pairs).column? property = pairs.lookup property := by
  have folded : ∀ (pairs : List (String × String)) (m : Mapping),
      (pairs.foldl (fun m pair => m.insertDefault pair.1 pair.2) m).column? property
        = (m.column? property).or (pairs.lookup property) := by
    intro pairs
    induction pairs with
    | nil => simp
    | cons pair rest ih =>
        intro m
        obtain ⟨p, c⟩ := pair
        rw [List.foldl_cons, ih, column?_insertDefault, lookup_pair]
        split
        · rename_i here
          rw [here]
          cases m.column? p <;> rfl
        · rfl
  exact folded pairs {}

end Mapping

/-! ## What a call gives -/

namespace Call

def key? (entity : Entity) : Call → Option String
  | .identity column => some column
  | .entityIdentity => entity.identity
  | _ => none

/-- The pairs of a property and its column that a call declares. -/
def pairs : Call → List (String × String)
  | .mapColumns mapping => mapping.pairs
  | .mapColumn property column => [(property, column)]
  | _ => []

end Call

/-- The columns that calls offer, each where it comes first. -/
def columnsOf (entity : Entity) (accepted : List Call) : List String :=
  (accepted.flatMap (Call.offered entity)).eraseDups

/-- The key: the first that a call names. -/
def keyOf (entity : Entity) (accepted : List Call) : Option String :=
  accepted.findSome? (Call.key? entity)

/-- The column of a property: that of the last of some pairs for it, or that of the first pair that
the entity declares for it, or else the property itself. -/
def columnFor (entity : Entity) (pairs : List (String × String)) (property : String) : String :=
  ((pairs.reverse.lookup property).or (entity.mappings.lookup property)).getD property

/-- A query is what calls add up to that were accepted on it. -/
structure Gathered (entity : Entity) (row : Option Row) (accepted : List Call) (q : Query) :
    Prop where
  start : q.entity = entity ∧ q.row = row
  columns : q.columns = columnsOf entity accepted
  key : q.identity = keyOf entity accepted
  mapping : ∀ property,
    q.mapping.resolve property = columnFor entity (accepted.flatMap Call.pairs) property
  /-- The columns are not the key alone. -/
  written : Query.onlyIdentity q.columns q.identity = false

namespace Gathered

variable {entity : Entity} {row : Option Row} {accepted : List Call} {q q' : Query} {call : Call}

theorem nothing (entity : Entity) (row : Option Row) :
    Gathered entity row [] (Query.start entity row) where
  start := ⟨rfl, rfl⟩
  columns := rfl
  key := rfl
  mapping := fun property => by
    simp [Query.start, Mapping.resolve, Mapping.column?_ofDefaults, columnFor]
  written := rfl

/-! ## One call -/

/-- A call that offers no column leaves the columns. -/
theorem columnsOf_concat (offers : call.offered entity = []) :
    columnsOf entity (accepted ++ [call]) = columnsOf entity accepted := by
  simp [columnsOf, offers]

theorem keyOf_concat :
    keyOf entity (accepted ++ [call]) = (keyOf entity accepted).or (call.key? entity) := by
  cases named : call.key? entity <;> simp [keyOf, List.findSome?_append, named]

theorem pairs_concat :
    (accepted ++ [call]).flatMap Call.pairs = accepted.flatMap Call.pairs ++ call.pairs := by
  simp

/-- A call that gives neither columns, nor a key, nor pairs leaves the query gathered. -/
theorem of_same (gathered : Gathered entity row accepted q)
    (gives : call.offered entity = [] ∧ call.key? entity = none ∧ call.pairs = [])
    (same : (q'.entity = q.entity ∧ q'.row = q.row) ∧ q'.columns = q.columns
      ∧ q'.identity = q.identity ∧ q'.mapping = q.mapping) :
    Gathered entity row (accepted ++ [call]) q' where
  start := ⟨same.1.1.trans gathered.start.1, same.1.2.trans gathered.start.2⟩
  columns := by rw [same.2.1, gathered.columns, columnsOf_concat gives.1]
  key := by rw [same.2.2.1, gathered.key, keyOf_concat, gives.2.1, Option.or_none]
  mapping := fun property => by
    rw [same.2.2.2, gathered.mapping, pairs_concat, gives.2.2, List.append_nil]
  written := by rw [same.2.1, same.2.2.1, gathered.written]

/-- Staging adds each column where it comes first. -/
theorem stageColumns_eq {staged columns result : List String} {offered : List String}
    (made : q.stageColumns staged columns = .ok result) (before : staged = offered.eraseDups) :
    result = (offered ++ columns).eraseDups := by
  -- A column counts as offered whether or not it is staged, so that the two lists part.
  induction columns generalizing staged offered with
  | nil =>
      cases made
      rw [before, List.append_nil]
  | cons column rest ih =>
      rw [Query.stageColumns] at made
      have there : staged.contains column = offered.contains column := by
        rw [before]
        simp [List.contains_eq_mem]
      have split_ : offered ++ column :: rest = (offered ++ [column]) ++ rest := by simp
      rw [split_]
      split at made
      · rename_i old
        refine ih made ?_
        rw [eraseDups_concat, ← there, if_pos old, before]
      · rename_i new
        obtain ⟨_, -, made⟩ := bind_eq_ok.1 made
        refine ih made ?_
        rw [eraseDups_concat, ← there, if_neg new, before]

theorem addColumns (gathered : Gathered entity row accepted q) {columns : List String}
    (gives : call.offered entity = columns ∧ call.key? entity = none ∧ call.pairs = [])
    (added : q.addColumns columns = .ok q') : Gathered entity row (accepted ++ [call]) q' := by
  obtain ⟨staged, made, added⟩ := bind_eq_ok.1 added
  have all := stageColumns_eq made gathered.columns
  split at added
  · cases added
  · rename_i written
    cases added
    exact {
      start := gathered.start
      columns := by simpa [columnsOf, gives.1] using all
      key := by rw [keyOf_concat, gives.2.1, Option.or_none, gathered.key]
      mapping := fun property => by
        rw [pairs_concat, gives.2.2, List.append_nil, gathered.mapping]
      written := by simpa using written }

theorem setIdentity (gathered : Gathered entity row accepted q) {column : String}
    (gives : call.offered entity = [] ∧ call.key? entity = some column ∧ call.pairs = [])
    (set : q.setIdentity column = .ok q') : Gathered entity row (accepted ++ [call]) q' := by
  unfold Query.setIdentity at set
  split at set
  · cases set
  · rename_i none_
    obtain ⟨_, -, set⟩ := bind_eq_ok.1 set
    split at set
    · cases set
    · rename_i written
      cases set
      exact {
        start := gathered.start
        columns := by rw [columnsOf_concat gives.1, gathered.columns]
        key := by rw [keyOf_concat, gives.2.1, ← gathered.key, none_, Option.none_or]
        mapping := fun property => by
          rw [pairs_concat, gives.2.2, List.append_nil, gathered.mapping]
        written := by simpa using written }

/-- Pairs that are merged into the mapping come behind those of earlier calls. -/
theorem mergeMapping (gathered : Gathered entity row accepted q) {other : Mapping}
    (gives : call.offered entity = [] ∧ call.key? entity = none ∧ call.pairs = other.pairs) :
    Gathered entity row (accepted ++ [call]) { q with mapping := q.mapping.merge other } where
  start := gathered.start
  columns := by rw [columnsOf_concat gives.1, gathered.columns]
  key := by rw [keyOf_concat, gives.2.1, Option.or_none, gathered.key]
  mapping := fun property => by
    have before := gathered.mapping property
    unfold Mapping.resolve columnFor at before ⊢
    rw [Mapping.column?_merge, pairs_concat, gives.2.2, List.reverse_append, List.lookup_append,
      Option.or_assoc]
    cases other.pairs.reverse.lookup property with
    | none => exact before
    | some column => rfl
  written := gathered.written

end Gathered

namespace Query

open Gathered in
/-- **An accepted call adds what it gives**, and the columns are not the key alone. -/
theorem gathered_apply {entity : Entity} {row : Option Row} {accepted : List Call}
    {q q' : Query} {call : Call} (gathered : Gathered entity row accepted q)
    (applied : q.apply call = .ok q') : Gathered entity row (accepted ++ [call]) q' := by
  cases call with
  | table name =>
      obtain ⟨_, -, applied⟩ := bind_eq_ok.1 applied
      cases applied
      exact gathered.of_same ⟨rfl, rfl, rfl⟩ ⟨⟨rfl, rfl⟩, rfl, rfl, rfl⟩
  | schema name =>
      obtain ⟨_, -, applied⟩ := bind_eq_ok.1 applied
      cases applied
      exact gathered.of_same ⟨rfl, rfl, rfl⟩ ⟨⟨rfl, rfl⟩, rfl, rfl, rfl⟩
  | addColumns columns => exact gathered.addColumns ⟨rfl, rfl, rfl⟩ applied
  | addAllColumns =>
      have offers : Call.addAllColumns.offered entity = q.entity.columns := by
        rw [gathered.start.1]
        rfl
      exact gathered.addColumns ⟨offers, rfl, rfl⟩ applied
  | mapColumns mapping =>
      obtain ⟨_, -, applied⟩ := bind_eq_ok.1 applied
      cases applied
      exact gathered.mergeMapping ⟨rfl, rfl, rfl⟩
  | mapColumn property column =>
      obtain ⟨_, -, applied⟩ := bind_eq_ok.1 applied
      cases applied
      let pair : Mapping := ⟨[(property, column)], List.nodup_singleton property⟩
      have gives : (Call.mapColumn property column).pairs = pair.pairs := rfl
      exact gathered.mergeMapping ⟨rfl, rfl, gives⟩
  | identity column => exact gathered.setIdentity ⟨rfl, rfl, rfl⟩ applied
  | entityIdentity =>
      simp only [apply] at applied
      split at applied
      · rename_i column named
        rw [gathered.start.1] at named
        exact gathered.setIdentity ⟨rfl, named, rfl⟩ applied
      · rename_i unnamed
        rw [gathered.start.1] at unnamed
        cases applied
        exact gathered.of_same ⟨rfl, unnamed, rfl⟩ ⟨⟨rfl, rfl⟩, rfl, rfl, rfl⟩
  | declare joiner expr =>
      obtain ⟨_, -, applied⟩ := bind_eq_ok.1 applied
      cases applied
      exact gathered.of_same ⟨rfl, rfl, rfl⟩ ⟨⟨rfl, rfl⟩, rfl, rfl, rfl⟩
  | configure | timeoutSeconds | dialect =>
      cases applied
      exact gathered.of_same ⟨rfl, rfl, rfl⟩ ⟨⟨rfl, rfl⟩, rfl, rfl, rfl⟩

/-- **A history adds up to what its accepted calls give.** -/
theorem gathered_runInPlace {entity : Entity} {row : Option Row} {accepted : List Call} {q : Query}
    (gathered : Gathered entity row accepted q) (calls : List Call) :
    Gathered entity row (accepted ++ q.succeeding calls) (q.runInPlace calls) := by
  -- A call that fails leaves the query, and is not among those that `succeeding` keeps.
  induction calls generalizing accepted q with
  | nil => simpa [succeeding, runInPlace] using gathered
  | cons call rest ih =>
      rw [runInPlace_cons]
      cases applied : q.apply call with
      | ok next =>
          have later := ih (gathered_apply gathered applied)
          rw [succeeding_cons_of_ok (run_of_ok applied), run_of_ok applied]
          simpa using later
      | error e =>
          rw [succeeding_cons_of_error (run_of_error applied), run_of_error applied]
          exact ih gathered

/-- A new query adds up to its accepted calls. -/
theorem gathered_history (entity : Entity) (row : Option Row) (calls : List Call) :
    Gathered entity row ((start entity row).succeeding calls)
      ((start entity row).runInPlace calls) :=
  gathered_runInPlace (.nothing entity row) calls

end Query

end Amend

/-
# Amend.Proofs.Renaming — a property has one column throughout a statement

Assignments and conditions get their columns on different ways: those of the SET
list are looked up one by one, and the conditions are mapped as a whole.  Both
come to `columnFor`, which looks a property up once and never its column, so that
a statement has one column for a property wherever it stands (`renaming_is_uniform`).

The pairs of a mapping come in any order.  No column depends on it, since each
property stands once among them: the column is that of the last accepted call that
gives the property one (`columnFor_eq`).  All that shows of the order is which pair
a refused call complains of, where several are faulty.

Mappings decide about columns alone: what is bound is the same without them
(`params_of_same`).
-/
import Amend.Proofs.SetList

set_option autoImplicit false

namespace Amend

/-! ## The last call that gives a column -/

namespace Mapping

/-- Since each property stands once, pairs are looked up from either end. -/
theorem lookup_reverse (m : Mapping) (property : String) :
    m.pairs.reverse.lookup property = m.column? property := by
  obtain ⟨pairs, distinct⟩ := m
  unfold column?
  induction pairs with
  | nil => rfl
  | cons pair rest ih =>
      obtain ⟨p, c⟩ := pair
      obtain ⟨fresh, later⟩ := List.nodup_cons.1 distinct
      rw [List.reverse_cons, List.lookup_append, ih later, lookup_pair, lookup_pair]
      split
      · rename_i here
        have absent : rest.lookup p = none := by
          refine List.lookup_eq_none_iff.2 fun pair member => ?_
          have other : p ≠ pair.1 := fun same => fresh (List.mem_map.2 ⟨pair, member, same.symm⟩)
          simpa using other
        rw [here, absent, Option.none_or]
      · exact Option.or_none

end Mapping

def Call.column? (property : String) : Call → Option String
  | .mapColumns mapping => mapping.column? property
  | .mapColumn p column => if property = p then some column else none
  | _ => none

theorem Call.lookup_pairs (call : Call) (property : String) :
    call.pairs.reverse.lookup property = call.column? property := by
  cases call with
  | mapColumns mapping => exact mapping.lookup_reverse property
  | mapColumn p column => exact Mapping.lookup_pair property p column []
  | _ => rfl

/-- The column of a property is that of the last call that gives it one. -/
theorem columnFor_eq (accepted : List Call) (entity : Entity) (property : String) :
    columnFor entity (accepted.flatMap Call.pairs) property
      = ((accepted.reverse.findSome? (Call.column? property)).or
        (entity.mappings.lookup property)).getD property := by
  have last : (accepted.flatMap Call.pairs).reverse.lookup property
      = accepted.reverse.findSome? (Call.column? property) := by
    -- The pairs of the first call are looked up last, and within a call from either end.
    induction accepted with
    | nil => rfl
    | cons call rest ih =>
        rw [List.flatMap_cons, List.reverse_append, List.lookup_append, List.reverse_cons,
          List.findSome?_append, call.lookup_pairs, ih]
        cases given : call.column? property <;> simp [given]
  rw [columnFor, last]

/-! ## Calls that map no column -/

/-- Whether a call gives columns to properties. -/
def Call.maps : Call → Bool
  | .mapColumns _ | .mapColumn _ _ => true
  | _ => false

/-- The calls that do not. -/
def unmapping (calls : List Call) : List Call := calls.filter fun call => !call.maps

theorem Call.gives_of_maps {call : Call} (maps : call.maps = true) (entity : Entity) :
    call.offered entity = [] ∧ call.key? entity = none ∧ declarations [call] = [] := by
  cases call <;> first | exact ⟨rfl, rfl, rfl⟩ | cases maps

/-- Mappings name nothing to be set and declare nothing. -/
theorem gives_unmapping (entity : Entity) (calls : List Call) :
    (unmapping calls).flatMap (Call.offered entity) = calls.flatMap (Call.offered entity)
      ∧ (unmapping calls).findSome? (Call.key? entity) = calls.findSome? (Call.key? entity)
      ∧ declarations (unmapping calls) = declarations calls := by
  induction calls with
  | nil => exact ⟨rfl, rfl, rfl⟩
  | cons call rest ih =>
      obtain ⟨offers, key, declares⟩ := ih
      rw [Query.declarations_cons call rest, List.flatMap_cons, List.findSome?_cons]
      cases maps : call.maps with
      | true =>
          have skipped : unmapping (call :: rest) = unmapping rest := by simp [unmapping, maps]
          obtain ⟨none_, unnamed, silent⟩ := Call.gives_of_maps maps entity
          rw [skipped, none_, unnamed, silent]
          exact ⟨offers, key, declares⟩
      | false =>
          have kept : unmapping (call :: rest) = call :: unmapping rest := by
            simp [unmapping, maps]
          rw [kept, Query.declarations_cons, List.flatMap_cons, List.findSome?_cons, offers, key,
            declares]
          exact ⟨rfl, rfl, rfl⟩

/-! ## Parameters -/

/-- What is bound by an assignment is a matter of the row and of the names that are taken, for the
name of a parameter is that of its property and never of a column. -/
theorem param_assignOne {s s' : Source} (row : s.row = s'.row)
    (taken : s.predicates.params = s'.predicates.params) {property : String}
    {n next next' : Plan.Naming} {a a' : Assignment}
    (made : Plan.assignOne s n property = .ok (a, next))
    (made' : Plan.assignOne s' n property = .ok (a', next')) :
    a.param = a'.param ∧ next = next' := by
  have named := assignOne_eq_ok made
  have named' := assignOne_eq_ok made'
  have found := named'.found
  rw [← taken] at found
  obtain ⟨name, last⟩ := Prod.mk.inj (named.found.symm.trans found)
  have value : some a.param.value = some a'.param.value :=
    calc some a.param.value = s.row property := named.value.symm
      _ = s'.row property := by rw [row]
      _ = some a'.param.value := named'.value
  have same : a.param = a'.param := congrArg₂ Param.mk name (Option.some.inj value)
  have params : next.params = next'.params := by
    ext1
    rw [named.added, named'.added, same]
  exact ⟨same, congrArg₂ Plan.Naming.mk params last⟩

theorem params_assign {s s' : Source} (row : s.row = s'.row)
    (taken : s.predicates.params = s'.predicates.params) {properties : List String}
    {n last last' : Plan.Naming} {as as' : List Assignment}
    (made : Plan.assign s n properties = .ok (as, last))
    (made' : Plan.assign s' n properties = .ok (as', last')) :
    as.map Assignment.param = as'.map Assignment.param := by
  induction properties generalizing n as as' with
  | nil =>
      cases made
      cases made'
      rfl
  | cons property rest ih =>
      obtain ⟨⟨a, next⟩, first, made⟩ := bind_eq_ok.1 made
      obtain ⟨⟨a', next'⟩, first', made'⟩ := bind_eq_ok.1 made'
      obtain ⟨⟨others, _⟩, tail, made⟩ := bind_eq_ok.1 made
      obtain ⟨⟨others', _⟩, tail', made'⟩ := bind_eq_ok.1 made'
      cases made
      cases made'
      obtain ⟨here, rfl⟩ := param_assignOne row taken first first'
      rw [List.map_cons, List.map_cons, here, ih tail tail']

/-- What is bound by clauses is found by the names in their conditions. -/
theorem params_clauses {params : ParamList} {cs : List Condition} {clauses : List Clause}
    (made : List.Forall₂ (fun c clause => Plan.clause params c = .ok clause) cs clauses) :
    clauses.filterMap Clause.param = cs.filterMap fun c => c.param.bind params.get? := by
  have found : clauses.map Clause.param = cs.map fun c => c.param.bind params.get? :=
    map_eq_of_forall₂ made fun clause => (clause_eq_ok clause).2.2.2.1
  simpa [List.filterMap_map, Function.comp_def] using congrArg (List.filterMap id) found

namespace Query

/-- The parameters of statements are the same where the names to be set, the row and the
predicates are, whatever columns they are mapped to. -/
theorem params_of_same {q q' : Query} {database database' : String} {s s' : Statement}
    (rows : q.row = q'.row)
    (names : setColumns q.columns q.identity = setColumns q'.columns q'.identity)
    (predicates : q.predicates = q'.predicates) (built : q.build database = .ok s)
    (built' : q'.build database' = .ok s') : s.params = s'.params := by
  obtain ⟨row, table, p, present, -, made, rfl⟩ := plan_of_build built
  obtain ⟨row', table', p', present', -, made', rfl⟩ := plan_of_build built'
  obtain rfl : row = row' := Option.some.inj (present.symm.trans (rows.trans present'))
  obtain ⟨-, -, ⟨last, assigned⟩, clauses⟩ := parts_of_assemble made
  obtain ⟨-, -, ⟨last', assigned'⟩, clauses'⟩ := parts_of_assemble made'
  have written : (q.source table row).row = (q'.source table' row).row := rfl
  have taken : (q.source table row).predicates.params
      = (q'.source table' row).predicates.params := by
    show q.predicates.params = q'.predicates.params
    rw [predicates]
  have set : p.assignments.map Assignment.param = p'.assignments.map Assignment.param := by
    have same : setColumns (q.source table row).columns (q.source table row).identity
        = setColumns (q'.source table' row).columns (q'.source table' row).identity := names
    rw [same] at assigned
    exact params_assign written taken assigned assigned'
  have compared : p.clauses.filterMap Clause.param = p'.clauses.filterMap Clause.param := by
    rw [params_clauses clauses, params_clauses clauses']
    simp only [source, ordered_mapped, Mapping.apply, List.filterMap_map, predicates]
    rfl
  exact congrArg₂ (· ++ ·) set compared

/-! ## Histories -/

/-- **A property has one column throughout a statement**: that of the last accepted call that gives
it one, or the first that its entity declares for it, or else its own name.  It is looked up once,
and when the calls were made does not matter.  Of two histories that differ in mappings alone, the
statements that are built have the same parameters. -/
theorem renaming_is_uniform (entity : Entity) (row : Option Row) (calls : List Call) :
    let q := (start entity row).runInPlace calls
    let accepted := (start entity row).succeeding calls
    let columnOf := columnFor entity (accepted.flatMap Call.pairs)
    (∀ database s, q.build database = .ok s → ∃ o, Outline.read? s.sql = some o
        ∧ List.Forall₂ (fun property entry =>
            Ident.parse (columnOf property) = .ok (Prod.fst entry))
          (namesToSet entity accepted) o.body.assignments
        ∧ List.Forall₂ (fun (c : Condition) (entry : Joiner × Term) =>
            Ident.parse (columnOf c.property) = .ok entry.2.column)
          q.predicates.ordered o.body.clauses)
      ∧ (∀ property, columnOf property
        = ((accepted.reverse.findSome? (Call.column? property)).or
          (entity.mappings.lookup property)).getD property)
      ∧ ∀ calls', unmapping ((start entity row).succeeding calls') = unmapping accepted →
        ∀ database database' s s', q.build database = .ok s →
          ((start entity row).runInPlace calls').build database' = .ok s' →
          s'.params = s.params := by
  intro q accepted columnOf
  have gathered : Gathered entity row accepted q := gathered_history entity row calls
  have resolved : ∀ property, columnOf property = q.mapping.resolve property :=
    fun property => (gathered.mapping property).symm
  refine ⟨fun database s built => ?_, columnFor_eq accepted entity,
    fun calls' same database database' s s' built built' => ?_⟩
  · obtain ⟨values, table, o, -, read, -, spells, -⟩ :=
      outline_of_build (predicates_runInPlace entity row calls) built
    have set : List.Forall₂ (fun property entry =>
        Ident.read (q.mapping.resolve property) = .ok (Prod.fst entry))
        (setColumns q.columns q.identity) o.body.assignments := spells.columns
    have compared := spells.conditions
    rw [gathered.names] at set
    simp only [source, ordered_mapped, Mapping.apply, List.forall₂_map_left_iff] at compared
    refine ⟨o, read, set.imp fun property entry column => ?_,
      compared.imp fun c entry said => ?_⟩
    · rw [resolved]
      exact Ident.read_eq_ok.1 column
    · rw [resolved]
      exact Ident.read_eq_ok.1 said.column
  · have gathered' := gathered_history entity row calls'
    obtain ⟨offers, key, declares⟩ := gives_unmapping entity accepted
    obtain ⟨offers', key', declares'⟩ :=
      gives_unmapping entity ((start entity row).succeeding calls')
    refine params_of_same (gathered'.start.2.trans gathered.start.2.symm) ?_ ?_ built' built
    · rw [gathered'.names, gathered.names, namesToSet, namesToSet, columnsOf, columnsOf, keyOf,
        keyOf, ← offers, ← offers', ← key, ← key', same]
    · rw [← runInPlace_succeeding, predicates_runInPlace, ← declares', same, declares,
        ← predicates_runInPlace entity row, runInPlace_succeeding]

/-- A column that has a column of its own is not looked up again. -/
example : columnFor crew [("Name", "Left"), ("Left", "gone")] "Name" = "Left" := by decide +kernel

/-- Calls that set two properties, of which one is compared. -/
def plainCalls : List Call :=
  [.addColumns ["Name", "Left"], .declare .or (.test "Name" .equal (.text "Tom"))]

/-- A mapping where the column of one property is the name of another. -/
def chain : Mapping := .ofPairs [("Name", "Left"), ("Left", "gone")]

/-- The same calls with mappings in front of them and behind, one of which is refused. -/
def chainedCalls : List Call :=
  .mapColumns chain :: plainCalls ++ [.mapColumn "Name" "no name", .mapColumn "Left" "Id"]

theorem chained_renaming_is_uniform :
    let columnOf := columnFor crew [("Name", "Left"), ("Left", "gone"), ("Left", "Id")]
    ∃ s s' o, ((start crew (some echo)).runInPlace chainedCalls).build "db" = .ok s
      ∧ ((start crew (some echo)).runInPlace plainCalls).build "other db" = .ok s'
      ∧ s'.params = s.params ∧ Outline.read? s.sql = some o
      ∧ List.Forall₂ (fun property entry => Ident.parse (columnOf property) = .ok (Prod.fst entry))
        ["Name", "Left"] o.body.assignments
      ∧ columnOf "Name" = "Left" ∧ columnOf "Left" = "Id" := by
  obtain ⟨columns, last, same⟩ := renaming_is_uniform crew (some echo) chainedCalls
  have builds : ∃ s, ((start crew (some echo)).runInPlace chainedCalls).build "db" = .ok s :=
    ⟨_, rfl⟩
  have builds' : ∃ s, ((start crew (some echo)).runInPlace plainCalls).build "other db" = .ok s :=
    ⟨_, rfl⟩
  obtain ⟨s, built⟩ := builds
  obtain ⟨s', built'⟩ := builds'
  obtain ⟨o, read, set, -⟩ := columns "db" s built
  have plain : unmapping ((start crew (some echo)).succeeding plainCalls) = plainCalls := rfl
  have chained : unmapping ((start crew (some echo)).succeeding chainedCalls) = plainCalls := rfl
  have params := same plainCalls (plain.trans chained.symm) _ _ s s' built built'
  exact ⟨s, s', o, built, built', params, read, set, last "Name", last "Left"⟩

end Query

end Amend

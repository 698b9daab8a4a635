/-
# Amend.Proofs.Assembly — what an assembled plan holds

A plan that `Plan.assemble` makes has one assignment for each column of the SET
list and one clause for each declared condition, both in order
(`assemble_eq_ok`).  An assignment has the row's value of its column; a clause
finds, by name, the very value that was declared with its condition.
-/
import Amend.Proofs.Order
import Amend.Proofs.Rendering

set_option autoImplicit false

namespace Amend

open Plan (Naming)

/-! ## Parts of a plan -/

/-- An assignment to a property: its column, and the row's value under a name. -/
structure Assigned (s : Source) (property : String) (a : Assignment) : Prop where
  column : Ident.read (s.mapping.resolve property) = .ok a.column
  value : s.row property = some a.param.value
  named : Param.IsName a.param.name

/-- The clause of a declared condition: its column, and its value under a name. -/
structure Restated (m : Mapping) (d : Declared) (c : Clause) : Prop where
  joiner : c.joiner = d.joiner
  column : Ident.read (m.resolve d.leaf.property) = .ok c.column
  op : c.op = d.leaf.op
  value : c.param.map Param.value = d.leaf.value
  named : ∀ p ∈ c.param, Param.IsName p.name

/-- Predicates as they are after calls, each condition with the column of its property. -/
def Reached (calls : List (Joiner × Expr)) (m : Mapping) (p : Predicates) : Prop :=
  p = (Predicates.after calls).mapped m

/-- The conditions that calls declare, those of a refused call left out. -/
def conditionsOf (calls : List (Joiner × Expr)) : List Declared :=
  declaredBy (({} : Predicates).accepted calls)

/-! ## Assignments -/

/-- All that comes of an assignment to a property: it is bound under the name that is free, and that
name is behind the others. -/
structure Named (s : Source) (n : Naming) (property : String) (a : Assignment) (n' : Naming) :
    Prop where
  parsed : ∃ i, Ident.parse property = .ok i
  column : Ident.read (s.mapping.resolve property) = .ok a.column
  value : s.row property = some a.param.value
  found : Param.freeName (n.params.names ++ s.predicates.params.names) (Param.baseName property)
    n.last = (a.param.name, n'.last)
  added : n'.params.params = n.params.params ++ [a.param]

theorem assignOne_eq_ok {s : Source} {n n' : Naming} {property : String} {a : Assignment}
    (made : Plan.assignOne s n property = .ok (a, n')) : Named s n property a n' := by
  obtain ⟨i, parsed, made⟩ := bind_eq_ok.1 made
  obtain ⟨column, resolved, made⟩ := bind_eq_ok.1 made
  rw [Ident.read_eq_ok] at parsed
  dsimp only at made
  split at made
  · cases made
  · rename_i value valued
    rw [Param.push_freeName] at made
    cases made
    exact ⟨⟨i, parsed⟩, resolved, valued, rfl, rfl⟩

theorem Named.assigned {s : Source} {n n' : Naming} {property : String} {a : Assignment}
    (named : Named s n property a n') : Assigned s property a := by
  obtain ⟨i, parsed⟩ := named.parsed
  have word := Param.isWord_freeName (Param.isWord_baseName parsed)
    (n.params.names ++ s.predicates.params.names) n.last
  rw [named.found] at word
  exact ⟨named.column, named.value, word.isName⟩

/-- Each column of the list has its assignment. -/
theorem assign_eq_ok {s : Source} {n n' : Naming} {properties : List String}
    {as : List Assignment} (made : Plan.assign s n properties = .ok (as, n')) :
    List.Forall₂ (Assigned s) properties as := by
  induction properties generalizing n n' as with
  | nil =>
      cases made
      exact .nil
  | cons property rest ih =>
      obtain ⟨⟨a, next⟩, first, made⟩ := bind_eq_ok.1 made
      obtain ⟨⟨others, last⟩, tail, made⟩ := bind_eq_ok.1 made
      cases made
      exact .cons (assignOne_eq_ok first).assigned (ih tail)

/-! ## Clauses -/

/-- A parameter is the one that its name finds. -/
theorem get?_of_mem {l : ParamList} {p : Param} (member : p ∈ l.params) :
    l.get? p.name = some p := by
  obtain ⟨params, distinct⟩ := l
  unfold ParamList.get?
  induction params with
  | nil => cases member
  | cons q params ih =>
      obtain ⟨fresh, rest⟩ := List.nodup_cons.1 distinct
      rcases List.mem_cons.1 member with rfl | member
      · simp
      · have other : q.name ≠ p.name := fun same =>
          fresh (same ▸ List.mem_map_of_mem member)
        simpa [List.find?_cons, other] using ih rest member

/-- A clause is its condition, with the parameter that the name in it finds. -/
theorem clause_eq_ok {params : ParamList} {c : Condition} {clause : Clause}
    (made : Plan.clause params c = .ok clause) :
    Ident.read c.column = .ok clause.column ∧ clause.joiner = c.joiner ∧ clause.op = c.op
      ∧ clause.param = c.param.bind params.get? ∧ clause.param.isSome = c.param.isSome := by
  obtain ⟨column, parsed, made⟩ := bind_eq_ok.1 made
  cases param : c.param with
  | none =>
      simp only [param] at made
      cases made
      exact ⟨parsed, rfl, rfl, rfl, rfl⟩
  | some name =>
      simp only [param] at made
      split at made
      · rename_i found
        cases made
        exact ⟨parsed, rfl, rfl, found.symm, rfl⟩
      · cases made

/-- The clause of a condition has the value that was declared, where its name finds it. -/
theorem restated_of_clause {m : Mapping} {params : ParamList} {d : Declared} {c : Clause}
    {sort number : Nat} (formed : d.leaf.WellFormed)
    (bound : ∀ p ∈ paramsFrom number [d], params.get? p.name = some p)
    (made : Plan.clause params
      { d.condition sort number with column := m.resolve d.leaf.property } = .ok c) :
    Restated m d c := by
  obtain ⟨column, joiner, op, param, -⟩ := clause_eq_ok made
  obtain ⟨i, parsed⟩ := formed.1
  simp only [Declared.condition] at param
  cases value : d.leaf.value with
  | none =>
      rw [value] at param
      exact ⟨joiner, column, op, by rw [param, value]; rfl, by simp [param]⟩
  | some v =>
      have found := bound ⟨Param.conditionName d.leaf.property number, v⟩
        (by simp [paramsFrom, value])
      rw [value, Option.map_some, Option.bind_some, found] at param
      refine ⟨joiner, column, op, by rw [param, value]; rfl, fun p member => ?_⟩
      rw [param] at member
      obtain rfl := Option.mem_some.1 member
      exact (Param.isWord_conditionName parsed number).isName

/-- Each condition of the list has its clause. -/
theorem clauses_eq_ok {m : Mapping} {params : ParamList} {ds : List Declared}
    {clauses : List Clause} {sort number : Nat} (formed : ∀ d ∈ ds, d.leaf.WellFormed)
    (bound : ∀ p ∈ paramsFrom number ds, params.get? p.name = some p)
    (made : List.Forall₂ (fun c clause => Plan.clause params c = .ok clause)
      (m.apply (conditionsFrom sort number ds)) clauses) :
    List.Forall₂ (Restated m) ds clauses := by
  induction ds generalizing sort number clauses with
  | nil =>
      cases made
      exact .nil
  | cons d ds ih =>
      obtain ⟨clause, rest, head, tail, rfl⟩ := List.forall₂_cons_left_iff.1 made
      have here : Restated m d clause :=
        restated_of_clause (formed d (by simp))
          (fun p member => bound p (by simp_all [paramsFrom])) head
      refine .cons here (ih (fun e member => formed e (by simp [member])) ?_ tail)
      exact fun p member => bound p (by simp [paramsFrom, member])

/-! ## The plan -/

theorem ordered_reached {calls : List (Joiner × Expr)} {m : Mapping} {p : Predicates}
    (reached : Reached calls m p) :
    p.ordered = m.apply (conditionsFrom 0 0 (conditionsOf calls))
      ∧ p.params = .ofDeclared (conditionsOf calls) := by
  subst reached
  rw [ordered_mapped, Predicates.after_eq, ordered_ofDeclared]
  exact ⟨rfl, rfl⟩

/-- The parts of a plan, each with the computation that it comes from. -/
theorem parts_of_assemble {s : Source} {p : Plan} (made : Plan.assemble s = .ok p) :
    p.table = s.table ∧ setColumns s.columns s.identity ≠ []
      ∧ (∃ last, Plan.assign s {} (setColumns s.columns s.identity) = .ok (p.assignments, last))
      ∧ List.Forall₂ (fun c clause => Plan.clause s.predicates.params c = .ok clause)
        s.predicates.ordered p.clauses := by
  unfold Plan.assemble at made
  dsimp only at made
  split at made
  · cases made
  · rename_i nonempty
    obtain ⟨⟨assignments, last⟩, assigned, made⟩ := bind_eq_ok.1 made
    obtain ⟨clauses, restated, made⟩ := bind_eq_ok.1 made
    cases made
    exact ⟨rfl, fun empty => nonempty (by simp [empty]), ⟨last, assigned⟩, mapM_eq_ok.1 restated⟩

/-- **A plan has an assignment for each column and a clause for each condition.** -/
theorem assemble_eq_ok {calls : List (Joiner × Expr)} {m : Mapping} {s : Source} {p : Plan}
    (reached : Reached calls m s.predicates) (made : Plan.assemble s = .ok p) :
    p.table = s.table ∧ p.assignments ≠ []
      ∧ List.Forall₂ (Assigned s) (setColumns s.columns s.identity) p.assignments
      ∧ List.Forall₂ (Restated m) (conditionsOf calls) p.clauses := by
  obtain ⟨ordered, params⟩ := ordered_reached reached
  obtain ⟨table, nonempty, ⟨last, assigned⟩, restated⟩ := parts_of_assemble made
  have columns := assign_eq_ok assigned
  rw [ordered, params] at restated
  have conditions := clauses_eq_ok (fun _ => wellFormed_of_accepted)
    (fun p member => get?_of_mem member) restated
  refine ⟨table, fun empty => nonempty ?_, columns, conditions⟩
  rw [empty] at columns
  exact List.forall₂_nil_right_iff.1 columns

/-- Every identifier and name of a plan can be written. -/
theorem wellFormed_of_assemble {calls : List (Joiner × Expr)} {m : Mapping} {s : Source}
    {p : Plan} (reached : Reached calls m s.predicates) (made : Plan.assemble s = .ok p) :
    p.WellFormed := by
  obtain ⟨-, nonempty, assigned, restated⟩ := assemble_eq_ok reached made
  refine ⟨nonempty, fun a member => ?_, fun c member => ?_⟩
  · obtain ⟨property, -, written⟩ := exists_of_forall₂_right assigned member
    exact ⟨Ident.wellFormed_of_read written.column, written.named⟩
  · obtain ⟨d, declared, stated⟩ := exists_of_forall₂_right restated member
    obtain ⟨-, binds⟩ := wellFormed_of_accepted declared
    refine ⟨Ident.wellFormed_of_read stated.column, ?_, stated.named⟩
    rw [stated.op, binds, ← stated.value, Option.isSome_map]

/-! ## A statement -/

/-- Declarations on two properties, one of which is compared with `NULL`. -/
def sampleCalls : List (Joiner × Expr) :=
  [(.opening, .test "Id" .equal (.int64 7)), (.or, .test "Left" .notEqual .null)]

/-- Columns for two properties, one of which has to be quoted. -/
def sampleMapping : Mapping := ⟨[("Name", "\"full name\""), ("Left", "left_at")], by decide⟩

/-- A statement that writes a column twice, under names that look like more than one name. -/
def sample : Source where
  table := ⟨.quoted "a.b", .plain "public", .quoted "x SET \"y\" = $1"⟩
  columns := ["Id", "Name", "Name"]
  identity := some "Id"
  mapping := sampleMapping
  predicates := (Predicates.after sampleCalls).mapped sampleMapping
  row := fun property => if property = "Name" then some (.text "Tom") else none

end Amend

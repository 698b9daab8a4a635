/-
# Amend.Proofs.Placeholders — every placeholder has its value

A statement is sent as a text and a list of parameters.  `Paired` says that the
two belong together: from left to right the placeholders are those of the list,
the ones behind SET have the row's values of their columns, and the ones behind
WHERE have the values that were declared with their conditions.

`placeholders_pair_with_params` proves it of each plan that can be assembled, in
both dialects with one list of parameters.
-/
import Amend.Proofs.Assembly

set_option autoImplicit false

namespace Amend

/-! ## What belongs together -/

/-- The comparisons that calls declare, those of a refused call left out. -/
def testsOf (calls : List (Joiner × Expr)) : List Test :=
  (({} : Predicates).accepted calls).flatMap fun call => call.2.comparisons

/-- Conditions, each with the next parameter of a list where it has a placeholder. -/
def deal : List Term → List Param → List (Term × Option Param)
  | [], _ => []
  | t :: ts, ps =>
    if t.mark.isSome then (t, ps.head?) :: deal ts ps.tail else (t, none) :: deal ts ps

/-- An entry of the SET list writes the row's value of a column. -/
structure Writes (s : Source) (property : String) (entry : (Ident × String) × Param) : Prop where
  column : Ident.read (s.mapping.resolve property) = .ok entry.1.1
  value : s.row property = some entry.2.value

/-- A condition of a text compares as it was declared, with the value that was declared; against
`NULL` it has neither a placeholder nor a parameter. -/
structure Compares (m : Mapping) (t : Test) (entry : Term × Option Param) : Prop where
  column : Ident.read (m.resolve t.property) = .ok entry.1.column
  op : entry.1.op = t.operator
  marked : entry.1.mark.isSome = !t.value.isNull
  value : entry.2.map Param.value = t.bound

/-- What the text of a statement says belongs to its parameters. -/
structure Paired (s : Source) (m : Mapping) (tests : List Test) (d : Dialect) (body : Body)
    (params : List Param) : Prop where
  marks : body.marks = d.placeholders params
  length : body.assignments.length = (setColumns s.columns s.identity).length
  written : List.Forall₂ (Writes s) (setColumns s.columns s.identity)
    (body.assignments.zip params)
  compared : List.Forall₂ (Compares m) tests
    (deal (body.clauses.map Prod.snd) (params.drop body.assignments.length))

/-! ## Conditions and comparisons -/

theorem map_leaf_conditionsOf (calls : List (Joiner × Expr)) :
    (conditionsOf calls).map Declared.leaf = (testsOf calls).map Test.leaf := by
  unfold conditionsOf declaredBy testsOf
  induction ({} : Predicates).accepted calls with
  | nil => rfl
  | cons call rest ih =>
      simp only [List.flatMap_cons, List.map_append, ih]
      rw [Expr.declares, map_leaf_tag]

/-- The clause of a condition on a comparison. -/
structure Stated (m : Mapping) (t : Test) (c : Clause) : Prop where
  column : Ident.read (m.resolve t.property) = .ok c.column
  op : c.op = t.operator
  value : c.param.map Param.value = t.bound

/-- Each comparison has its clause. -/
theorem stated_of_restated {m : Mapping} {calls : List (Joiner × Expr)} {clauses : List Clause}
    (restated : List.Forall₂ (Restated m) (conditionsOf calls) clauses) :
    List.Forall₂ (Stated m) (testsOf calls) clauses := by
  have leaves : List.Forall₂ (fun (l : Leaf) (c : Clause) =>
      Ident.read (m.resolve l.property) = .ok c.column ∧ c.op = l.op
        ∧ c.param.map Param.value = l.value)
      ((conditionsOf calls).map Declared.leaf) clauses :=
    List.forall₂_map_left_iff.2
      (restated.imp fun _ _ r => ⟨r.column, r.op, r.value⟩)
  rw [map_leaf_conditionsOf] at leaves
  exact (List.forall₂_map_left_iff.1 leaves).imp fun _ _ ⟨column, op, value⟩ =>
    ⟨column, op, value⟩

/-! ## Parameters of clauses -/

theorem isSome_bound (t : Test) : t.bound.isSome = !t.value.isNull := by
  unfold Test.bound
  cases t.value.isNull <;> rfl

theorem compares_term {m : Mapping} {t : Test} {c : Clause} (stated : Stated m t c)
    (d : Dialect) (number : Nat) : Compares m t (Plan.term d number c, c.param) := by
  refine ⟨stated.column, stated.op, ?_, stated.value⟩
  rw [← isSome_bound, ← stated.value]
  simp [Plan.term]

/-- Dealt out again, the parameters of clauses are back at their clauses. -/
theorem deal_clauseTerms {m : Mapping} (d : Dialect) (number : Nat) {tests : List Test}
    {clauses : List Clause} (stated : List.Forall₂ (Stated m) tests clauses) :
    List.Forall₂ (Compares m) tests
      (deal ((Plan.clauseTerms d number clauses).map Prod.snd)
        (clauses.filterMap Clause.param)) := by
  induction stated generalizing number with
  | nil => exact .nil
  | @cons t c tests clauses head tail ih =>
      have compares := compares_term head d number
      have rest := ih (Plan.after number c)
      cases param : c.param with
      | none =>
          have unmarked : (Plan.term d number c).mark.isSome = false := by
            simp [Plan.term, param]
          rw [param] at compares
          simp only [Plan.clauseTerms, List.map_cons, deal, unmarked, List.filterMap_cons, param]
          exact .cons compares rest
      | some p =>
          have marked : (Plan.term d number c).mark.isSome = true := by
            simp [Plan.term, param]
          rw [param] at compares
          simp only [Plan.clauseTerms, List.map_cons, deal, marked, List.filterMap_cons, param]
          exact .cons compares rest

/-! ## The SET list -/

theorem writes_assignmentMarks {s : Source} (d : Dialect) (number : Nat)
    {columns : List String} {as : List Assignment} (rest : List Param)
    (assigned : List.Forall₂ (Assigned s) columns as) :
    List.Forall₂ (Writes s) columns
      ((Plan.assignmentMarks d number as).zip (as.map Assignment.param ++ rest)) := by
  induction assigned generalizing number with
  | nil => exact .nil
  | cons head tail ih => exact .cons ⟨head.column, head.value⟩ (ih (number + 1))

/-! ## The whole statement -/

theorem paired_body {calls : List (Joiner × Expr)} {m : Mapping} {s : Source} {p : Plan}
    (reached : Reached calls m s.predicates) (made : Plan.assemble s = .ok p) (d : Dialect) :
    Paired s m (testsOf calls) d (p.body d) p.params := by
  obtain ⟨-, -, assigned, restated⟩ := assemble_eq_ok reached made
  have count : (p.body d).assignments.length = p.assignments.length := by
    simpa [Plan.body] using congrArg List.length (Plan.map_snd_assignmentMarks d 0 p.assignments)
  refine ⟨Plan.marks_body d p, count.trans assigned.length_eq.symm, ?_, ?_⟩
  · exact writes_assignmentMarks d 0 _ assigned
  · have dropped : p.params.drop p.assignments.length = p.clauses.filterMap Clause.param := by
      simp [Plan.params]
    have clauses : (p.body d).clauses.map Prod.snd
        = (Plan.clauseTerms d p.assignments.length p.clauses).map Prod.snd :=
      Plan.map_snd_opened _
    rw [count, dropped, clauses]
    exact deal_clauseTerms d p.assignments.length (stated_of_restated restated)

/-- **Placeholders pair with parameters.**  Whatever table, columns, key, mapping, row and
declarations a statement is made from, behind SET its text says a body whose placeholders, from
left to right, are those of the parameters, each with the value that belongs there; and the
parameters are the same in both dialects. -/
theorem placeholders_pair_with_params {calls : List (Joiner × Expr)} {m : Mapping} {s : Source}
    {p : Plan} (reached : Reached calls m s.predicates) (made : Plan.assemble s = .ok p) :
    ∃ params : List Param, ∀ d : Dialect, (p.statement d).params = params ∧
      ∃ body : Body, (p.statement d).sql = "UPDATE " ++ s.table.sql ++ " SET " ++ body.text
        ∧ Body.read? body.text = some body
        ∧ Paired s m (testsOf calls) d body params := by
  have formed := wellFormed_of_assemble reached made
  have table := (assemble_eq_ok reached made).1
  refine ⟨p.params, fun d => ⟨rfl, p.body d, ?_, ?_, paired_body reached made d⟩⟩
  · have text := Plan.render_eq_text d formed.nonempty
    rw [← table]
    exact text
  · exact Body.read?_text (Plan.body_wellFormed formed d)

theorem placeholders_pair_in_sample :
    ∃ p, Plan.assemble sample = .ok p ∧ Reached sampleCalls sampleMapping sample.predicates
      ∧ ∃ params : List Param, ∀ d : Dialect, (p.statement d).params = params ∧
        ∃ body : Body, (p.statement d).sql = "UPDATE " ++ sample.table.sql ++ " SET " ++ body.text
          ∧ Body.read? body.text = some body
          ∧ Paired sample sampleMapping (testsOf sampleCalls) d body params :=
  ⟨_, rfl, rfl, placeholders_pair_with_params rfl rfl⟩

end Amend

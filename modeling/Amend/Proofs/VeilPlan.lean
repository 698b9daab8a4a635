/-
# Amend.Proofs.VeilPlan — statements with their values veiled

Veiling goes on from declarations to statements: a plan assembled from a veiled
source is the plan of the source under a veil, with the same text (`render_veil`).
Of a row only this is read, whether it has a value for a property.
-/
import Amend.Proofs.Veil
import Amend.Statement

set_option autoImplicit false

namespace Amend

/-! ## Veils -/

/-- A row with its values covered, those that are `NULL` among them. -/
def Row.veil (row : Row) : Row := fun property => (row property).map fun _ => .cover

/-- A source with the values of its row and its conditions covered. -/
def Source.veil (s : Source) : Source :=
  { s with predicates := s.predicates.veil, row := s.row.veil }

def Assignment.veil (a : Assignment) : Assignment := { a with param := a.param.veil }

def Clause.veil (c : Clause) : Clause := { c with param := c.param.map Param.veil }

def Plan.veil (p : Plan) : Plan :=
  { p with
    assignments := p.assignments.map Assignment.veil
    clauses := p.clauses.map Clause.veil }

def Statement.veil (s : Statement) : Statement := { s with params := s.params.map Param.veil }

namespace Plan

def Naming.veil (n : Naming) : Naming := { n with params := n.params.veil }

/-! ## Assembling -/

theorem assignOne_veil (s : Source) (n : Naming) (property : String) :
    assignOne s.veil n.veil property
      = veiled (Prod.map Assignment.veil Naming.veil) (assignOne s n property) := by
  refine bind_recast (read_veil property) fun i => ?_
  refine bind_recast (read_veil (s.mapping.resolve property)) fun column => ?_
  simp only [Source.veil, Naming.veil, Row.veil, Predicates.veil, ParamList.names_veil]
  cases s.row property with
  | none => rfl
  | some value => exact bind_recast (ParamList.push_veil n.params _ value) fun params => rfl

theorem assign_veil (s : Source) (n : Naming) (properties : List String) :
    assign s.veil n.veil properties
      = veiled (Prod.map (List.map Assignment.veil) Naming.veil) (assign s n properties) := by
  induction properties generalizing n with
  | nil => rfl
  | cons property rest ih =>
      refine bind_recast (assignOne_veil s n property) fun first => ?_
      exact bind_recast (ih first.2) fun others => rfl

/-- A name finds its parameter under a veil. -/
theorem get?_veil (l : ParamList) (name : String) :
    l.veil.get? name = (l.get? name).map Param.veil := by
  unfold ParamList.get? ParamList.veil
  rw [List.find?_map]
  rfl

theorem clause_veil (params : ParamList) (c : Condition) :
    clause params.veil c = veiled Clause.veil (clause params c) := by
  refine bind_recast (read_veil c.column) fun column => ?_
  cases c.param with
  | none => rfl
  | some name =>
      simp only [get?_veil]
      cases params.get? name <;> rfl

theorem assemble_veil (s : Source) : assemble s.veil = veiled Plan.veil (assemble s) := by
  have columns : setColumns s.veil.columns s.veil.identity = setColumns s.columns s.identity := rfl
  have clauses : s.veil.predicates.ordered.mapM (clause s.veil.predicates.params)
      = veiled (List.map Clause.veil) (s.predicates.ordered.mapM (clause s.predicates.params)) := by
    have each := mapM_recast (f := id) (clause_veil s.predicates.params) s.predicates.ordered
    rwa [List.map_id] at each
  unfold assemble
  rw [columns]
  dsimp only
  split
  · rfl
  · refine bind_recast (assign_veil s {} _) fun assigned => ?_
    exact bind_recast clauses fun _ => rfl

/-! ## Rendering -/

theorem renderAssignments_veil (d : Dialect) (number : Nat) (as : List Assignment) :
    renderAssignments d number (as.map Assignment.veil) = renderAssignments d number as := by
  induction as generalizing number with
  | nil => rfl
  | cons a rest ih =>
      cases rest with
      | nil => rfl
      | cons b more =>
          have tail := ih (number + 1)
          simp only [List.map_cons, renderAssignments] at tail ⊢
          rw [tail]
          rfl

theorem renderTerm_veil (d : Dialect) (number : Nat) (c : Clause) :
    renderTerm d number c.veil = renderTerm d number c := by
  unfold renderTerm Clause.veil
  cases c.param <;> rfl

theorem after_veil (number : Nat) (c : Clause) : after number c.veil = after number c := by
  simp [after, Clause.veil]

theorem renderLater_veil (d : Dialect) (number : Nat) (cs : List Clause) :
    renderLater d number (cs.map Clause.veil) = renderLater d number cs := by
  induction cs generalizing number with
  | nil => rfl
  | cons c rest ih =>
      simp only [List.map_cons, renderLater, renderTerm_veil, after_veil, ih]
      rfl

theorem renderClauses_veil (d : Dialect) (number : Nat) (cs : List Clause) :
    renderClauses d number (cs.map Clause.veil) = renderClauses d number cs := by
  cases cs with
  | nil => rfl
  | cons c rest =>
      simp only [List.map_cons, renderClauses, renderTerm_veil, after_veil, renderLater_veil]

/-- **No value gets into the text of a statement.** -/
theorem render_veil (d : Dialect) (p : Plan) : p.veil.render d = p.render d := by
  simp only [render, veil, renderAssignments_veil, renderClauses_veil, List.length_map]

theorem params_veil (p : Plan) : p.veil.params = p.params.map Param.veil := by
  have clauses : (p.clauses.map Clause.veil).filterMap Clause.param
      = (p.clauses.filterMap Clause.param).map Param.veil := by
    rw [List.filterMap_map, List.map_filterMap]
    rfl
  have assignments : (p.assignments.map Assignment.veil).map Assignment.param
      = (p.assignments.map Assignment.param).map Param.veil := by
    rw [List.map_map, List.map_map]
    rfl
  simp only [params, veil, clauses, assignments, List.map_append]

theorem statement_veil (d : Dialect) (p : Plan) :
    p.veil.statement d = (p.statement d).veil := by
  simp only [statement, Statement.veil, render_veil, params_veil]
  simp [veil]

end Plan

end Amend

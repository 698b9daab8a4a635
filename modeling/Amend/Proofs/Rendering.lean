/-
# Amend.Proofs.Rendering — the text of a plan

`Plan.outline` says what the text of a plan is going to say: each column with its
placeholder, numbered from left to right, and WHERE in front of the first clause.
`render_eq_text` ties the two together, so that `Outline.read?` reads the text of
a plan.

A plan is numbered while it is written; `marks_body` shows that its placeholders
are those of its list of parameters all the same.
-/
import Amend.Proofs.Naming
import Amend.Proofs.Outline

set_option autoImplicit false

namespace Amend

/-! ## Placeholders -/

/-- Placeholders of parameters, with `number` others in front of them. -/
def Dialect.marksFrom (d : Dialect) (number : Nat) : List Param → List String
  | [] => []
  | p :: ps => d.placeholder (number + 1) p.name :: d.marksFrom (number + 1) ps

/-- The placeholders of a list of parameters: in Postgres `$1`, `$2` and so on, in SQL Server `@`
and the name of each. -/
def Dialect.placeholders (d : Dialect) (params : List Param) : List String :=
  match d with
  | .postgres => (List.range params.length).map fun k => "$" ++ toString (k + 1)
  | .sqlServer => params.map fun p => "@" ++ p.name

@[simp] theorem length_marksFrom (d : Dialect) (number : Nat) (ps : List Param) :
    (d.marksFrom number ps).length = ps.length := by
  induction ps generalizing number with
  | nil => rfl
  | cons p ps ih => simp [Dialect.marksFrom, ih]

theorem marksFrom_append (d : Dialect) (number : Nat) (ps qs : List Param) :
    d.marksFrom number (ps ++ qs)
      = d.marksFrom number ps ++ d.marksFrom (number + ps.length) qs := by
  induction ps generalizing number with
  | nil => rfl
  | cons p ps ih => simp [Dialect.marksFrom, ih, Nat.add_assoc, Nat.add_comm 1]

theorem marksFrom_postgres (number : Nat) (ps : List Param) :
    Dialect.postgres.marksFrom number ps
      = (List.range ps.length).map fun k => "$" ++ toString (number + k + 1) := by
  induction ps generalizing number with
  | nil => rfl
  | cons p ps ih =>
      rw [List.length_cons, List.range_succ_eq_map]
      simp [Dialect.marksFrom, Dialect.placeholder, ih, Function.comp_def, Nat.add_assoc,
        Nat.add_comm 1]

theorem marksFrom_sqlServer (number : Nat) (ps : List Param) :
    Dialect.sqlServer.marksFrom number ps = ps.map fun p => "@" ++ p.name := by
  induction ps generalizing number with
  | nil => rfl
  | cons p ps ih => simp [Dialect.marksFrom, Dialect.placeholder, ih]

/-- Numbered from one, placeholders are those of the whole list. -/
theorem marksFrom_zero (d : Dialect) (ps : List Param) :
    d.marksFrom 0 ps = d.placeholders ps := by
  cases d with
  | postgres => simp [Dialect.placeholders, marksFrom_postgres]
  | sqlServer => simp [Dialect.placeholders, marksFrom_sqlServer]

theorem isMark_placeholder (d : Dialect) (number : Nat) {name : String}
    (named : Param.IsName name) : isMark (d.placeholder number name) = true := by
  cases d with
  | postgres =>
      have digits : ∀ c ∈ Nat.toDigits 10 number, c.isDigit = true := fun _ member =>
        Nat.isDigit_of_mem_toDigits (by decide) (by decide) member
      simpa [isMark, Dialect.placeholder] using digits
  | sqlServer =>
      obtain ⟨nonempty, chars⟩ := named
      simpa [isMark, Dialect.placeholder] using ⟨nonempty, chars⟩

/-! ## The outline of a plan -/

def Assignment.WellFormed (a : Assignment) : Prop :=
  a.column.WellFormed ∧ Param.IsName a.param.name

/-- A column and a name that can be written, with a parameter exactly where one is bound. -/
def Clause.WellFormed (c : Clause) : Prop :=
  c.column.WellFormed ∧ c.param.isSome = c.op.bindsValue ∧ ∀ q ∈ c.param, Param.IsName q.name

namespace Plan

/-- Columns with their placeholders. -/
def assignmentMarks (d : Dialect) (number : Nat) : List Assignment → List (Ident × String)
  | [] => []
  | a :: rest =>
    (a.column, d.placeholder (number + 1) a.param.name) :: assignmentMarks d (number + 1) rest

/-- A clause as its text says it. -/
def term (d : Dialect) (number : Nat) (c : Clause) : Term :=
  ⟨c.column, c.op, c.param.map fun p => d.placeholder (number + 1) p.name⟩

/-- Clauses with the keywords that they were declared with. -/
def clauseTerms (d : Dialect) (number : Nat) : List Clause → List (Joiner × Term)
  | [] => []
  | c :: rest => (c.joiner, term d number c) :: clauseTerms d (after number c) rest

/-- WHERE in front of the first clause, in place of the keyword it was declared with. -/
def opened : List (Joiner × Term) → List (Joiner × Term)
  | [] => []
  | c :: rest => (.opening, c.2) :: rest

def body (d : Dialect) (p : Plan) : Body :=
  ⟨assignmentMarks d 0 p.assignments, opened (clauseTerms d p.assignments.length p.clauses)⟩

def outline (d : Dialect) (p : Plan) : Outline := ⟨p.table, p.body d⟩

/-- A plan that writes a column and whose parts can be written. -/
structure WellFormed (p : Plan) : Prop where
  nonempty : p.assignments ≠ []
  assignments : ∀ a ∈ p.assignments, a.WellFormed
  clauses : ∀ c ∈ p.clauses, c.WellFormed

/-! ## The text of a plan -/

/-- Words with a blank in front of each. -/
def spaced : List String → String
  | [] => ""
  | w :: ws => " " ++ w ++ spaced ws

theorem spaced_append (ws vs : List String) : spaced (ws ++ vs) = spaced ws ++ spaced vs := by
  induction ws with
  | nil => simp [spaced]
  | cons w ws ih => simp [spaced, ih, String.append_assoc]

theorem intercalate_cons (w : String) (ws : List String) :
    " ".intercalate (w :: ws) = w ++ spaced ws := by
  induction ws generalizing w with
  | nil => simp [spaced]
  | cons v vs ih =>
      rw [String.intercalate_cons_cons, ih, spaced]
      simp only [String.append_assoc]

theorem intercalate_append {ws : List String} (nonempty : ws ≠ []) (vs : List String) :
    " ".intercalate (ws ++ vs) = " ".intercalate ws ++ spaced vs := by
  cases ws with
  | nil => exact absurd rfl nonempty
  | cons w ws =>
      rw [List.cons_append, intercalate_cons, intercalate_cons, spaced_append,
        String.append_assoc]

theorem assignmentMarks_ne_nil {d : Dialect} {number : Nat} {as : List Assignment}
    (nonempty : as ≠ []) : assignmentMarks d number as ≠ [] := by
  cases as with
  | nil => exact absurd rfl nonempty
  | cons a rest => simp [assignmentMarks]

theorem renderAssignments_eq (d : Dialect) (number : Nat) {as : List Assignment}
    (nonempty : as ≠ []) : renderAssignments d number as
      = " ".intercalate (assignmentWords (assignmentMarks d number as)) := by
  induction as generalizing number with
  | nil => exact absurd rfl nonempty
  | cons a rest ih =>
      cases rest with
      | nil =>
          rw [← String.toList_inj]
          simp [renderAssignments, assignmentMarks, assignmentWords]
      | cons b more =>
          have tail := ih (number + 1) (by simp)
          have words : assignmentWords (assignmentMarks d number (a :: b :: more))
              = a.column.sql :: "=" :: (d.placeholder (number + 1) a.param.name ++ ",")
                :: assignmentWords (assignmentMarks d (number + 1) (b :: more)) := rfl
          have later : assignmentWords (assignmentMarks d (number + 1) (b :: more)) ≠ [] :=
            assignmentWords_ne_nil (assignmentMarks_ne_nil (by simp))
          rw [renderAssignments, tail, words, String.intercalate_cons_cons,
            String.intercalate_cons_cons, String.intercalate_cons_of_ne_nil later,
            ← String.toList_inj]
          simp

theorem renderTerm_eq (d : Dialect) (number : Nat) (c : Clause) :
    " " ++ renderTerm d number c = spaced (term d number c).words := by
  rw [← String.toList_inj]
  cases op : c.op <;> cases param : c.param <;>
    simp [renderTerm, term, Term.words, Operator.words, Operator.sql, spaced, op, param]

theorem renderLater_eq (d : Dialect) (number : Nat) (cs : List Clause) :
    renderLater d number cs = spaced (clauseWords (clauseTerms d number cs)) := by
  induction cs generalizing number with
  | nil => rfl
  | cons c rest ih =>
      have words : clauseWords (clauseTerms d number (c :: rest))
          = (c.joiner.keyword :: (term d number c).words)
            ++ clauseWords (clauseTerms d (after number c) rest) := rfl
      rw [words, spaced_append, spaced, ← renderTerm_eq, renderLater, ih]
      simp only [String.append_assoc]

theorem renderClauses_eq (d : Dialect) (number : Nat) (cs : List Clause) :
    renderClauses d number cs = spaced (clauseWords (opened (clauseTerms d number cs))) := by
  cases cs with
  | nil => rfl
  | cons c rest =>
      have words : clauseWords (opened (clauseTerms d number (c :: rest)))
          = ("WHERE" :: (term d number c).words)
            ++ clauseWords (clauseTerms d (after number c) rest) := rfl
      rw [words, spaced_append, spaced, ← renderTerm_eq, renderClauses, renderLater_eq,
        ← String.toList_inj]
      simp

/-- What a plan renders is the text of its outline. -/
theorem render_eq_text (d : Dialect) {p : Plan} (nonempty : p.assignments ≠ []) :
    p.render d = (p.outline d).text := by
  have words : assignmentWords (assignmentMarks d 0 p.assignments) ≠ [] :=
    assignmentWords_ne_nil (assignmentMarks_ne_nil nonempty)
  unfold render Outline.text Body.text Body.words outline body
  rw [intercalate_append words, renderAssignments_eq d 0 nonempty, renderClauses_eq]
  simp only [String.append_assoc]

/-! ## Reading a plan -/

theorem assignable_of_mem_marks {d : Dialect} {number : Nat} {as : List Assignment}
    (formed : ∀ a ∈ as, a.WellFormed) :
    ∀ a ∈ assignmentMarks d number as, Assignable a := by
  induction as generalizing number with
  | nil => simp [assignmentMarks]
  | cons a rest ih =>
      obtain ⟨column, named⟩ := formed a (by simp)
      intro b member
      rcases List.mem_cons.1 member with rfl | member
      · exact ⟨column, isMark_placeholder d _ named⟩
      · exact ih (fun c here => formed c (by simp [here])) b member

theorem term_wellFormed {d : Dialect} {number : Nat} {c : Clause}
    (formed : c.WellFormed) : (term d number c).WellFormed := by
  obtain ⟨column, binds, named⟩ := formed
  refine ⟨column, by simpa [term] using binds, fun m member => ?_⟩
  obtain ⟨q, param, rfl⟩ := Option.map_eq_some_iff.1 member
  exact isMark_placeholder d _ (named q param)

theorem clauseTerms_wellFormed {d : Dialect} {number : Nat} {cs : List Clause}
    (formed : ∀ c ∈ cs, c.WellFormed) : ∀ c ∈ clauseTerms d number cs, c.2.WellFormed := by
  induction cs generalizing number with
  | nil => simp [clauseTerms]
  | cons c rest ih =>
      intro t member
      rcases List.mem_cons.1 member with rfl | member
      · exact term_wellFormed (formed c (by simp))
      · exact ih (fun e here => formed e (by simp [here])) t member

/-- Opening a list of clauses changes no term. -/
theorem map_snd_opened (cs : List (Joiner × Term)) :
    (opened cs).map Prod.snd = cs.map Prod.snd := by
  cases cs with
  | nil => rfl
  | cons c rest => rfl

theorem body_wellFormed {p : Plan} (formed : p.WellFormed) (d : Dialect) :
    (p.body d).WellFormed := by
  refine ⟨assignmentMarks_ne_nil formed.nonempty, assignable_of_mem_marks formed.assignments,
    fun c member => ?_⟩
  · have here : c.2 ∈ (opened (clauseTerms d p.assignments.length p.clauses)).map Prod.snd :=
      List.mem_map_of_mem member
    rw [map_snd_opened] at here
    obtain ⟨e, declared, same⟩ := List.mem_map.1 here
    rw [← same]
    exact clauseTerms_wellFormed formed.clauses e declared

/-- **The text of a plan reads as its outline.** -/
theorem read?_render {p : Plan} (formed : p.WellFormed) (table : p.table.WellFormed)
    (d : Dialect) : Outline.read? (p.render d) = some (p.outline d) := by
  rw [render_eq_text d formed.nonempty]
  exact Outline.read?_text ⟨table, body_wellFormed formed d⟩

/-! ## Its placeholders -/

theorem map_snd_assignmentMarks (d : Dialect) (number : Nat) (as : List Assignment) :
    (assignmentMarks d number as).map Prod.snd
      = d.marksFrom number (as.map Assignment.param) := by
  induction as generalizing number with
  | nil => rfl
  | cons a rest ih => simp [assignmentMarks, Dialect.marksFrom, ih]

theorem filterMap_clauseTerms (d : Dialect) (number : Nat) (cs : List Clause) :
    (clauseTerms d number cs).filterMap (fun c => c.2.mark)
      = d.marksFrom number (cs.filterMap Clause.param) := by
  induction cs generalizing number with
  | nil => rfl
  | cons c rest ih =>
      cases h : c.param with
      | none => simp [clauseTerms, term, after, h, ih]
      | some p => simp [clauseTerms, term, after, h, ih, Dialect.marksFrom]

/-- **The placeholders of a plan are those of its parameters**, from left to right. -/
theorem marks_body (d : Dialect) (p : Plan) : (p.body d).marks = d.placeholders p.params := by
  have opened_ : (opened (clauseTerms d p.assignments.length p.clauses)).filterMap
      (fun c => c.2.mark) = (clauseTerms d p.assignments.length p.clauses).filterMap
        fun c => c.2.mark := by
    cases clauseTerms d p.assignments.length p.clauses <;> rfl
  rw [← marksFrom_zero, params, marksFrom_append]
  simp [Body.marks, body, opened_, map_snd_assignmentMarks, filterMap_clauseTerms]

end Plan

end Amend

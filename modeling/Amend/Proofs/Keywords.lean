/-
# Amend.Proofs.Keywords — the keywords of a WHERE clause

A text in the documented grammar has WHERE in front of its first condition, if it
has one, and AND or OR in front of each later one.  The first condition is
rendered behind WHERE whatever it was declared with.  A later one is rendered
behind the keyword of its declaration, and this may be WHERE again.

`documented_iff` gives the exact condition: the text of a statement is in the
grammar, with the conditions that were declared, just when no accepted
declaration but the first one was made with WHERE.
-/
import Amend.Proofs.History

set_option autoImplicit false

namespace Amend

/-! ## The documented grammar -/

/-- WHERE at the front, and AND or OR at every later place. -/
def Clausal : List Joiner → Prop
  | [] => True
  | first :: later => first = .opening ∧ ∀ j ∈ later, j = .and ∨ j = .or

/-- A text in the documented grammar: an UPDATE of assignments, followed by so many conditions,
each behind the keyword of its place.  So there is one WHERE if there are conditions, else none. -/
def Documented (text : String) (conditions : Nat) : Prop :=
  ∃ o : Outline, o.WellFormed ∧ Clausal (o.body.clauses.map Prod.fst)
    ∧ o.body.clauses.length = conditions ∧ o.text = text

theorem length_openedKeywords (js : List Joiner) : (openedKeywords js).length = js.length := by
  cases js <;> rfl

theorem clausal_openedKeywords {js : List Joiner} :
    Clausal (openedKeywords js) ↔ ∀ j ∈ js.tail, j ≠ .opening := by
  have other : ∀ j : Joiner, (j = .and ∨ j = .or) ↔ j ≠ .opening := fun j => by
    cases j <;> decide
  cases js with
  | nil => simp [openedKeywords, Clausal]
  | cons j later => simp [openedKeywords, Clausal, other]

/-- A plan is rendered in the grammar just when WHERE declares none of its later clauses. -/
theorem documented_render_iff {p : Plan} (formed : p.WellFormed) (table : p.table.WellFormed)
    (d : Dialect) (conditions : Nat) :
    Documented (p.render d) conditions ↔ p.clauses.length = conditions
      ∧ ∀ j ∈ (p.clauses.map Clause.joiner).tail, j ≠ .opening := by
  have outlineFormed : (p.outline d).WellFormed := ⟨table, Plan.body_wellFormed formed d⟩
  have keywords : (p.outline d).body.clauses.map Prod.fst
      = openedKeywords (p.clauses.map Clause.joiner) := map_fst_opened d _ _
  have length : (p.outline d).body.clauses.length = p.clauses.length := by
    simpa [length_openedKeywords] using congrArg List.length keywords
  rw [Plan.render_eq_text d formed.nonempty, ← clausal_openedKeywords, ← keywords, ← length]
  constructor
  · rintro ⟨o, oFormed, clausal, count, text⟩
    rw [Outline.eq_of_text_eq oFormed outlineFormed text] at clausal count
    exact ⟨count, clausal⟩
  · rintro ⟨count, clausal⟩
    exact ⟨_, outlineFormed, clausal, count, rfl⟩

/-! ## Keywords of declarations -/

theorem joiners_declaredBy_cons {call : Joiner × Expr} (rest : List (Joiner × Expr))
    (nonempty : call.2.declares call.1 ≠ []) :
    ∃ later, (declaredBy (call :: rest)).map Declared.joiner
        = call.1 :: (later ++ (declaredBy rest).map Declared.joiner)
      ∧ ∀ j ∈ later, j ≠ .opening := by
  obtain ⟨later, joiners, notOpening⟩ := joiners_declares nonempty
  refine ⟨later, ?_, notOpening⟩
  rw [← List.cons_append, ← joiners, ← List.map_append]
  rfl

/-- WHERE is the keyword of a condition just when a declaration was made with it. -/
theorem opening_not_mem_declaredBy {calls : List (Joiner × Expr)}
    (nonempty : ∀ call ∈ calls, call.2.declares call.1 ≠ []) :
    (∀ j ∈ (declaredBy calls).map Declared.joiner, j ≠ .opening)
      ↔ ∀ call ∈ calls, call.1 ≠ .opening := by
  induction calls with
  | nil => simp [declaredBy]
  | cons call rest ih =>
      have tail := ih fun other member => nonempty other (by simp [member])
      obtain ⟨later, joiners, notOpening⟩ :=
        joiners_declaredBy_cons rest (nonempty call (by simp))
      rw [joiners, List.forall_mem_cons, List.forall_mem_append, List.forall_mem_cons, tail]
      exact ⟨fun h => ⟨h.1, h.2.2⟩, fun h => ⟨h.1, notOpening, h.2⟩⟩

/-- Behind the front, WHERE is the keyword of a condition just when a later declaration was made
with it. -/
theorem opening_not_mem_tail {calls : List (Joiner × Expr)}
    (nonempty : ∀ call ∈ calls, call.2.declares call.1 ≠ []) :
    (∀ j ∈ ((declaredBy calls).map Declared.joiner).tail, j ≠ .opening)
      ↔ ∀ call ∈ calls.tail, call.1 ≠ .opening := by
  cases calls with
  | nil => simp [declaredBy]
  | cons call rest =>
      have rest_ : ∀ other ∈ rest, other.2.declares other.1 ≠ [] := fun other member =>
        nonempty other (by simp [member])
      obtain ⟨later, joiners, notOpening⟩ :=
        joiners_declaredBy_cons rest (nonempty call (by simp))
      rw [joiners, List.tail_cons, List.tail_cons, List.forall_mem_append,
        opening_not_mem_declaredBy rest_]
      exact ⟨fun h => h.2, fun h => ⟨notOpening, h⟩⟩

/-! ## Statements -/

/-- A statement is in the grammar just when WHERE is the keyword of no condition but the first. -/
theorem documented_build_iff {entity : Entity} {row : Option Row} {calls : List Call}
    {database : String} {s : Statement}
    (built : ((Query.start entity row).run calls).build database = .ok s) (conditions : Nat) :
    Documented s.sql conditions ↔ (conditionsOf (declarations calls)).length = conditions
      ∧ ∀ j ∈ ((conditionsOf (declarations calls)).map Declared.joiner).tail, j ≠ .opening := by
  obtain ⟨source, p, assembled, reached, rfl⟩ := Query.build_eq_ok built
  obtain ⟨same, -, -, restated⟩ := assemble_eq_ok reached assembled.made
  have formed := wellFormed_of_assemble reached assembled.made
  have table : p.table.WellFormed := same ▸ assembled.table.wellFormed
  rw [← map_eq_of_forall₂ restated Restated.joiner, restated.length_eq]
  exact documented_render_iff formed table _ conditions

/-- **A statement is in the documented grammar just when WHERE was declared at the front only.**
Refused declarations do not count, and with which keyword the first accepted one was made does not
matter. -/
theorem documented_iff {entity : Entity} {row : Option Row} {calls : List Call}
    {database : String} {s : Statement}
    (built : ((Query.start entity row).run calls).build database = .ok s) :
    Documented s.sql (conditionsOf (declarations calls)).length
      ↔ ∀ call ∈ (acceptedDeclarations calls).tail, call.1 ≠ .opening := by
  have nonempty : ∀ call ∈ acceptedDeclarations calls, call.2.declares call.1 ≠ [] :=
    fun call member => declares_ne_nil_of_accepted [] member
  have keywords := documented_build_iff built (conditionsOf (declarations calls)).length
  rw [keywords, and_iff_right rfl]
  exact opening_not_mem_tail nonempty

/-! ## WHERE behind the front -/

/-- An entity without a schema. -/
def person : Entity where
  table := "T"
  identity := some "Id"
  columns := ["Id", "Name", "Age", "Nickname"]

/-- A row with a name. -/
def tom : Row := fun property => if property = "Name" then some (.text "Tom") else none

/-- Calls that set the name, with two conditions. -/
def twoConditions (second : Joiner) : List Call :=
  [.addColumns ["Name"], .declare .opening (.test "Id" .equal (.int64 1)),
    .declare second (.test "Age" .greater (.int32 18))]

theorem documented_with_and :
    ∃ s, ((Query.start person (some tom)).run (twoConditions .and)).build "db" = .ok s
      ∧ Documented s.sql 2 := by
  have built : ((Query.start person (some tom)).run (twoConditions .and)).build "db" = .ok _ := rfl
  exact ⟨_, built, (documented_iff built).2 (by decide)⟩

/-- A second WHERE stands in the text where the second condition was declared with it. -/
theorem undocumented_with_where :
    ∃ s, ((Query.start person (some tom)).run (twoConditions .opening)).build "db" = .ok s
      ∧ s.sql = "UPDATE db.public.T SET Name = $1 WHERE Id = $2 WHERE Age > $3"
      ∧ ∀ conditions, ¬ Documented s.sql conditions := by
  have built : ((Query.start person (some tom)).run (twoConditions .opening)).build "db" = .ok _ :=
    rfl
  refine ⟨_, built, rfl, fun conditions documented => ?_⟩
  have keywords := ((documented_build_iff built conditions).1 documented).2
  exact keywords .opening (by decide) rfl

end Amend

/-
# Amend.Proofs.Readback — the text of a statement has one reading

Identifiers are the only part of a text that a caller chooses freely.  Whatever
stands inside them, `Outline.read?` gets back from the text of a statement the
table, the columns with their placeholders and the conditions with their
keywords (`statement_reads_back`): `Spells` says so against the source that the
statement was made from.

Since a text is read in one way, statements with the same text have the same
structure, and no name can add a clause, drop one or turn it into another.
-/
import Amend.Proofs.Assembly

set_option autoImplicit false

namespace Amend

/-! ## Source and outline -/

/-- A table each of whose parts was parsed or quoted. -/
def QualifiedTable.Made (t : QualifiedTable) : Prop :=
  t.database.Made ∧ t.schema.Made ∧ t.table.Made

/-- WHERE in place of the first of some keywords. -/
def openedKeywords : List Joiner → List Joiner
  | [] => []
  | _ :: later => .opening :: later

/-- An entry of an outline says a condition: its column, its operator, and a placeholder where it
has a parameter. -/
structure Says (c : Condition) (entry : Joiner × Term) : Prop where
  column : Ident.read c.column = .ok entry.2.column
  op : entry.2.op = c.op
  marked : entry.2.mark.isSome = c.param.isSome

/-- An outline spells out a source: the table, the columns of the SET list, the conditions in order
under their keywords, and the placeholders of the parameters from left to right. -/
structure Spells (s : Source) (placeholders : List String) (o : Outline) : Prop where
  table : o.table = s.table
  columns : List.Forall₂ (fun property entry =>
    Ident.read (s.mapping.resolve property) = .ok (Prod.fst entry))
    (setColumns s.columns s.identity) o.body.assignments
  conditions : List.Forall₂ Says s.predicates.ordered o.body.clauses
  keywords : o.body.clauses.map Prod.fst
    = openedKeywords (s.predicates.ordered.map Condition.joiner)
  marks : o.body.marks = placeholders

/-- A plan that was assembled from a table that can be made and predicates that can be reached. -/
structure Assembled (s : Source) (p : Plan) : Prop where
  table : s.table.Made
  reached : ∃ calls m, Reached calls m s.predicates
  made : Plan.assemble s = .ok p

/-! ## The outline of an assembled plan -/

theorem QualifiedTable.Made.wellFormed {t : QualifiedTable} (made : t.Made) : t.WellFormed :=
  ⟨made.1.wellFormed, made.2.1.wellFormed, made.2.2.wellFormed⟩

/-- Behind the first clause the keywords are those of the declarations. -/
theorem map_fst_opened (d : Dialect) (number : Nat) (clauses : List Clause) :
    (Plan.opened (Plan.clauseTerms d number clauses)).map Prod.fst
      = openedKeywords (clauses.map Clause.joiner) := by
  have kept : ∀ number (cs : List Clause),
      (Plan.clauseTerms d number cs).map Prod.fst = cs.map Clause.joiner := by
    intro number cs
    induction cs generalizing number with
    | nil => rfl
    | cons c rest ih => simp [Plan.clauseTerms, ih]
  cases clauses with
  | nil => rfl
  | cons c rest => simp [Plan.clauseTerms, Plan.opened, openedKeywords, kept]

theorem columns_assignmentMarks {s : Source} (d : Dialect) (number : Nat)
    {columns : List String} {as : List Assignment}
    (assigned : List.Forall₂ (Assigned s) columns as) :
    List.Forall₂ (fun property entry =>
      Ident.read (s.mapping.resolve property) = .ok (Prod.fst entry))
      columns (Plan.assignmentMarks d number as) := by
  induction assigned generalizing number with
  | nil => exact .nil
  | cons head tail ih => exact .cons head.column (ih (number + 1))

theorem says_clauseTerms {params : ParamList} (d : Dialect) (number : Nat)
    {cs : List Condition} {clauses : List Clause}
    (made : List.Forall₂ (fun c clause => Plan.clause params c = .ok clause) cs clauses) :
    List.Forall₂ Says cs (Plan.clauseTerms d number clauses) := by
  induction made generalizing number with
  | nil => exact .nil
  | cons head tail ih =>
      obtain ⟨column, -, op, -, bound⟩ := clause_eq_ok head
      exact .cons ⟨column, op, by simpa [Plan.term] using bound⟩ (ih _)

/-- A keyword takes no part in what an entry says. -/
theorem says_opened {cs : List Condition} {entries : List (Joiner × Term)}
    (said : List.Forall₂ Says cs entries) : List.Forall₂ Says cs (Plan.opened entries) := by
  cases said with
  | nil => exact .nil
  | cons head tail => exact .cons ⟨head.column, head.op, head.marked⟩ tail

/-- The outline of an assembled plan spells out its source. -/
theorem spells_outline {s : Source} {p : Plan} (assembled : Assembled s p) (d : Dialect) :
    Spells s (d.placeholders p.params) (p.outline d) := by
  obtain ⟨table, -, ⟨last, assigned⟩, made⟩ := parts_of_assemble assembled.made
  have joiners : p.clauses.map Clause.joiner = s.predicates.ordered.map Condition.joiner :=
    map_eq_of_forall₂ made fun clause => (clause_eq_ok clause).2.1
  refine ⟨table, columns_assignmentMarks d 0 (assign_eq_ok assigned),
    says_opened (says_clauseTerms d _ made), ?_, Plan.marks_body d p⟩
  rw [← joiners]
  exact map_fst_opened d _ _

/-! ## One outline of a source -/

/-- Columns are those that the same names parse to. -/
theorem columns_unique {f : String → String} {names : List String}
    {as bs : List (Ident × String)}
    (ha : List.Forall₂ (fun name entry => Ident.read (f name) = .ok (Prod.fst entry)) names as)
    (hb : List.Forall₂ (fun name entry => Ident.read (f name) = .ok (Prod.fst entry)) names bs) :
    as.map Prod.fst = bs.map Prod.fst := by
  induction ha generalizing bs with
  | nil =>
      cases hb
      rfl
  | cons head tail ih =>
      obtain ⟨b, rest, here, later, rfl⟩ := List.forall₂_cons_left_iff.1 hb
      rw [head] at here
      rw [List.map_cons, List.map_cons, ih later, Except.ok.inj here]

/-- Conditions are the same where they say the same under the same keywords and have the same
placeholders from left to right. -/
theorem conditions_unique {cs : List Condition} {as bs : List (Joiner × Term)}
    (ha : List.Forall₂ Says cs as) (hb : List.Forall₂ Says cs bs)
    (keywords : as.map Prod.fst = bs.map Prod.fst)
    (marks : as.filterMap (fun e => e.2.mark) = bs.filterMap fun e => e.2.mark) : as = bs := by
  induction ha generalizing bs with
  | nil =>
      cases hb
      rfl
  | @cons c a cs as head tail ih =>
      obtain ⟨b, rest, here, later, rfl⟩ := List.forall₂_cons_left_iff.1 hb
      obtain ⟨keyword, column, op, mark⟩ := a
      obtain ⟨keyword', column', op', mark'⟩ := b
      obtain ⟨keyword_, restKeywords⟩ := List.cons.inj keywords
      have column_ := head.column.symm.trans here.column
      have op_ := head.op.trans here.op.symm
      have marked := head.marked.trans here.marked.symm
      cases keyword_
      cases column_
      cases op_
      cases mark with
      | none =>
          obtain rfl := Option.isNone_iff_eq_none.1 (by simpa using marked.symm)
          rw [ih later restKeywords (by simpa using marks)]
      | some m =>
          obtain ⟨m', rfl⟩ := Option.isSome_iff_exists.1 marked.symm
          obtain ⟨rfl, restMarks⟩ := List.cons.inj (by simpa using marks)
          rw [ih later restKeywords restMarks]

/-- A source is spelled out by one outline. -/
theorem Spells.unique {s : Source} {placeholders : List String} {o o' : Outline}
    (spells : Spells s placeholders o) (spells' : Spells s placeholders o') : o = o' := by
  obtain ⟨table, assignments, clauses⟩ := o
  obtain ⟨table', assignments', clauses'⟩ := o'
  have columns := columns_unique spells.columns spells'.columns
  have length : (assignments.map Prod.snd).length = (assignments'.map Prod.snd).length := by
    simpa using congrArg List.length columns
  obtain ⟨marks, later⟩ := List.append_inj (spells.marks.trans spells'.marks.symm) length
  have same : assignments = assignments' :=
    (List.zip_of_prod columns marks).trans (List.zip_of_prod rfl rfl).symm
  have conditions := conditions_unique spells.conditions spells'.conditions
    (spells.keywords.trans spells'.keywords.symm) later
  cases spells.table.trans spells'.table.symm
  dsimp only at conditions
  rw [same, conditions]

/-! ## One reading -/

/-- **The text of a statement reads as its source, and in no other way.**  Whatever the names in it
hold, the reader finds the one outline that spells out the source; and the same outline spells out
any other source with a statement of that text. -/
theorem statement_reads_back {s : Source} {p : Plan} (assembled : Assembled s p) (d : Dialect) :
    ∃ o, Outline.read? (p.statement d).sql = some o ∧ Spells s (d.placeholders p.params) o
      ∧ (∀ o', Spells s (d.placeholders p.params) o' → o' = o)
      ∧ ∀ (s' : Source) (p' : Plan) (d' : Dialect), Assembled s' p' →
        (p'.statement d').sql = (p.statement d).sql →
        Spells s' (d'.placeholders p'.params) o := by
  have reads : ∀ {s : Source} {p : Plan} (d : Dialect), Assembled s p →
      Outline.read? (p.statement d).sql = some (p.outline d) := by
    intro s p d assembled
    obtain ⟨calls, m, reached⟩ := assembled.reached
    have formed := wellFormed_of_assemble reached assembled.made
    have table := (parts_of_assemble assembled.made).1
    exact Plan.read?_render formed (table ▸ assembled.table.wellFormed) d
  have spells := spells_outline assembled d
  refine ⟨p.outline d, reads d assembled, spells, fun o' spells' => spells'.unique spells, ?_⟩
  intro s' p' d' assembled' same
  have outlines := reads d' assembled'
  rw [same, reads d assembled] at outlines
  rw [Option.some.inj outlines]
  exact spells_outline assembled' d'

theorem sample_reads_back :
    ∃ p, Assembled sample p ∧ ∃ o, Outline.read? (p.statement .postgres).sql = some o
      ∧ Spells sample (Dialect.postgres.placeholders p.params) o
      ∧ (∀ o', Spells sample (Dialect.postgres.placeholders p.params) o' → o' = o)
      ∧ ∀ (s' : Source) (p' : Plan) (d' : Dialect), Assembled s' p' →
        (p'.statement d').sql = (p.statement .postgres).sql →
        Spells s' (d'.placeholders p'.params) o := by
  have assembled : Assembled sample _ :=
    { table := ⟨⟨"a.b", .inr (.inl rfl)⟩, ⟨"public", .inl rfl⟩,
        ⟨"x SET \"y\" = $1", .inr (.inr rfl)⟩⟩
      reached := ⟨sampleCalls, sampleMapping, rfl⟩
      made := rfl }
  exact ⟨_, assembled, statement_reads_back assembled .postgres⟩

end Amend

/-
# Amend.Proofs.Regrouping — a chain declares what its sides declare in turn

A declaration of two expressions under a connective is made at once: its conditions
are all staged from the place and the number that are next, and then written.  The
same two expressions can be declared one after the other, the second with the
keyword that the chain has behind its first term.  Then the second call starts from
the place and the number that the first one left.

Both ways take the same comparisons apart (`Expr.taken_join`), and what is declared
before has no part in that, so that they are accepted in the same cases and lead to
the same predicates.  By the same token only the terms of a tree count, and how
they are grouped does not (`Expr.Regrouped`).
-/
import Amend.Proofs.Declarable

set_option autoImplicit false

namespace Amend

/-! ## The two sides of a chain -/

@[simp] theorem Joiner.later_later (j : Joiner) : j.later.later = j.later := by
  cases j <;> rfl

@[simp] theorem Joiner.link_later (j : Joiner) : j.later.link = j.link := by
  cases j <;> rfl

/-- Behind a first leaf all keywords are that of the chain. -/
theorem tag_append {first later : Joiner} {xs : List Leaf} (nonempty : xs ≠ []) (ys : List Leaf) :
    tag first later (xs ++ ys) = tag first later xs ++ tag later later ys := by
  -- Only the first leaf has the keyword `first`: from the second on both keywords are `later`.
  induction xs generalizing first with
  | nil => exact absurd rfl nonempty
  | cons leaf rest ih =>
      cases rest with
      | nil => rfl
      | cons next more =>
          have behind : tag later later (next :: more ++ ys)
              = tag later later (next :: more) ++ tag later later ys :=
            ih (List.cons_ne_nil next more)
          simp only [List.cons_append, tag] at behind ⊢
          rw [behind]

namespace Expr

variable {joiner : Joiner} {a b e e' : Expr} {ds : List Declared}

theorem comparisons_join (link : Connective) :
    (link.join a b).comparisons = a.comparisons ++ b.comparisons := by
  cases link <;> rfl

/-- The comparisons of an expression are those of its parts. -/
theorem flatMap_parts (e : Expr) : e.parts.flatMap comparisons = e.comparisons := by
  induction e using join_induction with
  | join link a b iha ihb =>
      rw [parts_join, List.flatMap_append, iha, ihb, comparisons_join]
  | part e part => simp [part.parts]

theorem taken_eq_ok_iff :
    e.taken joiner = .ok ds ↔ e.ChainOf joiner.link ∧ ds = e.declares joiner := by
  rcases e.taken_cases joiner with ⟨chain, found, taken, -⟩ | ⟨noChain, err, taken, -⟩
  · obtain ⟨rfl, -, -⟩ := taken_eq_ok taken
    rw [taken, Except.ok.injEq, and_iff_right chain]
    exact eq_comm
  · rw [taken]
    constructor
    · intro made
      cases made
    · rintro ⟨chain, -⟩
      exact absurd chain noChain

/-- A chain has a comparison in front, which alone stands behind the keyword of the declaration. -/
theorem declares_join (chain : a.ChainOf joiner.link) :
    (joiner.link.join a b).declares joiner
      = a.declares joiner ++ b.declares joiner.later := by
  obtain ⟨-, nonempty, -⟩ := taken_eq_ok (taken_eq_ok_iff.2 ⟨chain, rfl⟩)
  have front : a.comparisons.map Test.leaf ≠ [] := by
    intro none_
    rw [declares, none_] at nonempty
    exact nonempty rfl
  simp only [declares, comparisons_join, List.map_append, Joiner.later_later]
  exact tag_append front _

/-- **A chain is taken apart just when both its sides are**, the right one under the keyword of the
chain, and yields what they yield. -/
theorem taken_join :
    (joiner.link.join a b).taken joiner = .ok ds
      ↔ ∃ left right, a.taken joiner = .ok left ∧ b.taken joiner.later = .ok right
        ∧ ds = left ++ right := by
  simp only [taken_eq_ok_iff, chainOf_join, true_and, Joiner.link_later]
  constructor
  · rintro ⟨⟨left, right⟩, rfl⟩
    exact ⟨_, _, ⟨left, rfl⟩, ⟨right, rfl⟩, declares_join left⟩
  · rintro ⟨_, _, ⟨left, rfl⟩, ⟨right, rfl⟩, rfl⟩
    exact ⟨⟨left, right⟩, (declares_join left).symm⟩

/-! ## Other groupings -/

/-- Two trees of one connective with the same terms from left to right. -/
structure Regrouped (link : Connective) (e e' : Expr) : Prop where
  under : e.Under link
  under' : e'.Under link
  parts : e.parts = e'.parts

instance (link : Connective) (e : Expr) : Decidable (e.Under link) :=
  inferInstanceAs (Decidable (∀ l ∈ e.links, l = link))

theorem length_parts (e : Expr) : e.parts.length = e.links.length + 1 := by
  induction e using join_induction with
  | join link a b iha ihb =>
      have links : (link.join a b).links.length = a.links.length + b.links.length + 1 := by
        cases link <;> simp [Connective.join, Expr.links]
      rw [parts_join, List.length_append, iha, ihb, links]
      omega
  | part e part => simp [part.parts, part.links]

namespace Regrouped

variable {link : Connective} (same : Regrouped link e e')
include same

/-- As many terms are under as many connectives. -/
theorem links : e.links = e'.links := by
  have count : e.links.length = e'.links.length := by
    have parts := congrArg List.length same.parts
    rw [length_parts, length_parts] at parts
    omega
  have left : e.links = List.replicate e.links.length link :=
    List.eq_replicate_iff.2 ⟨rfl, same.under⟩
  have right : e'.links = List.replicate e'.links.length link :=
    List.eq_replicate_iff.2 ⟨rfl, same.under'⟩
  rw [left, right, count]

theorem taken_iff : e.taken joiner = .ok ds ↔ e'.taken joiner = .ok ds := by
  have comparisons : e.comparisons = e'.comparisons := by
    rw [← flatMap_parts e, ← flatMap_parts e', same.parts]
  have declares : e.declares joiner = e'.declares joiner := by
    unfold Expr.declares
    rw [comparisons]
  have chain : e.ChainOf joiner.link ↔ e'.ChainOf joiner.link := by
    simp only [chainOf_iff, Under, same.links, same.parts]
  rw [taken_eq_ok_iff, taken_eq_ok_iff, declares, chain]

end Regrouped

end Expr

/-! ## Calls -/

namespace Predicates

/-- One call is accepted just when two others are, one after the other; it leads to what they lead
to, and to as many conditions as both together. -/
def AddsInTurn (p : Predicates) (whole first second : Joiner × Expr) : Prop :=
  ∀ n p', (addInPlace whole.1 whole.2).run p = .ok n p'
    ↔ ∃ m k between, (addInPlace first.1 first.2).run p = .ok m between
      ∧ (addInPlace second.1 second.2).run between = .ok k p' ∧ n = m + k

variable {joiner : Joiner} {a b e e' : Expr}

/-- A call that is accepted adds what its expression yields. -/
theorem run_addInPlace_eq_ok {ds : List Declared} {n : Nat} {p : Predicates} :
    (addInPlace joiner e).run (ofDeclared ds) = .ok n p
      ↔ ∃ es, e.taken joiner = .ok es ∧ n = es.length ∧ p = ofDeclared (ds ++ es) := by
  rw [run_addInPlace_ofDeclared]
  cases e.taken joiner with
  | error err =>
      constructor
      · intro ran
        cases ran
      · rintro ⟨es, taken, -⟩
        cases taken
  | ok es =>
      constructor
      · intro ran
        cases ran
        exact ⟨es, rfl, rfl, rfl⟩
      · rintro ⟨_, taken, rfl, rfl⟩
        cases taken
        rfl

/-- **A chain is declared as its sides are in turn.** -/
theorem addsInTurn_join (ds : List Declared) :
    (ofDeclared ds).AddsInTurn (joiner, joiner.link.join a b) (joiner, a) (joiner.later, b) := by
  intro n p'
  simp only [run_addInPlace_eq_ok]
  constructor
  · rintro ⟨es, taken, rfl, rfl⟩
    obtain ⟨left, right, first, second, rfl⟩ := Expr.taken_join.1 taken
    refine ⟨left.length, right.length, ofDeclared (ds ++ left), ⟨left, first, rfl, rfl⟩, ?_,
      List.length_append⟩
    rw [run_addInPlace_eq_ok, ← List.append_assoc]
    exact ⟨right, second, rfl, rfl⟩
  · -- The state in between is a closed form again, so the second call is read like the first.
    rintro ⟨m, k, between, ⟨left, first, rfl, rfl⟩, ran, rfl⟩
    obtain ⟨right, second, rfl, rfl⟩ := run_addInPlace_eq_ok.1 ran
    refine ⟨left ++ right, Expr.taken_join.2 ⟨left, right, first, second, rfl⟩, ?_, ?_⟩
    · rw [List.length_append]
    · rw [List.append_assoc]

/-- Where a call is refused it leaves what was there, with whatever it is refused. -/
theorem left_addInPlace_congr {ds : List Declared}
    (same : ∀ es, e.taken joiner = .ok es ↔ e'.taken joiner = .ok es) :
    Edit.left ((addInPlace joiner e).run (ofDeclared ds))
      = Edit.left ((addInPlace joiner e').run (ofDeclared ds)) := by
  rw [run_addInPlace_ofDeclared, run_addInPlace_ofDeclared]
  cases taken : e.taken joiner with
  | ok es => rw [(same es).1 taken]
  | error err =>
      cases taken' : e'.taken joiner with
      | ok es => cases taken.symm.trans ((same es).2 taken')
      | error err' => rfl

end Predicates

/-- **Splitting a chain changes nothing, and neither does regrouping it.**  After any calls, an AND
of two expressions under WHERE or AND is accepted just when the first is and then the second under
AND, and an OR under OR just when both are in turn under OR; the predicates are then the same, and
the numbers of conditions add up.  So two trees of one connective with the same terms are accepted
in the same cases, and leave the same predicates in all. -/
theorem chain_is_declared_in_turn (calls : List (Joiner × Expr)) :
    let p := Predicates.afterInPlace calls
    (∀ joiner a b, joiner ≠ .or →
        p.AddsInTurn (joiner, .both a b) (joiner, a) (.and, b))
      ∧ (∀ a b, p.AddsInTurn (.or, .either a b) (.or, a) (.or, b))
      ∧ ∀ link joiner e e', Expr.Regrouped link e e' →
        let ran := (Predicates.addInPlace joiner e).run p
        let ran' := (Predicates.addInPlace joiner e').run p
        (∀ n q, ran = .ok n q ↔ ran' = .ok n q) ∧ Edit.left ran = Edit.left ran' := by
  obtain ⟨ds, reached⟩ : ∃ ds, Predicates.afterInPlace calls = Predicates.ofDeclared ds := by
    rw [afterInPlace_eq, Predicates.after_eq]
    exact ⟨_, rfl⟩
  dsimp only
  rw [reached]
  refine ⟨?_, ?_, ?_⟩
  · intro joiner a b notOr
    cases joiner with
    | or => exact absurd rfl notOr
    | opening => exact Predicates.addsInTurn_join ds
    | and => exact Predicates.addsInTurn_join ds
  · intro a b
    exact Predicates.addsInTurn_join ds
  · intro link joiner e e' same
    constructor
    · intro n q
      simp only [Predicates.run_addInPlace_eq_ok, same.taken_iff]
    · exact Predicates.left_addInPlace_congr fun es => same.taken_iff

/-- Three terms, one of which binds nothing, the first two under one AND. -/
def groupedLeft : Expr :=
  .both (.both (.test "Name" .equal (.text "Tom")) (.test "Left" .equal .null))
    (.test "Age" .greater (.int32 40))

/-- The same terms, the last two under one AND. -/
def groupedRight : Expr :=
  .both (.test "Name" .equal (.text "Tom"))
    (.both (.test "Left" .equal .null) (.test "Age" .greater (.int32 40)))

theorem regrouped_terms_agree :
    let p := Predicates.afterInPlace sampleCalls
    Expr.Regrouped .conjunction groupedLeft groupedRight
      ∧ ∃ q, (Predicates.addInPlace .and groupedLeft).run p = .ok 3 q
        ∧ (Predicates.addInPlace .and groupedRight).run p = .ok 3 q
        ∧ q.nextSort = 5 ∧ q.nextNumber = 3
        ∧ ∃ m k between,
          (Predicates.addInPlace .and (.test "Name" .equal (.text "Tom"))).run p = .ok m between
            ∧ (Predicates.addInPlace .and
              (.both (.test "Left" .equal .null) (.test "Age" .greater (.int32 40)))).run between
                = .ok k q
            ∧ 3 = m + k := by
  have same : Expr.Regrouped .conjunction groupedLeft groupedRight :=
    { under := by decide
      under' := by decide
      parts := rfl }
  obtain ⟨split, -, regroup⟩ := chain_is_declared_in_turn sampleCalls
  obtain ⟨agree, -⟩ := regroup .conjunction .and _ _ same
  have right := (agree 3 _).1 rfl
  exact ⟨same, _, rfl, right, rfl, rfl, (split .and _ _ (by decide) 3 _).1 right⟩

end Amend

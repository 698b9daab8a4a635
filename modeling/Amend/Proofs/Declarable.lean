/-
# Amend.Proofs.Declarable — which expressions are accepted, and why others are not

An expression is accepted under a joiner just when it is a chain: a leaf, or a tree
of leaves under the one connective of the joiner (`Expr.ChainOf`).  A leaf has a
property on one side that is an identifier and a value on the other, and `NULL`
only where it is tested for.

A tree is looked at in two passes.  The first one goes over its connectives, and a
wrong one ends it before any leaf is seen; the second one goes over what is below
them, from the left, and the first that is no leaf ends it (`Expr.Refused`).
What was declared before has no part in it, so that no name of a parameter is ever
taken and no condition is made that does not fit (`accepts_iff_chainOf`).
-/
import Amend.Proofs.Consistency

set_option autoImplicit false

namespace Amend

/-! ## Chains of leaves -/

/-- The connective of the chains that are declared with a joiner. -/
def Joiner.link : Joiner → Connective
  | .or => .disjunction
  | _ => .conjunction

/-- Two expressions under a connective. -/
def Connective.join : Connective → Expr → Expr → Expr
  | .conjunction => .both
  | .disjunction => .either

/-- A comparison that can be expressed: `NULL` is tested for and has no order. -/
def Test.Expressible (t : Test) : Prop := t.value = .null → t.op = .equal ∨ t.op = .notEqual

namespace Expr

/-- A comparison of a property with a value, on either side. -/
inductive IsTest : Expr → Test → Prop where
  | left (property : String) (op : Comparison) (value : Value) :
      IsTest (.compare (.member property) op (.constant value)) ⟨property, op, value⟩
  | right (property : String) (op : Comparison) (value : Value) :
      IsTest (.compare (.constant value) op (.member property)) ⟨property, op.swapped, value⟩

/-- A leaf: a comparison on an identifier that can be expressed. -/
def IsLeaf (e : Expr) : Prop :=
  ∃ t, e.IsTest t ∧ (∃ i, Ident.parse t.property = .ok i) ∧ t.Expressible

/-- A leaf, or a tree of leaves under one connective. -/
inductive ChainOf (link : Connective) : Expr → Prop where
  | leaf {e : Expr} (leaf : e.IsLeaf) : ChainOf link e
  | join {a b : Expr} (left : ChainOf link a) (right : ChainOf link b) :
      ChainOf link (link.join a b)

/-- The connectives that are reached from the root through connectives alone. -/
def links : Expr → List Connective
  | .both a b => .conjunction :: (a.links ++ b.links)
  | .either a b => .disjunction :: (a.links ++ b.links)
  | _ => []

/-- No other connective is reached. -/
def Under (link : Connective) (e : Expr) : Prop := ∀ l ∈ e.links, l = link

/-- What is below the connectives, from left to right. -/
def parts : Expr → List Expr
  | .both a b => a.parts ++ b.parts
  | .either a b => a.parts ++ b.parts
  | e => [e]

/-- An expression without a connective at its root is a chain of one term. -/
structure IsPart (e : Expr) : Prop where
  links : e.links = []
  parts : e.parts = [e]
  chain : ∀ link, e.chain link = .ok [e]

/-- Induction down the connectives. -/
theorem join_induction {motive : Expr → Prop}
    (join : ∀ l a b, motive a → motive b → motive (Connective.join l a b))
    (part : ∀ e, e.IsPart → motive e) (e : Expr) : motive e := by
  induction e with
  | both a b iha ihb => exact join .conjunction a b iha ihb
  | either a b iha ihb => exact join .disjunction a b iha ihb
  | _ => exact part _ ⟨rfl, rfl, fun _ => rfl⟩

section Join

variable {link l : Connective} {a b : Expr}

theorem parts_join : (l.join a b).parts = a.parts ++ b.parts := by
  cases l <;> rfl

theorem chain_join : (l.join a b).chain link
    = if l = link then (do return (← a.chain link) ++ (← b.chain link))
      else .error (.mixed (l.join a b)) := by
  cases l <;> cases link <;> rfl

theorem under_join : (l.join a b).Under link ↔ l = link ∧ a.Under link ∧ b.Under link := by
  cases l <;> simp only [Connective.join, Under, links, List.forall_mem_cons,
    List.forall_mem_append]

theorem IsPart.under {e : Expr} (part : e.IsPart) : e.Under link := by
  simp [Under, part.links]

/-- What joins two expressions is no leaf. -/
theorem not_isLeaf_join : ¬(l.join a b).IsLeaf := by
  rintro ⟨t, test, -⟩
  cases l <;> cases test

theorem chainOf_join :
    (l.join a b).ChainOf link ↔ l = link ∧ a.ChainOf link ∧ b.ChainOf link := by
  constructor
  · intro chain
    generalize whole : l.join a b = e at chain
    cases chain with
    | leaf leaf =>
        subst whole
        exact absurd leaf not_isLeaf_join
    | join left right => cases l <;> cases link <;> cases whole <;> exact ⟨rfl, left, right⟩
  · rintro ⟨rfl, left, right⟩
    exact .join left right

theorem IsPart.chainOf_iff {e : Expr} (part : e.IsPart) : e.ChainOf link ↔ e.IsLeaf := by
  constructor
  · intro chain
    cases chain with
    | leaf leaf => exact leaf
    | join left right => cases link <;> cases part.links
  · exact .leaf

end Join

/-- **A chain has one connective above leaves.** -/
theorem chainOf_iff {link : Connective} {e : Expr} :
    e.ChainOf link ↔ e.Under link ∧ ∀ part ∈ e.parts, part.IsLeaf := by
  induction e using join_induction with
  | join l a b iha ihb =>
      rw [chainOf_join, iha, ihb, under_join, parts_join, List.forall_mem_append]
      tauto
  | part e part =>
      rw [part.chainOf_iff, part.parts, List.forall_mem_singleton, and_iff_right part.under]

end Expr

/-! ## The first pass -/

/-- A fault of the connectives of an expression declared with a joiner. -/
inductive ShapeFault.OfLinks (joiner : Joiner) (e : Expr) : ShapeFault → Prop where
  | declaredAs : OfLinks joiner e (.declaredAs joiner e)
  | mixed (below : Expr) : OfLinks joiner e (.mixed below)

namespace Expr

/-- **The pass over a chain ends just at a wrong connective**, and otherwise gives all that is
below. -/
theorem chain_cases (link : Connective) (e : Expr) :
    (e.Under link ∧ e.chain link = .ok e.parts)
      ∨ ¬e.Under link ∧ ∃ below, e.chain link = .error (.mixed below) := by
  induction e using join_induction with
  | part e part =>
      left
      rw [part.chain, part.parts]
      exact ⟨part.under, rfl⟩
  | join l a b iha ihb =>
      rw [under_join, chain_join, parts_join]
      by_cases same : l = link
      · rw [if_pos same]
        -- The left side is passed first, and a mixture in it ends the pass.
        rcases iha with ⟨left_, found⟩ | ⟨crossed, below, found⟩
        · rcases ihb with ⟨right_, found'⟩ | ⟨crossed, below, found'⟩
          · left
            rw [found, found']
            exact ⟨⟨same, left_, right_⟩, rfl⟩
          · right
            rw [found, found']
            exact ⟨fun under => crossed under.2.2, below, rfl⟩
        · right
          rw [found]
          exact ⟨fun under => crossed under.2.1, below, rfl⟩
      · right
        rw [if_neg same]
        exact ⟨fun under => same under.1, _, rfl⟩

/-- **The terms of a declaration are all that is below its connectives**, unless one of these is
wrong. -/
theorem terms_cases (joiner : Joiner) (e : Expr) :
    (e.Under joiner.link ∧ ∃ later, e.terms joiner = .ok (e.parts, later))
      ∨ ¬e.Under joiner.link
        ∧ ∃ fault, e.terms joiner = .error fault ∧ fault.OfLinks joiner e := by
  have passed : ∀ {later}, e.terms joiner = (do return (← e.chain joiner.link, later)) →
      (e.Under joiner.link ∧ ∃ later, e.terms joiner = .ok (e.parts, later))
        ∨ ¬e.Under joiner.link
          ∧ ∃ fault, e.terms joiner = .error fault ∧ fault.OfLinks joiner e := by
    intro later pass
    rw [pass]
    rcases e.chain_cases joiner.link with ⟨under, found⟩ | ⟨crossed, below, found⟩
    · left
      rw [found]
      exact ⟨under, later, rfl⟩
    · right
      rw [found]
      exact ⟨crossed, .mixed below, rfl, .mixed below⟩
  have refused : ∀ {l a b}, e = Connective.join l a b → l ≠ joiner.link →
      e.terms joiner = .error (.declaredAs joiner e) →
      ¬e.Under joiner.link ∧ ∃ fault, e.terms joiner = .error fault ∧ fault.OfLinks joiner e := by
    rintro l a b rfl other failed
    exact ⟨fun under => other (under_join.1 under).1, _, failed, .declaredAs⟩
  cases e with
  | both a b =>
      cases joiner with
      | or => exact .inr (refused (l := .conjunction) rfl (by decide) rfl)
      | _ => exact passed rfl
  | either a b =>
      cases joiner with
      | or => exact passed rfl
      | _ => exact .inr (refused (l := .disjunction) rfl (by decide) rfl)
  | _ => exact passed rfl

end Expr

/-! ## The second pass -/

/-- Why an expression is no leaf: its name if it compares a property with a value and the name
is no identifier, and otherwise its shape. -/
inductive Expr.Refused (e : Expr) : Error → Prop where
  | name {t : Test} {fault : Ident.Fault} (test : e.IsTest t)
      (unnamed : Ident.parse t.property = .error fault) : Refused e (.ident fault)
  | shape {fault : ShapeFault}
      (named : ∀ t, e.IsTest t → ∃ i, Ident.parse t.property = .ok i) :
      Refused e (.unsupportedShape fault)

theorem Expr.IsTest.unique {e : Expr} {t t' : Test} (first : e.IsTest t)
    (second : e.IsTest t') : t = t' := by
  cases first <;> cases second <;> rfl

theorem Expr.IsTest.isLeaf_iff {e : Expr} {t : Test} (test : e.IsTest t) :
    e.IsLeaf ↔ (∃ i, Ident.parse t.property = .ok i) ∧ t.Expressible := by
  constructor
  · rintro ⟨t', test', leaf⟩
    obtain rfl := test.unique test'
    exact leaf
  · intro leaf
    exact ⟨t, test, leaf⟩

namespace Leaf

theorem ofExpr_of_test {e : Expr} {t : Test} (test : e.IsTest t) :
    ofExpr e = make t.property t.op t.value := by
  cases test <;> rfl

/-- What compares no property with a value is refused for its shape. -/
theorem ofExpr_of_no_test {e : Expr} (other : ∀ t, ¬e.IsTest t) :
    ∃ fault, ofExpr e = .error (.unsupportedShape fault) := by
  unfold ofExpr
  split
  · exact absurd (.left ..) (other _)
  · exact absurd (.right ..) (other _)
  all_goals exact ⟨_, rfl⟩

theorem make_of_unnamed {t : Test} {fault : Ident.Fault}
    (unnamed : Ident.parse t.property = .error fault) :
    make t.property t.op t.value = .error (.ident fault) := by
  simp [make, Ident.read, unnamed, Except.mapError, bind, Except.bind]

/-- A comparison on an identifier is a leaf just when it can be expressed. -/
theorem make_of_named {t : Test} {i : Ident} (named : Ident.parse t.property = .ok i) :
    (t.Expressible ∧ ∃ l, make t.property t.op t.value = .ok l)
      ∨ ¬t.Expressible
        ∧ ∃ fault, make t.property t.op t.value = .error (.unsupportedShape fault) := by
  obtain ⟨property, op, value⟩ := t
  simp only [make, Ident.read_eq_ok.2 named, bind, Except.bind]
  cases value with
  | null => cases op <;> simp [Test.Expressible]
  | _ => exact .inl ⟨nofun, _, rfl⟩

/-- **A term is taken just when it is a leaf.** -/
theorem ofExpr_cases (e : Expr) :
    (e.IsLeaf ∧ ∃ l, ofExpr e = .ok l)
      ∨ ¬e.IsLeaf ∧ ∃ err, ofExpr e = .error err ∧ e.Refused err := by
  by_cases comparison : ∃ t, e.IsTest t
  · obtain ⟨t, test⟩ := comparison
    rw [ofExpr_of_test test, test.isLeaf_iff]
    cases parsed : Ident.parse t.property with
    | error fault =>
        right
        refine ⟨?_, .ident fault, make_of_unnamed parsed, .name test parsed⟩
        rintro ⟨⟨i, ⟨⟩⟩, -⟩
    | ok i =>
        have named : ∀ t', e.IsTest t' → ∃ i, Ident.parse t'.property = .ok i := by
          intro t' test'
          obtain rfl := test.unique test'
          exact ⟨i, parsed⟩
        rcases make_of_named parsed with ⟨expressible, made⟩ | ⟨other, fault, made⟩
        · left
          exact ⟨⟨⟨i, rfl⟩, expressible⟩, made⟩
        · right
          exact ⟨fun leaf => other leaf.2, .unsupportedShape fault, made, .shape named⟩
  · right
    have other : ∀ t, ¬e.IsTest t := not_exists.1 comparison
    obtain ⟨fault, refused⟩ := ofExpr_of_no_test other
    have noLeaf : ¬e.IsLeaf := by
      rintro ⟨t, test, -⟩
      exact other t test
    exact ⟨noLeaf, .unsupportedShape fault, refused, .shape fun t test => absurd test (other t)⟩

theorem isLeaf_of_ofExpr {e : Expr} {l : Leaf} (made : ofExpr e = .ok l) : e.IsLeaf := by
  rcases ofExpr_cases e with ⟨leaf, -⟩ | ⟨-, err, failed, -⟩
  · exact leaf
  · cases made.symm.trans failed

theorem refused_of_ofExpr {e : Expr} {err : Error} (failed : ofExpr e = .error err) :
    ¬e.IsLeaf ∧ e.Refused err := by
  rcases ofExpr_cases e with ⟨-, l, made⟩ | ⟨bad, err', failed', refused⟩
  · cases failed.symm.trans made
  · cases failed.symm.trans failed'
    exact ⟨bad, refused⟩

end Leaf

/-! ## Declarations -/

namespace Expr

/-- What a declared expression is refused with. -/
structure RefusedAs (joiner : Joiner) (e : Expr) (err : Error) : Prop where
  /-- A wrong connective is found before any leaf is seen. -/
  crossed : ¬e.Under joiner.link → ∃ fault, err = .unsupportedShape fault ∧ fault.OfLinks joiner e
  /-- Otherwise the first part that is no leaf decides. -/
  decided : e.Under joiner.link → ∃ before bad after, e.parts = before ++ bad :: after
    ∧ (∀ part ∈ before, part.IsLeaf) ∧ ¬bad.IsLeaf ∧ bad.Refused err

/-- **An expression is taken apart just when it is a chain**, with a condition for each leaf. -/
theorem taken_cases (joiner : Joiner) (e : Expr) :
    (e.ChainOf joiner.link
        ∧ ∃ ds, e.taken joiner = .ok ds ∧ ds.length = e.parts.length)
      ∨ ¬e.ChainOf joiner.link ∧ ∃ err, e.taken joiner = .error err ∧ e.RefusedAs joiner err := by
  rw [chainOf_iff]
  unfold taken
  rcases terms_cases joiner e with ⟨under, later, found⟩ | ⟨crossed, fault, failed, of⟩
  · rw [found]
    cases made : e.parts.mapM Leaf.ofExpr with
    | ok leaves =>
        left
        have each : ∀ part ∈ e.parts, part.IsLeaf := by
          intro part member
          obtain ⟨l, made⟩ := exists_mapM_eq_ok.1 ⟨leaves, made⟩ part member
          exact Leaf.isLeaf_of_ofExpr made
        have count := (mapM_eq_ok.1 made).length_eq
        refine ⟨⟨under, each⟩, tag joiner later leaves, ?_, ?_⟩
        · simp [Except.mapError, bind, Except.bind, made, pure, Except.pure]
        · rw [length_tag, count]
    | error err =>
        right
        obtain ⟨before, bad, after, split, passed, failed⟩ := exists_of_mapM_eq_error made
        obtain ⟨noLeaf, refused⟩ := Leaf.refused_of_ofExpr failed
        have leaves : ∀ part ∈ before, part.IsLeaf := by
          intro part member
          obtain ⟨l, made⟩ := passed part member
          exact Leaf.isLeaf_of_ofExpr made
        have noChain : ¬(e.Under joiner.link ∧ ∀ part ∈ e.parts, part.IsLeaf) := by
          rintro ⟨-, all⟩
          exact noLeaf (all bad (by simp [split]))
        have decided : e.RefusedAs joiner err :=
          { crossed := fun crossed => absurd under crossed
            decided := fun _ => ⟨before, bad, after, split, leaves, noLeaf, refused⟩ }
        refine ⟨noChain, err, ?_, decided⟩
        simp [Except.mapError, bind, Except.bind, made]
  · right
    rw [failed]
    have decided : e.RefusedAs joiner (.unsupportedShape fault) :=
      { crossed := fun _ => ⟨fault, rfl, of⟩
        decided := fun under => absurd under crossed }
    exact ⟨fun chain => crossed chain.1, .unsupportedShape fault, rfl, decided⟩

/-- An expression is refused for its shape or for a name. -/
theorem RefusedAs.cases {joiner : Joiner} {e : Expr} {err : Error}
    (refused : e.RefusedAs joiner err) :
    (∃ fault, err = .unsupportedShape fault) ∨ ∃ fault, err = .ident fault := by
  by_cases under : e.Under joiner.link
  · obtain ⟨_, _, _, _, _, _, refused⟩ := refused.decided under
    cases refused with
    | name => exact .inr ⟨_, rfl⟩
    | shape => exact .inl ⟨_, rfl⟩
  · obtain ⟨fault, rfl, -⟩ := refused.crossed under
    exact .inl ⟨fault, rfl⟩

end Expr

/-- An expression is declared behind others as it is taken apart. -/
theorem run_addInPlace_ofDeclared (declared : List Declared) (joiner : Joiner) (e : Expr) :
    (Predicates.addInPlace joiner e).run (Predicates.ofDeclared declared)
      = Edit.settle (Predicates.ofDeclared declared) ((e.taken joiner).map fun ds =>
          (ds.length, Predicates.ofDeclared (declared ++ ds))) := by
  rw [Predicates.run_addInPlace, add_ofDeclared]
  cases e.taken joiner <;> rfl

theorem run_addInPlace_after (calls : List (Joiner × Expr)) (joiner : Joiner) (e : Expr) :
    (Predicates.addInPlace joiner e).run (Predicates.afterInPlace calls)
      = Edit.settle (Predicates.afterInPlace calls) ((e.taken joiner).map fun ds =>
          (ds.length, Predicates.ofDeclared (conditionsOf calls ++ ds))) := by
  rw [afterInPlace_eq, Predicates.after_eq]
  exact run_addInPlace_ofDeclared _ joiner e

/-- **An expression is accepted just when it is a chain of leaves**, with a condition for each leaf,
whatever was declared before.  An expression that is refused is refused for what it is itself: no
name of a parameter is taken, and no condition does not fit. -/
theorem accepts_iff_chainOf (calls : List (Joiner × Expr)) (joiner : Joiner) (e : Expr) :
    let ran := (Predicates.addInPlace joiner e).run (Predicates.afterInPlace calls)
    ((∃ n p, ran = .ok n p) ↔ e.ChainOf joiner.link)
      ∧ (∀ n p, ran = .ok n p → n = e.parts.length)
      ∧ ∀ err p, ran = .error err p → p = Predicates.afterInPlace calls ∧ e.RefusedAs joiner err
        ∧ (∀ name, err ≠ .parameterCollision name) ∧ err ≠ .validation .blankProperty
        ∧ ∀ op property, err ≠ .validation (.parameter op property) := by
  dsimp only
  rw [run_addInPlace_after]
  rcases e.taken_cases joiner with ⟨chain, ds, taken, length⟩ | ⟨noChain, err, taken, refused⟩
  · rw [taken]
    refine ⟨iff_of_true ⟨ds.length, _, rfl⟩ chain, ?_, nofun⟩
    rintro n p ⟨⟩
    exact length
  · rw [taken]
    refine ⟨iff_of_false nofun noChain, nofun, ?_⟩
    rintro _ _ ⟨⟩
    refine ⟨rfl, refused, ?_⟩
    rcases refused.cases with ⟨fault, rfl⟩ | ⟨fault, rfl⟩
    · exact ⟨nofun, nofun, nofun⟩
    · exact ⟨nofun, nofun, nofun⟩

end Amend

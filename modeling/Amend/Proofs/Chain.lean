/-
# Amend.Proofs.Chain — what a declared expression declares

`Expr.comparisons` lists the comparisons of an expression from left to right,
with no regard to whether the expression is accepted.  `Expr.declares` gives
each its keyword: the first one has the keyword of the declaration, and a later
one that of the chain.

Taking an accepted expression apart yields just these (`taken_eq_ok`), each on
an identifier and with a value exactly where its operator binds one.
-/
import Amend.Predicates
import Amend.Proofs.Outcome

set_option autoImplicit false

namespace Amend

/-- A comparison under the keyword in front of it. -/
structure Declared where
  joiner : Joiner
  leaf : Leaf
  deriving Repr

/-- A property compared with a value, the property on the left. -/
structure Test where
  property : String
  op : Comparison
  value : Value
  deriving Repr

namespace Test

/-- The operator of a condition: comparing with `NULL` tests for it. -/
def operator (t : Test) : Operator :=
  match t.value, t.op with
  | .null, .equal => .isNull
  | .null, _ => .isNotNull
  | _, op => .compare op

/-- The value that a condition binds. -/
def bound (t : Test) : Option Value := if t.value.isNull then none else some t.value

/-- The condition that a comparison becomes. -/
def leaf (t : Test) : Leaf := ⟨t.property, t.operator, t.bound⟩

end Test

def Expr.comparisons : Expr → List Test
  | .both a b => a.comparisons ++ b.comparisons
  | .either a b => a.comparisons ++ b.comparisons
  | .compare (.member property) op (.constant value) => [⟨property, op, value⟩]
  | .compare (.constant value) op (.member property) => [⟨property, op.swapped, value⟩]
  | _ => []

/-- The keyword of the second and later terms of a declaration. -/
def Joiner.later : Joiner → Joiner
  | .or => .or
  | _ => .and

/-- Leaves under one keyword for the first and another for the rest. -/
def tag (first later : Joiner) : List Leaf → List Declared
  | [] => []
  | leaf :: rest => ⟨first, leaf⟩ :: tag later later rest

/-- What an expression declares, if it is accepted. -/
def Expr.declares (joiner : Joiner) (e : Expr) : List Declared :=
  tag joiner joiner.later (e.comparisons.map Test.leaf)

/-- Take a declared expression apart, without a state to add to. -/
def Expr.taken (joiner : Joiner) (e : Expr) : Except Error (List Declared) := do
  let (terms, later) ← (e.terms joiner).mapError Error.unsupportedShape
  let leaves ← terms.mapM Leaf.ofExpr
  return tag joiner later leaves

/-- A condition on an identifier, with a value exactly where its operator binds one. -/
def Leaf.WellFormed (l : Leaf) : Prop :=
  (∃ i, Ident.parse l.property = .ok i) ∧ l.op.bindsValue = l.value.isSome

/-! ## A single comparison -/

theorem length_tag (first later : Joiner) (leaves : List Leaf) :
    (tag first later leaves).length = leaves.length := by
  induction leaves generalizing first with
  | nil => rfl
  | cons leaf rest ih => simp [tag, ih]

theorem map_leaf_tag (first later : Joiner) (leaves : List Leaf) :
    (tag first later leaves).map Declared.leaf = leaves := by
  induction leaves generalizing first with
  | nil => rfl
  | cons leaf rest ih => simp [tag, ih]

theorem Leaf.make_eq_ok {property : String} {op : Comparison} {value : Value} {l : Leaf}
    (made : Leaf.make property op value = .ok l) :
    l = Test.leaf ⟨property, op, value⟩ ∧ l.WellFormed := by
  obtain ⟨i, parsed, made⟩ := bind_eq_ok.1 made
  rw [Ident.read_eq_ok] at parsed
  cases value with
  | null =>
      cases op with
      | equal => cases made; exact ⟨rfl, ⟨i, parsed⟩, rfl⟩
      | notEqual => cases made; exact ⟨rfl, ⟨i, parsed⟩, rfl⟩
      | _ => cases made
  | _ => cases made; exact ⟨rfl, ⟨i, parsed⟩, rfl⟩

/-- A term that is accepted is one comparison. -/
theorem Leaf.ofExpr_eq_ok {e : Expr} {l : Leaf} (made : Leaf.ofExpr e = .ok l) :
    e.comparisons.map Test.leaf = [l] ∧ l.WellFormed := by
  unfold Leaf.ofExpr at made
  split at made
  · obtain ⟨rfl, formed⟩ := Leaf.make_eq_ok made
    exact ⟨rfl, formed⟩
  · obtain ⟨rfl, formed⟩ := Leaf.make_eq_ok made
    exact ⟨rfl, formed⟩
  · cases made
  · cases made
  · cases made

theorem leaves_eq_ok {terms : List Expr} {leaves : List Leaf}
    (made : List.Forall₂ (fun e l => Leaf.ofExpr e = .ok l) terms leaves) :
    leaves = (terms.flatMap Expr.comparisons).map Test.leaf ∧ ∀ l ∈ leaves, l.WellFormed := by
  induction made with
  | nil => exact ⟨rfl, by simp⟩
  | cons head tail ih =>
      obtain ⟨one, formed⟩ := Leaf.ofExpr_eq_ok head
      obtain ⟨rest, restFormed⟩ := ih
      refine ⟨by simp [one, ← rest], fun l member => ?_⟩
      rcases List.mem_cons.1 member with rfl | member
      · exact formed
      · exact restFormed l member

/-! ## A chain of comparisons -/

theorem Expr.append_chain_eq_ok {link : Connective} {a b : Expr} {terms : List Expr}
    (made : (do return (← a.chain link) ++ (← b.chain link)) = Except.ok terms) :
    ∃ left right, a.chain link = .ok left ∧ b.chain link = .ok right ∧ terms = left ++ right := by
  obtain ⟨left, hleft, made⟩ := bind_eq_ok.1 made
  obtain ⟨right, hright, made⟩ := bind_eq_ok.1 made
  exact ⟨left, right, hleft, hright, (pure_eq_ok.1 made).symm⟩

/-- The terms of a chain hold the comparisons of the expression, in order. -/
theorem Expr.chain_eq_ok {link : Connective} {e : Expr} {terms : List Expr}
    (made : e.chain link = .ok terms) :
    terms ≠ [] ∧ terms.flatMap comparisons = e.comparisons := by
  induction e generalizing terms with
  | both a b iha ihb =>
      simp only [chain] at made
      split at made
      · obtain ⟨left, right, hleft, hright, rfl⟩ := append_chain_eq_ok made
        obtain ⟨nonempty, first⟩ := iha hleft
        simp [comparisons, nonempty, first, (ihb hright).2]
      · cases made
  | either a b iha ihb =>
      simp only [chain] at made
      split at made
      · obtain ⟨left, right, hleft, hright, rfl⟩ := append_chain_eq_ok made
        obtain ⟨nonempty, first⟩ := iha hleft
        simp [comparisons, nonempty, first, (ihb hright).2]
      · cases made
  | _ =>
      cases made
      simp

/-- The terms of an accepted expression hold its comparisons; only a single term has no use for the
keyword of a chain. -/
theorem Expr.terms_eq_ok {joiner later : Joiner} {e : Expr} {terms : List Expr}
    (made : e.terms joiner = .ok (terms, later)) :
    terms ≠ [] ∧ terms.flatMap comparisons = e.comparisons
      ∧ (later = joiner.later ∨ terms = [e]) := by
  unfold Expr.terms at made
  split at made
  · cases made
  · rename_i j a b notOr
    obtain ⟨parts, hparts, made⟩ := bind_eq_ok.1 made
    cases made
    obtain ⟨nonempty, all⟩ := chain_eq_ok hparts
    refine ⟨nonempty, all, .inl ?_⟩
    cases joiner with
    | or => exact absurd rfl notOr
    | _ => rfl
  · obtain ⟨parts, hparts, made⟩ := bind_eq_ok.1 made
    cases made
    obtain ⟨nonempty, all⟩ := chain_eq_ok hparts
    exact ⟨nonempty, all, .inl rfl⟩
  · cases made
  · cases made
    exact ⟨by simp, by simp, .inr rfl⟩

/-- **An accepted expression declares its comparisons**, one at least and each on an identifier. -/
theorem Expr.taken_eq_ok {joiner : Joiner} {e : Expr} {ds : List Declared}
    (made : e.taken joiner = .ok ds) :
    ds = e.declares joiner ∧ ds ≠ [] ∧ ∀ d ∈ ds, d.leaf.WellFormed := by
  obtain ⟨⟨terms, later⟩, split, made⟩ := bind_eq_ok.1 made
  obtain ⟨leaves, hleaves, made⟩ := bind_eq_ok.1 made
  rw [mapError_eq_ok] at split
  obtain ⟨nonempty, all, keyword⟩ := terms_eq_ok split
  have each := mapM_eq_ok.1 hleaves
  obtain ⟨same, formed⟩ := leaves_eq_ok each
  cases made
  have tagged : tag joiner later leaves = tag joiner joiner.later leaves := by
    rcases keyword with rfl | rfl
    · rfl
    · obtain ⟨l, _, -, hnil, rfl⟩ := List.forall₂_cons_left_iff.1 each
      cases List.forall₂_nil_left_iff.1 hnil
      rfl
  refine ⟨by rw [tagged, same, all]; rfl, fun empty => ?_, fun d member => ?_⟩
  · have none_ := map_leaf_tag joiner later leaves
    rw [empty, List.map_nil] at none_
    rw [← none_] at each
    exact nonempty (List.forall₂_nil_right_iff.1 each)
  · apply formed
    rw [← map_leaf_tag joiner later leaves]
    exact List.mem_map_of_mem member

/-! ## Keywords -/

theorem Joiner.later_ne_opening (j : Joiner) : j.later ≠ .opening := by
  cases j <;> decide

theorem map_joiner_tag (first later : Joiner) (leaves : List Leaf) :
    (tag first later leaves).map Declared.joiner
      = leaves.head?.toList.map (fun _ => first) ++ leaves.tail.map fun _ => later := by
  have rest : ∀ leaves : List Leaf,
      (tag later later leaves).map Declared.joiner = leaves.map fun _ => later := by
    intro leaves
    induction leaves with
    | nil => rfl
    | cons leaf rest ih => simp [tag, ih]
  cases leaves with
  | nil => rfl
  | cons leaf more => simp [tag, rest]

/-- Only the first condition of a declaration stands behind its own keyword. -/
theorem joiners_declares {joiner : Joiner} {e : Expr} (nonempty : e.declares joiner ≠ []) :
    ∃ later, (e.declares joiner).map Declared.joiner = joiner :: later
      ∧ ∀ j ∈ later, j ≠ .opening := by
  unfold Expr.declares at nonempty ⊢
  cases leaves : e.comparisons.map Test.leaf with
  | nil => exact absurd (by rw [leaves]; rfl) nonempty
  | cons leaf more =>
      rw [map_joiner_tag]
      refine ⟨more.map fun _ => joiner.later, rfl, fun j member => ?_⟩
      obtain ⟨-, -, rfl⟩ := List.mem_map.1 member
      exact Joiner.later_ne_opening joiner

end Amend

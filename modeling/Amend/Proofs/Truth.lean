/-
# Amend.Proofs.Truth — what an expression says about a row

A predicate about a row holds, does not hold, or is unknown.  The connectives are
those of Kleene's strong logic.  A comparison that meets `NULL` is unknown, apart
from = and != against the constant `NULL`, which ask whether a value is there.

How two values compare is the database's affair.  A `Collation` is any way to
compare them under which a comparison may be read from either side.
-/
import Amend.Proofs.Chain

set_option autoImplicit false

namespace Amend

/-! ## Three values -/

/-- Whether a predicate holds. -/
inductive Truth where
  | no
  | unknown
  | yes
  deriving DecidableEq, Repr

namespace Truth

/-- The truth of what is decided. -/
def ofBool : Bool → Truth
  | true => .yes
  | false => .no

def and : Truth → Truth → Truth
  | .no, _ => .no
  | _, .no => .no
  | .yes, .yes => .yes
  | _, _ => .unknown

def or : Truth → Truth → Truth
  | .yes, _ => .yes
  | _, .yes => .yes
  | .no, .no => .no
  | _, _ => .unknown

/-- The opposite, where there is one. -/
def not : Truth → Truth
  | .no => .yes
  | .unknown => .unknown
  | .yes => .no

def all (ts : List Truth) : Truth := ts.foldr and .yes

def any (ts : List Truth) : Truth := ts.foldr or .no

@[simp] theorem yes_and (t : Truth) : yes.and t = t := by cases t <;> rfl

@[simp] theorem and_yes (t : Truth) : t.and yes = t := by cases t <;> rfl

@[simp] theorem no_or (t : Truth) : no.or t = t := by cases t <;> rfl

@[simp] theorem or_no (t : Truth) : t.or no = t := by cases t <;> rfl

theorem and_assoc (a b c : Truth) : (a.and b).and c = a.and (b.and c) := by
  cases a <;> cases b <;> cases c <;> rfl

theorem or_assoc (a b c : Truth) : (a.or b).or c = a.or (b.or c) := by
  cases a <;> cases b <;> cases c <;> rfl

theorem all_append (ts us : List Truth) : all (ts ++ us) = (all ts).and (all us) := by
  induction ts with
  | nil => exact (yes_and _).symm
  | cons t ts ih =>
      calc t.and (all (ts ++ us)) = t.and ((all ts).and (all us)) := by rw [ih]
        _ = (t.and (all ts)).and (all us) := (and_assoc t _ _).symm

theorem any_append (ts us : List Truth) : any (ts ++ us) = (any ts).or (any us) := by
  induction ts with
  | nil => exact (no_or _).symm
  | cons t ts ih =>
      calc t.or (any (ts ++ us)) = t.or ((any ts).or (any us)) := by rw [ih]
        _ = (t.or (any ts)).or (any us) := (or_assoc t _ _).symm

end Truth

/-! ## Comparisons -/

/-- A way to compare values, where `a op b` is `b op' a` with the comparison turned around. -/
structure Collation where
  holds : Value → Comparison → Value → Truth
  turned : ∀ a op b, holds a op b = holds b op.swapped a

namespace Collation

/-- The truth of a comparison of two values, which is unknown where one of them is `NULL`. -/
def compare (c : Collation) (a : Value) (op : Comparison) (b : Value) : Truth :=
  if a.isNull || b.isNull then .unknown else c.holds a op b

theorem compare_swapped (c : Collation) (a : Value) (op : Comparison) (b : Value) :
    c.compare a op b = c.compare b op.swapped a := by
  unfold compare
  rw [Bool.or_comm, c.turned]

end Collation

/-- The truth of a comparison with the constant `NULL`, which has no place in an order. -/
def Comparison.againstNull (op : Comparison) (value : Value) : Truth :=
  match op with
  | .equal => .ofBool value.isNull
  | .notEqual => .ofBool (!value.isNull)
  | _ => .unknown

/-! ## Expressions and operators -/

/-- The values of a row by property, where `NULL` is one of them. -/
abbrev Cells := String → Value

namespace Expr

/-- The value of a side of a comparison; a predicate has none. -/
def operand (row : Cells) : Expr → Value
  | .member name => row name
  | .constant value => value
  | _ => .null

def isNull : Expr → Bool
  | .constant value => value.isNull
  | _ => false

/-- The truth of an expression about a row, its operands in the order in which they are written.
What is no predicate is unknown. -/
def truth (c : Collation) (row : Cells) : Expr → Truth
  | .compare left op right =>
    if right.isNull then op.againstNull (left.operand row)
    else if left.isNull then op.swapped.againstNull (right.operand row)
    else c.compare (left.operand row) op (right.operand row)
  | .both a b => (a.truth c row).and (b.truth c row)
  | .either a b => (a.truth c row).or (b.truth c row)
  | .negation e => (e.truth c row).not
  | .member _ | .constant _ => .unknown

end Expr

/-- The truth of a condition, given the value in its column and the value bound to it. -/
def Operator.truth (c : Collation) (cell : Value) (bound : Option Value) : Operator → Truth
  | .compare op => c.compare cell op (bound.getD .null)
  | .isNull => .ofBool cell.isNull
  | .isNotNull => .ofBool (!cell.isNull)

/-- The truth of the condition that a comparison becomes. -/
def Test.truth (c : Collation) (row : Cells) (t : Test) : Truth :=
  t.operator.truth c (row t.property) t.bound

/-! ## A term that is accepted -/

/-- An accepted comparison with a value keeps its truth when it becomes a condition. -/
theorem truth_of_make {property : String} {op : Comparison} {value : Value} {l : Leaf}
    (made : Leaf.make property op value = .ok l) (c : Collation) (row : Cells) :
    Test.truth c row ⟨property, op, value⟩
      = if value.isNull then op.againstNull (row property)
        else c.compare (row property) op value := by
  obtain ⟨-, -, made⟩ := bind_eq_ok.1 made
  cases value with
  | null =>
      cases op with
      | equal | notEqual => rfl
      | _ => cases made
  | _ => rfl

/-- **A term that is accepted has the truth of its condition**, on whichever side its property
stands. -/
theorem truth_of_ofExpr {e : Expr} {l : Leaf} (made : Leaf.ofExpr e = .ok l) (c : Collation)
    (row : Cells) : ∃ t, e.comparisons = [t] ∧ e.truth c row = t.truth c row := by
  unfold Leaf.ofExpr at made
  split at made
  · rename_i property op value
    refine ⟨⟨property, op, value⟩, rfl, ?_⟩
    rw [truth_of_make made]
    rfl
  · rename_i value op property
    refine ⟨⟨property, op.swapped, value⟩, rfl, ?_⟩
    rw [truth_of_make made, ← c.compare_swapped]
    rfl
  · cases made
  · cases made
  · cases made

/-- Terms that are accepted have the truths of their conditions, in order. -/
theorem truths_of_leaves {terms : List Expr} {leaves : List Leaf}
    (made : List.Forall₂ (fun e l => Leaf.ofExpr e = .ok l) terms leaves) (c : Collation)
    (row : Cells) :
    terms.map (Expr.truth c row) = (terms.flatMap Expr.comparisons).map (Test.truth c row) := by
  induction made with
  | nil => rfl
  | cons head tail ih =>
      obtain ⟨t, one, same⟩ := truth_of_ofExpr head c row
      simp [one, same, ih]

end Amend

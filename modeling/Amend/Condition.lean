/-
# Amend.Condition — one term of a WHERE clause

A condition applies an operator to a column, with a parameter exactly when the
operator binds a value.  It keeps the logical property it was declared on beside
the column it is rendered with, the keyword in front of it, and its place among
all conditions of the statement.
-/
import Amend.Error
import Amend.Text.Blank

set_option autoImplicit false

namespace Amend

/-- One predicate of a statement. -/
structure Condition where
  property : String
  /-- The column to render, which is the property until a mapping says otherwise. -/
  column : String
  op : Operator
  param : Option String
  joiner : Joiner
  /-- The place in the order of declaration. -/
  sort : Nat
  deriving DecidableEq, Repr

namespace Condition

/-- A condition on a property that is not blank, with a parameter if and only if `op` binds. -/
def make (property : String) (op : Operator) (param : Option String) (joiner : Joiner)
    (sort : Nat) : Except Error Condition :=
  if Text.allBlank property then .error (.validation .blankProperty)
  else if op.bindsValue != param.isSome then .error (.validation (.parameter op property))
  else .ok { property, column := property, op, param, joiner, sort }

/-- Conditions compare by their places alone. -/
def order (c d : Condition) : Ordering := compare c.sort d.sort

/-- Put a condition in front of the first one that does not sort before it. -/
def insert (c : Condition) : List Condition → List Condition
  | [] => [c]
  | d :: ds => if c.sort ≤ d.sort then c :: d :: ds else d :: insert c ds

/-- Conditions by their places; equal places keep their order. -/
def sorted (cs : List Condition) : List Condition := cs.foldr insert []

theorem perm_insert (c : Condition) (cs : List Condition) : (insert c cs).Perm (c :: cs) := by
  induction cs with
  | nil => exact .refl _
  | cons d ds ih =>
    unfold insert
    split
    · exact .refl _
    · exact (ih.cons d).trans (.swap c d ds)

theorem perm_sorted (cs : List Condition) : (sorted cs).Perm cs := by
  induction cs with
  | nil => exact .refl _
  | cons c cs ih => exact (perm_insert c _).trans (ih.cons c)

/-- Insertion keeps the places from falling. -/
theorem pairwise_insert {c : Condition} {cs : List Condition}
    (h : cs.Pairwise fun a b => a.sort ≤ b.sort) :
    (insert c cs).Pairwise fun a b => a.sort ≤ b.sort := by
  induction cs with
  | nil => simp [insert]
  | cons d ds ih =>
    obtain ⟨hd, hds⟩ := List.pairwise_cons.1 h
    unfold insert
    split
    · rename_i hcd
      refine List.pairwise_cons.2 ⟨fun e he => ?_, h⟩
      rcases List.mem_cons.1 he with rfl | he
      · exact hcd
      · exact Nat.le_trans hcd (hd e he)
    · rename_i hcd
      refine List.pairwise_cons.2 ⟨fun e he => ?_, ih hds⟩
      rcases List.mem_cons.1 ((perm_insert c ds).mem_iff.1 he) with rfl | he
      · exact Nat.le_of_lt (Nat.not_le.1 hcd)
      · exact hd e he

/-- The places of sorted conditions do not fall. -/
theorem pairwise_sorted (cs : List Condition) :
    (sorted cs).Pairwise fun a b => a.sort ≤ b.sort := by
  induction cs with
  | nil => exact .nil
  | cons c cs ih => exact pairwise_insert ih

end Condition

end Amend

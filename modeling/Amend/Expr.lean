/-
# Amend.Expr — predicate expressions

An expression names properties of a row, holds values, compares, and combines
with AND, OR and NOT.  Its text shows every value as `<value>`, so that a message
about an expression never shows what a caller bound.
-/
import Amend.Operator
import Amend.Value

set_option autoImplicit false

namespace Amend

/-- A predicate over the properties of a row. -/
inductive Expr where
  /-- A property, by its logical name. -/
  | member (name : String)
  | constant (value : Value)
  | compare (left : Expr) (op : Comparison) (right : Expr)
  /-- Both of two predicates. -/
  | both (left right : Expr)
  /-- One of two predicates, or both. -/
  | either (left right : Expr)
  | negation (inner : Expr)
  deriving Repr

namespace Expr

/-- A property compared with a value. -/
def test (name : String) (op : Comparison) (value : Value) : Expr :=
  .compare (.member name) op (.constant value)

def text : Expr → String
  | .member name => name
  | .constant _ => "<value>"
  | .compare left op right => left.text ++ " " ++ op.symbol ++ " " ++ right.text
  | .both left right => "(" ++ left.text ++ " AND " ++ right.text ++ ")"
  | .either left right => "(" ++ left.text ++ " OR " ++ right.text ++ ")"
  | .negation inner => "NOT (" ++ inner.text ++ ")"

/-- Equality of expressions, node by node. -/
def same : Expr → Expr → Bool
  | .member a, .member b => a == b
  | .constant v, .constant w => v.same w
  | .compare l op r, .compare l' op' r' => l.same l' && op == op' && r.same r'
  | .both l r, .both l' r' => l.same l' && r.same r'
  | .either l r, .either l' r' => l.same l' && r.same r'
  | .negation e, .negation e' => e.same e'
  | _, _ => false

/-- The first expression combined with each of the others, from the left. -/
def combine (join : Expr → Expr → Expr) (first : Expr) (others : List Expr) : Expr :=
  others.foldl join first

end Expr

end Amend

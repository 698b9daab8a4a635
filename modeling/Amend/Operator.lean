/-
# Amend.Operator — comparisons, and the keywords between conditions

A `Comparison` stands between the two sides of an expression.  An `Operator` is
what a condition of a statement applies to its column: a comparison with a bound
value, or one of the two tests for `NULL`, which bind nothing.  A `Joiner` is the
keyword in front of a condition.
-/
set_option autoImplicit false

namespace Amend

/-- A comparison of two values. -/
inductive Comparison where
  | equal
  | notEqual
  | greater
  | greaterOrEqual
  | less
  | lessOrEqual
  deriving DecidableEq, Repr

namespace Comparison

def symbol : Comparison → String
  | .equal => "="
  | .notEqual => "!="
  | .greater => ">"
  | .greaterOrEqual => ">="
  | .less => "<"
  | .lessOrEqual => "<="

/-- The comparison with its sides exchanged: `5 < x` is `x > 5`. -/
def swapped : Comparison → Comparison
  | .equal => .equal
  | .notEqual => .notEqual
  | .greater => .less
  | .greaterOrEqual => .lessOrEqual
  | .less => .greater
  | .lessOrEqual => .greaterOrEqual

end Comparison

/-- The operator of a condition. -/
inductive Operator where
  | compare (c : Comparison)
  | isNull
  | isNotNull
  deriving DecidableEq, Repr

namespace Operator

def sql : Operator → String
  | .compare c => c.symbol
  | .isNull => "IS NULL"
  | .isNotNull => "IS NOT NULL"

/-- Whether the operator has a bound value on its right. -/
def bindsValue : Operator → Bool
  | .compare _ => true
  | .isNull | .isNotNull => false

end Operator

/-- The keyword in front of a condition; `opening` declares the start of the clause. -/
inductive Joiner where
  | opening
  | and
  | or
  deriving DecidableEq, Repr

/-- The keyword as a statement writes it. -/
def Joiner.keyword : Joiner → String
  | .opening => "WHERE"
  | .and => "AND"
  | .or => "OR"

end Amend

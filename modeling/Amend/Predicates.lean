/-
# Amend.Predicates — from expressions to conditions

`Predicates.add` takes one declared expression apart into conditions.  An
expression declared with WHERE or AND is a comparison or a tree of ANDs over
comparisons; one declared with OR is a comparison or a tree of ORs.  A comparison
has a property on one side and a value on the other; against `NULL` it is one of
the two tests that bind nothing.  What has another shape is refused, and a
refusal leaves everything as it was.

Conditions are kept in a group for each joiner and numbered in the order of
declaration, so that `ordered` puts the groups together again.
-/
import Amend.Mapping
import Amend.Param

set_option autoImplicit false

namespace Amend

/-- The connective of a chain of terms. -/
inductive Connective where
  | conjunction
  | disjunction
  deriving DecidableEq, Repr

/-- A comparison of a property with a value, or a test for `NULL`. -/
structure Leaf where
  property : String
  op : Operator
  /-- The value to bind, if the operator binds one. -/
  value : Option Value
  deriving Repr

/-- The conditions declared for a statement and the parameters they bind. -/
structure Predicates where
  opening : List Condition := []
  ands : List Condition := []
  ors : List Condition := []
  params : ParamList := {}
  /-- The place of the next condition. -/
  nextSort : Nat := 0
  /-- The number of the next condition that binds a value. -/
  nextNumber : Nat := 0
  deriving Repr

namespace Expr

/-- The terms of a chain from left to right; a term with the other connective breaks the chain. -/
def chain (link : Connective) : Expr → Except ShapeFault (List Expr)
  | .both a b =>
    if link = .conjunction then do return (← a.chain link) ++ (← b.chain link)
    else .error (.mixed (.both a b))
  | .either a b =>
    if link = .disjunction then do return (← a.chain link) ++ (← b.chain link)
    else .error (.mixed (.either a b))
  | e => .ok [e]

/-- The terms of a declared expression, and the joiner of the second and later ones. -/
def terms (joiner : Joiner) (e : Expr) : Except ShapeFault (List Expr × Joiner) :=
  match e, joiner with
  | .both _ _, .or => .error (.declaredAs .or e)
  | .both _ _, _ => do return (← e.chain .conjunction, .and)
  | .either _ _, .or => do return (← e.chain .disjunction, .or)
  | .either _ _, joiner => .error (.declaredAs joiner e)
  | e, joiner => .ok ([e], joiner)

end Expr

namespace Leaf

/-- The comparison of a property with a value. -/
def make (property : String) (op : Comparison) (value : Value) : Except Error Leaf := do
  let _ ← Ident.read property
  match value, op with
  | .null, .equal => .ok ⟨property, .isNull, none⟩
  | .null, .notEqual => .ok ⟨property, .isNotNull, none⟩
  | .null, op => .error (.unsupportedShape (.nullOrder property op))
  | value, op => .ok ⟨property, .compare op, some value⟩

/-- The comparison that a term is. -/
def ofExpr : Expr → Except Error Leaf
  | .compare (.member property) op (.constant value) => make property op value
  | .compare (.constant value) op (.member property) => make property op.swapped value
  | .compare (.member left) op (.member right) =>
    .error (.unsupportedShape (.twoProperties left op right))
  | .compare left op right => .error (.unsupportedShape (.sides left op right))
  | e => .error (.unsupportedShape (.noComparison e))

end Leaf

namespace Predicates

/-- The conditions declared with a joiner, in order. -/
def group (p : Predicates) : Joiner → List Condition
  | .opening => p.opening
  | .and => p.ands
  | .or => p.ors

/-- Add a condition at the end of the group of its joiner. -/
def append (p : Predicates) (c : Condition) : Predicates :=
  match c.joiner with
  | .opening => { p with opening := p.opening ++ [c] }
  | .and => { p with ands := p.ands ++ [c] }
  | .or => { p with ors := p.ors ++ [c] }

/-- Bind the value of a leaf, if it has one, to the next parameter. -/
def bindLeaf (p : Predicates) (leaf : Leaf) : Except Error (Predicates × Option String) :=
  match leaf.value with
  | none => .ok (p, none)
  | some value => do
    let name := Param.conditionName leaf.property p.nextNumber
    let params ← p.params.push name value
    return ({ p with params, nextNumber := p.nextNumber + 1 }, some name)

def addLeaf (p : Predicates) (joiner : Joiner) (leaf : Leaf) : Except Error Predicates := do
  let (p, param) ← p.bindLeaf leaf
  let c ← Condition.make leaf.property leaf.op param joiner p.nextSort
  return { p.append c with nextSort := p.nextSort + 1 }

/-- Declare conditions, the first with one joiner and the others with another. -/
def addLeaves (p : Predicates) (first later : Joiner) : List Leaf → Except Error Predicates
  | [] => .ok p
  | leaf :: rest => do (← p.addLeaf first leaf).addLeaves later later rest

/-- Declare an expression; also the number of conditions it became. -/
def add (p : Predicates) (joiner : Joiner) (e : Expr) : Except Error (Predicates × Nat) := do
  let (terms, later) ← (e.terms joiner).mapError Error.unsupportedShape
  let leaves ← terms.mapM Leaf.ofExpr
  return (← p.addLeaves joiner later leaves, leaves.length)

/-- All conditions in the order of declaration. -/
def ordered (p : Predicates) : List Condition :=
  Condition.sorted (p.opening ++ p.ands ++ p.ors)

def size (p : Predicates) : Nat := p.opening.length + p.ands.length + p.ors.length

/-- Render every condition with the column of its property. -/
def mapped (p : Predicates) (m : Mapping) : Predicates :=
  { p with opening := m.apply p.opening, ands := m.apply p.ands, ors := m.apply p.ors }

end Predicates

end Amend

/-
# Amend.Proofs.Veil — declarations with their values veiled

Veiling puts one and the same value in place of every value; in an expression,
which is read for `NULL`, that one stays what it is.  Declaring a veiled
expression does what declaring the expression does, with all values veiled in
the outcome (`add_veil`): whatever is decided on the way is decided without
looking at a value.

No message changes under a veil, since the text of an expression has no values
in it.
-/
import Amend.Predicates
import Mathlib.Logic.Basic

set_option autoImplicit false

namespace Amend

/-! ## Outcomes -/

section Outcomes

variable {ε ε' α α' β β' : Type}

/-- An outcome with its error and its result rewritten. -/
def recast (g : ε → ε') (f : α → α') : Except ε α → Except ε' α'
  | .ok a => .ok (f a)
  | .error e => .error (g e)

@[simp] theorem recast_ok (g : ε → ε') (f : α → α') (a : α) :
    recast g f (.ok a) = .ok (f a) := rfl

@[simp] theorem recast_error (g : ε → ε') (f : α → α') (e : ε) :
    recast g f (.error e) = .error (g e) := rfl

/-- Two computations in steps agree where their steps do. -/
theorem bind_recast {g : ε → ε'} {f : α → α'} {h : β → β'} {x : Except ε α} {x' : Except ε' α'}
    {k : α → Except ε β} {k' : α' → Except ε' β'} (first : x' = recast g f x)
    (next : ∀ a, k' (f a) = recast g h (k a)) : x' >>= k' = recast g h (x >>= k) := by
  subst first
  cases x with
  | error e => rfl
  | ok a => exact next a

/-- Computations over two lists agree where their steps do. -/
theorem mapM_recast {g : ε → ε'} {f : α → α'} {h : β → β'} {k : α → Except ε β}
    {k' : α' → Except ε' β'} (next : ∀ a, k' (f a) = recast g h (k a)) (l : List α) :
    (l.map f).mapM k' = recast g (List.map h) (l.mapM k) := by
  induction l with
  | nil => rfl
  | cons a l ih =>
      rw [List.map_cons, List.mapM_cons, List.mapM_cons]
      exact bind_recast (next a) fun b => bind_recast ih fun bs => rfl

end Outcomes

/-! ## Veils -/

/-- The value that stands in for others. -/
def Value.cover : Value := .bool true

/-- `NULL`, or the value that stands in for all others. -/
def Value.veil : Value → Value
  | .null => .null
  | _ => .cover

namespace Expr

/-- An expression with its values veiled. -/
def veil : Expr → Expr
  | .member name => .member name
  | .constant value => .constant value.veil
  | .compare left op right => .compare left.veil op right.veil
  | .both left right => .both left.veil right.veil
  | .either left right => .either left.veil right.veil
  | .negation inner => .negation inner.veil

/-- Expressions that differ in their values alone, and not in which of them are `NULL`. -/
inductive Alike : Expr → Expr → Prop where
  | member (name : String) : Alike (.member name) (.member name)
  | constant {v v' : Value} (nulls : v.isNull = v'.isNull) : Alike (.constant v) (.constant v')
  | compare {l l' r r' : Expr} (op : Comparison) (left : Alike l l') (right : Alike r r') :
    Alike (.compare l op r) (.compare l' op r')
  | both {l l' r r' : Expr} (left : Alike l l') (right : Alike r r') :
    Alike (.both l r) (.both l' r')
  | either {l l' r r' : Expr} (left : Alike l l') (right : Alike r r') :
    Alike (.either l r) (.either l' r')
  | negation {e e' : Expr} (inner : Alike e e') : Alike (.negation e) (.negation e')

end Expr

def Leaf.veil (l : Leaf) : Leaf := { l with value := l.value.map fun _ => .cover }

def Param.veil (p : Param) : Param := { p with value := .cover }

def ParamList.veil (l : ParamList) : ParamList where
  params := l.params.map Param.veil
  distinct := by simpa [Param.veil, Function.comp_def] using l.distinct

def Predicates.veil (p : Predicates) : Predicates := { p with params := p.params.veil }

/-- A fault with the values in its expressions veiled. -/
def ShapeFault.veil : ShapeFault → ShapeFault
  | .declaredAs joiner expr => .declaredAs joiner expr.veil
  | .mixed expr => .mixed expr.veil
  | .noComparison expr => .noComparison expr.veil
  | .sides left op right => .sides left.veil op right.veil
  | .twoProperties left op right => .twoProperties left op right
  | .nullOrder property op => .nullOrder property op
  | .told text => .told text

def Error.veil : Error → Error
  | .unsupportedShape fault => .unsupportedShape fault.veil
  | e => e

/-- An outcome under a veil, where `f` veils its result. -/
abbrev veiled {α β : Type} (f : α → β) : Except Error α → Except Error β := recast Error.veil f

theorem Value.veil_eq {v v' : Value} (nulls : v.isNull = v'.isNull) : v.veil = v'.veil := by
  have read : ∀ v : Value, v.veil = if v.isNull then .null else .cover := fun v => by
    cases v <;> rfl
  rw [read, read, nulls]

/-- Expressions are alike only if they are the same under a veil. -/
theorem Expr.Alike.veil_eq {e e' : Expr} (alike : e.Alike e') : e.veil = e'.veil := by
  induction alike with
  | member name => rfl
  | constant nulls => simp [Expr.veil, Value.veil_eq nulls]
  | compare op left right ihl ihr => simp [Expr.veil, ihl, ihr]
  | both left right ihl ihr => simp [Expr.veil, ihl, ihr]
  | either left right ihl ihr => simp [Expr.veil, ihl, ihr]
  | negation inner ih => simp [Expr.veil, ih]

/-! ## Messages -/

/-- The text of an expression has no values in it. -/
@[simp] theorem Expr.text_veil (e : Expr) : e.veil.text = e.text := by
  induction e with
  | member name => rfl
  | constant value => rfl
  | compare left op right ihl ihr => simp [veil, text, ihl, ihr]
  | both left right ihl ihr => simp [veil, text, ihl, ihr]
  | either left right ihl ihr => simp [veil, text, ihl, ihr]
  | negation inner ih => simp [veil, text, ih]

@[simp] theorem ShapeFault.message_veil (f : ShapeFault) : f.veil.message = f.message := by
  cases f with
  | declaredAs joiner expr => cases joiner <;> exact congrArg (_ ++ ·) expr.text_veil
  | mixed expr => exact congrArg (_ ++ ·) expr.text_veil
  | noComparison expr => exact congrArg (_ ++ ·) expr.text_veil
  | sides left op right =>
      exact congrArg₂ (fun l r => _ ++ l ++ _ ++ op.symbol ++ _ ++ r) left.text_veil right.text_veil
  | _ => rfl

/-- **No message shows a value.** -/
@[simp] theorem Error.message_veil (e : Error) : e.veil.message = e.message := by
  cases e with
  | unsupportedShape fault => exact congrArg (_ ++ ·) fault.message_veil
  | _ => rfl

/-! ## Taking expressions apart -/

theorem read_veil (written : String) : Ident.read written = veiled id (Ident.read written) := by
  unfold Ident.read
  cases Ident.parse written <;> rfl

theorem Expr.chain_veil (link : Connective) (e : Expr) :
    e.veil.chain link = recast ShapeFault.veil (List.map veil) (e.chain link) := by
  induction e with
  | both a b iha ihb =>
      simp only [veil, chain]
      split
      · refine bind_recast iha fun left => bind_recast ihb fun right => ?_
        simp [pure, Except.pure]
      · rfl
  | either a b iha ihb =>
      simp only [veil, chain]
      split
      · refine bind_recast iha fun left => bind_recast ihb fun right => ?_
        simp [pure, Except.pure]
      · rfl
  | _ => rfl

theorem Expr.terms_veil (joiner : Joiner) (e : Expr) : e.veil.terms joiner
    = recast ShapeFault.veil (Prod.map (List.map veil) id) (e.terms joiner) := by
  cases e with
  | both a b =>
      cases joiner with
      | or => rfl
      | _ => exact bind_recast (chain_veil .conjunction (.both a b)) fun terms => rfl
  | either a b =>
      cases joiner with
      | or => exact bind_recast (chain_veil .disjunction (.either a b)) fun terms => rfl
      | _ => rfl
  | _ => cases joiner <;> rfl

theorem Leaf.make_veil (property : String) (op : Comparison) (value : Value) :
    make property op value.veil = veiled Leaf.veil (make property op value) := by
  refine bind_recast (read_veil property) fun i => ?_
  cases value with
  | null => cases op <;> rfl
  | _ => rfl

theorem Leaf.ofExpr_veil (e : Expr) : ofExpr e.veil = veiled Leaf.veil (ofExpr e) := by
  cases e with
  | compare left op right =>
      cases left with
      | member property =>
          cases right with
          | constant value => exact make_veil property op value
          | _ => rfl
      | constant value =>
          cases right with
          | member property => exact make_veil property op.swapped value
          | _ => rfl
      | _ => cases right <;> rfl
  | _ => rfl

/-! ## Declaring -/

@[simp] theorem ParamList.names_veil (l : ParamList) : l.veil.names = l.names := by
  simp [veil, names, Param.veil]

/-- Whether a name is free does not depend on values, neither the old ones nor the new one. -/
theorem ParamList.push_veil (l : ParamList) (name : String) (value : Value) :
    l.veil.push name .cover = veiled ParamList.veil (l.push name value) := by
  by_cases taken : name ∈ l.names
  · rw [push_of_mem taken, push_of_mem (by rwa [names_veil])]
    rfl
  · rw [push_of_not_mem taken, push_of_not_mem (by rwa [names_veil])]
    refine congrArg Except.ok (ParamList.ext ?_)
    simp [veil, Param.veil]

namespace Predicates

theorem append_veil (p : Predicates) (c : Condition) : (p.append c).veil = p.veil.append c := by
  unfold append
  split <;> rfl

theorem bindLeaf_veil (p : Predicates) (l : Leaf) :
    p.veil.bindLeaf l.veil = veiled (Prod.map veil id) (p.bindLeaf l) := by
  obtain ⟨property, op, value⟩ := l
  cases value with
  | none => rfl
  | some v => exact bind_recast (ParamList.push_veil p.params _ v) fun params => rfl

theorem make_veil (property : String) (op : Operator) (param : Option String) (joiner : Joiner)
    (sort : Nat) : Condition.make property op param joiner sort
      = veiled id (Condition.make property op param joiner sort) := by
  unfold Condition.make
  split
  · rfl
  · split <;> rfl

theorem addLeaf_veil (p : Predicates) (joiner : Joiner) (l : Leaf) :
    p.veil.addLeaf joiner l.veil = veiled veil (p.addLeaf joiner l) := by
  refine bind_recast (bindLeaf_veil p l) fun bound => ?_
  refine bind_recast (make_veil l.property l.op bound.2 joiner bound.1.nextSort) fun c => ?_
  have grown : bound.1.veil.append c = (bound.1.append c).veil := (append_veil bound.1 c).symm
  simp only [pure, Except.pure, recast_ok, id_eq, grown]
  rfl

theorem addLeaves_veil (p : Predicates) (first later : Joiner) (ls : List Leaf) :
    p.veil.addLeaves first later (ls.map Leaf.veil) = veiled veil (p.addLeaves first later ls) := by
  induction ls generalizing p first with
  | nil => rfl
  | cons l ls ih => exact bind_recast (addLeaf_veil p first l) fun q => ih q later

/-- **An expression is declared without looking at its values**, except whether they are `NULL`. -/
theorem add_veil (p : Predicates) (joiner : Joiner) (e : Expr) :
    p.veil.add joiner e.veil = veiled (Prod.map veil id) (p.add joiner e) := by
  have split : (e.veil.terms joiner).mapError Error.unsupportedShape
      = veiled (Prod.map (List.map Expr.veil) id)
        ((e.terms joiner).mapError Error.unsupportedShape) := by
    rw [Expr.terms_veil]
    cases e.terms joiner <;> rfl
  refine bind_recast split fun parts => ?_
  refine bind_recast (mapM_recast Leaf.ofExpr_veil parts.1) fun leaves => ?_
  refine bind_recast (addLeaves_veil p joiner parts.2 leaves) fun q => ?_
  simp [pure, Except.pure]

end Predicates

end Amend

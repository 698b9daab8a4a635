/-
# Amend.Edit — declaring in place

A query is changed in place.  A declaration looks at the query, makes its checks,
and writes part after part; where a check fails it ends there, and what it has
written by then stays written.  So a declaration that is to leave no trace when
it fails has to check first and write last, or to take back what it wrote.

The conditions of an expression are staged before any of them is written: `stage`
makes them against the names that are taken already.  The parameters are added
next, one after the other, and all taken back where one of them fails; the
conditions and the two counters come last.
-/
import Amend.Query

set_option autoImplicit false

namespace Amend

/-- A change in place that may fail on the way; a failure keeps what was written before it. -/
abbrev Edit (σ α : Type) := EStateM Error σ α

namespace Edit

variable {σ τ α : Type}

/-- A check, which writes nothing. -/
def check (x : Except Error α) : Edit σ α := ofExcept x

/-- A change of a part, written back whether it fails or not. -/
def within (part : τ → σ) (replace : τ → σ → τ) (edit : Edit σ α) : Edit τ α := fun whole =>
  match edit (part whole) with
  | .ok a s => .ok a (replace whole s)
  | .error e s => .error e (replace whole s)

end Edit

namespace ParamList

/-- Add a parameter at the end, unless its name is taken. -/
def pushInPlace (p : Param) : Edit ParamList Unit := do
  set (← Edit.check ((← get).push p.name p.value))

/-- The first parameters, as many as `length`. -/
def truncate (l : ParamList) (length : Nat) : ParamList :=
  ⟨l.params.take length, l.distinct.sublist ((l.params.take_sublist length).map Param.name)⟩

end ParamList

/-- Conditions that are made but not written, each with the parameter it binds, and the counters
behind them. -/
structure Staged where
  conditions : List (Condition × Option Param) := []
  nextSort : Nat
  nextNumber : Nat
  deriving Repr

namespace Staged

def cons (c : Condition) (bound : Option Param) (s : Staged) : Staged :=
  { s with conditions := (c, bound) :: s.conditions }

/-- The parameters that staged conditions bind. -/
def params (s : Staged) : List Param := s.conditions.filterMap Prod.snd

end Staged

namespace Predicates

/-- The parameter of a leaf under the given number, unless its name is taken already. -/
def stageParam (p : Predicates) (number : Nat) (leaf : Leaf) : Except Error (Option Param) :=
  match leaf.value with
  | none => .ok none
  | some value =>
    let name := Param.conditionName leaf.property number
    if p.params.contains name then .error (.parameterCollision name) else .ok (some ⟨name, value⟩)

/-- Make the conditions of leaves from a place and a number on, the first with one joiner and the
others with another. -/
def stage (p : Predicates) (first later : Joiner) (sort number : Nat) :
    List Leaf → Except Error Staged
  | [] => .ok { nextSort := sort, nextNumber := number }
  | leaf :: rest => do
    let bound ← p.stageParam number leaf
    let c ← Condition.make leaf.property leaf.op (bound.map Param.name) first sort
    let next := if bound.isSome then number + 1 else number
    return (← p.stage later later (sort + 1) next rest).cons c bound

/-- Add parameters, or none of them where one fails. -/
def pushAllInPlace (params : List Param) : Edit Predicates Unit := do
  let before := (← get).params.params.length
  try
    params.forM fun param =>
      (ParamList.pushInPlace param).within Predicates.params fun p params => { p with params }
  catch e =>
    modify fun p => { p with params := p.params.truncate before }
    throw e

/-- Declare an expression in place; the number of conditions it became. -/
def addInPlace (joiner : Joiner) (e : Expr) : Edit Predicates Nat := do
  let (terms, later) ← Edit.check ((e.terms joiner).mapError Error.unsupportedShape)
  let leaves ← Edit.check (terms.mapM Leaf.ofExpr)
  let p ← get
  let staged ← Edit.check (p.stage joiner later p.nextSort p.nextNumber leaves)
  pushAllInPlace staged.params
  staged.conditions.forM fun (c, _) => modify fun p => p.append c
  modify fun p => { p with nextSort := staged.nextSort, nextNumber := staged.nextNumber }
  return staged.conditions.length

end Predicates

namespace Query

/-- Add all of some columns in place. -/
def addColumnsInPlace (columns : List String) : Edit Query Unit := do
  let q ← get
  let staged ← Edit.check (q.stageColumns q.columns columns)
  if onlyIdentity staged q.identity then throw .emptyColumnSet
  modify fun q => { q with columns := staged }

def setIdentityInPlace (column : String) : Edit Query Unit := do
  let q ← get
  if let some existing := q.identity then throw (.duplicateIdentity existing column)
  let _ ← Edit.check (Ident.read column)
  if onlyIdentity q.columns (some column) then throw .emptyColumnSet
  modify fun q => { q with identity := some column }

/-- Check a call and take it in, in place. -/
def applyInPlace : Call → Edit Query Unit
  | .table name => do
    let _ ← Edit.check (Ident.read name)
    modify fun q => { q with table := name }
  | .schema name => do
    let _ ← Edit.check (Ident.read name)
    modify fun q => { q with schema := some name }
  | .addColumns columns => addColumnsInPlace columns
  | .addAllColumns => do addColumnsInPlace (← get).entity.columns
  | .mapColumns mapping => do
    mapping.pairs.forM fun pair => Edit.check (checkPair pair)
    modify fun q => { q with mapping := q.mapping.merge mapping }
  | .mapColumn property column => do
    Edit.check (checkPair (property, column))
    modify fun q => { q with mapping := q.mapping.insert property column }
  | .configure config => modify fun q => { q with config }
  | .timeoutSeconds seconds =>
    modify fun q => { q with config := q.config.withTimeoutSeconds seconds }
  | .dialect dialect => modify fun q => { q with config := q.config.withDialect dialect }
  | .identity column => setIdentityInPlace column
  | .entityIdentity => do
    match (← get).entity.identity with
    | some column => setIdentityInPlace column
    | none => return ()
  | .declare joiner expr => do
    let _ ← (Predicates.addInPlace joiner expr).within Query.predicates
      fun q predicates => { q with predicates }

end Query

end Amend

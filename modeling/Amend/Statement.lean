/-
# Amend.Statement — UPDATE statements

A `Plan` is an UPDATE before it is text: the table, the assignments of the SET
list, and the clauses behind WHERE, each with its identifier and its parameter.
`Plan.assemble` makes a plan from columns, conditions and a row; `Plan.render`
writes it in a dialect, numbering the placeholders from left to right, so that
the parameters of a statement are those of its assignments followed by those of
its clauses.

The clauses stand in the order of declaration.  WHERE opens the first of them,
and every later one has the keyword it was declared with.
-/
import Amend.Config
import Amend.Entity
import Amend.Predicates

set_option autoImplicit false

namespace Amend

/-- A column and the parameter that is assigned to it. -/
structure Assignment where
  column : Ident
  param : Param
  deriving Repr

/-- A condition with its identifier and its parameter. -/
structure Clause where
  joiner : Joiner
  column : Ident
  op : Operator
  param : Option Param
  deriving Repr

/-- An UPDATE statement by its parts. -/
structure Plan where
  table : QualifiedTable
  assignments : List Assignment
  clauses : List Clause
  deriving Repr

/-- An UPDATE statement as it is sent. -/
structure Statement where
  sql : String
  /-- The parameters in the order of their placeholders. -/
  params : List Param
  /-- Without a WHERE clause every row of the table is written. -/
  hasWhere : Bool
  deriving Repr

/-- The columns of the SET list: all but the key. -/
def setColumns (columns : List String) (identity : Option String) : List String :=
  columns.filter fun c => some c ≠ identity

/-- What a statement is made from. -/
structure Source where
  table : QualifiedTable
  columns : List String
  identity : Option String
  mapping : Mapping
  /-- The conditions, with the columns they are rendered with. -/
  predicates : Predicates
  row : Row

namespace Plan

/-- The parameters named so far, and the last number behind a name. -/
structure Naming where
  params : ParamList := {}
  last : Nat := 0
  deriving Repr

/-- The assignment to a column, under a name that no parameter of the statement has. -/
def assignOne (s : Source) (n : Naming) (property : String) :
    Except Error (Assignment × Naming) := do
  let _ ← Ident.read property
  let column ← Ident.read (s.mapping.resolve property)
  let taken := n.params.names ++ s.predicates.params.names
  let (name, last) := Param.freeName taken (Param.baseName property) n.last
  match s.row property with
  | none => .error (.missingValue property)
  | some value => do
    let params ← n.params.push name value
    return (⟨column, ⟨name, value⟩⟩, ⟨params, last⟩)

def assign (s : Source) (n : Naming) : List String → Except Error (List Assignment × Naming)
  | [] => .ok ([], n)
  | property :: rest => do
    let (first, n) ← assignOne s n property
    let (others, n) ← assign s n rest
    return (first :: others, n)

/-- The clause of a condition, whose parameter is looked up by its name. -/
def clause (params : ParamList) (c : Condition) : Except Error Clause := do
  let column ← Ident.read c.column
  match c.param with
  | none => return ⟨c.joiner, column, c.op, none⟩
  | some name =>
    match params.get? name with
    | some param => return ⟨c.joiner, column, c.op, some param⟩
    | none => .error (.unbound name)

/-- The plan of an update that writes one column at least. -/
def assemble (s : Source) : Except Error Plan := do
  let columns := setColumns s.columns s.identity
  if columns.isEmpty then .error .emptyColumnSet
  else do
    let (assignments, _) ← assign s {} columns
    let clauses ← s.predicates.ordered.mapM (clause s.predicates.params)
    return ⟨s.table, assignments, clauses⟩

/-- The parameters in the order of their placeholders. -/
def params (p : Plan) : List Param :=
  p.assignments.map Assignment.param ++ p.clauses.filterMap Clause.param

/-- Assignments separated by commas; `number` placeholders stand in front of them. -/
def renderAssignments (d : Dialect) (number : Nat) : List Assignment → String
  | [] => ""
  | [a] => a.column.sql ++ " = " ++ d.placeholder (number + 1) a.param.name
  | a :: b :: rest =>
    a.column.sql ++ " = " ++ d.placeholder (number + 1) a.param.name ++ ", "
      ++ renderAssignments d (number + 1) (b :: rest)

/-- The column of a clause, its operator and its placeholder. -/
def renderTerm (d : Dialect) (number : Nat) (c : Clause) : String :=
  c.column.sql ++ " " ++ c.op.sql ++
    match c.param with
    | some param => " " ++ d.placeholder (number + 1) param.name
    | none => ""

/-- The number of placeholders after a clause. -/
def after (number : Nat) (c : Clause) : Nat :=
  if c.param.isSome then number + 1 else number

/-- Clauses with their keywords; `number` placeholders stand in front of them. -/
def renderLater (d : Dialect) (number : Nat) : List Clause → String
  | [] => ""
  | c :: rest =>
    " " ++ c.joiner.keyword ++ " " ++ renderTerm d number c ++ renderLater d (after number c) rest

/-- The WHERE clause, if there are conditions. -/
def renderClauses (d : Dialect) (number : Nat) : List Clause → String
  | [] => ""
  | c :: rest => " WHERE " ++ renderTerm d number c ++ renderLater d (after number c) rest

def render (d : Dialect) (p : Plan) : String :=
  "UPDATE " ++ p.table.sql ++ " SET " ++ renderAssignments d 0 p.assignments
    ++ renderClauses d p.assignments.length p.clauses

def statement (d : Dialect) (p : Plan) : Statement :=
  { sql := p.render d, params := p.params, hasWhere := !p.clauses.isEmpty }

end Plan

end Amend

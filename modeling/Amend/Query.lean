/-
# Amend.Query — an update under construction

A `Query` belongs to an entity and, unless it is absent, one row.  A `Call` is one
declaration on it.  `Query.apply` checks a call and takes it in; a call that fails
leaves the query as it was, so `Query.run` of a list of calls goes on after a
failure.  `Query.plan` gives the parts of the statement against a database, and
`Query.build` the statement itself.
-/
import Amend.Statement

set_option autoImplicit false

namespace Amend

/-- One UPDATE under construction. -/
structure Query where
  entity : Entity
  /-- The row to write, or nothing. -/
  row : Option Row
  table : String
  schema : Option String
  columns : List String := []
  mapping : Mapping
  identity : Option String := none
  predicates : Predicates := {}
  config : Config := {}

/-- A declaration. -/
inductive Call where
  | table (name : String)
  | schema (name : String)
  | addColumns (columns : List String)
  | addAllColumns
  /-- Columns for properties, in place of those declared before. -/
  | mapColumns (mapping : Mapping)
  | mapColumn (property column : String)
  | configure (config : Config)
  | timeoutSeconds (seconds : Nat)
  | dialect (dialect : Dialect)
  /-- Name the key, which is not written. -/
  | identity (column : String)
  | entityIdentity
  | declare (joiner : Joiner) (expr : Expr)
  deriving Repr

namespace Query

/-- A query on the table of an entity, with the columns it maps. -/
def start (entity : Entity) (row : Option Row) : Query :=
  { entity, row
    table := entity.table
    schema := entity.schema
    mapping := Mapping.ofDefaults entity.mappings }

/-- Whether there is a value for a column: the row's answer, or without a row the entity's. -/
def knows (q : Query) (column : String) : Bool :=
  match q.row with
  | some row => (row column).isSome
  | none => q.entity.columns.contains column

/-- A column that can be written: an identifier, mapped to one, with a value. -/
def checkColumn (q : Query) (column : String) : Except Error Unit := do
  let _ ← Ident.read column
  let _ ← Ident.read (q.mapping.resolve column)
  if q.knows column then .ok () else .error (.missingValue column)

/-- The columns `staged`, and behind them those that they do not hold yet. -/
def stageColumns (q : Query) (staged : List String) : List String → Except Error (List String)
  | [] => .ok staged
  | column :: rest =>
    if staged.contains column then q.stageColumns staged rest
    else do
      q.checkColumn column
      q.stageColumns (staged ++ [column]) rest

/-- Whether columns are there but none of them is written. -/
def onlyIdentity (columns : List String) (identity : Option String) : Bool :=
  !columns.isEmpty && (setColumns columns identity).isEmpty

/-- Add all of some columns, or none when one of them fails. -/
def addColumns (q : Query) (columns : List String) : Except Error Query := do
  let staged ← q.stageColumns q.columns columns
  if onlyIdentity staged q.identity then .error .emptyColumnSet
  else return { q with columns := staged }

/-- Both sides of a pair have to be identifiers. -/
def checkPair (pair : String × String) : Except Error Unit := do
  let _ ← Ident.read pair.1
  let _ ← Ident.read pair.2
  return ()

/-- Name the key, once. -/
def setIdentity (q : Query) (column : String) : Except Error Query :=
  match q.identity with
  | some existing => .error (.duplicateIdentity existing column)
  | none => do
    let _ ← Ident.read column
    if onlyIdentity q.columns (some column) then .error .emptyColumnSet
    else return { q with identity := some column }

/-- Check a call and take it in. -/
def apply (q : Query) : Call → Except Error Query
  | .table name => do
    let _ ← Ident.read name
    return { q with table := name }
  | .schema name => do
    let _ ← Ident.read name
    return { q with schema := some name }
  | .addColumns columns => q.addColumns columns
  | .addAllColumns => q.addColumns q.entity.columns
  | .mapColumns mapping => do
    mapping.pairs.forM checkPair
    return { q with mapping := q.mapping.merge mapping }
  | .mapColumn property column => do
    checkPair (property, column)
    return { q with mapping := q.mapping.insert property column }
  | .configure config => return { q with config }
  | .timeoutSeconds seconds => return { q with config := q.config.withTimeoutSeconds seconds }
  | .dialect dialect => return { q with config := q.config.withDialect dialect }
  | .identity column => q.setIdentity column
  | .entityIdentity =>
    match q.entity.identity with
    | some column => q.setIdentity column
    | none => .ok q
  | .declare joiner expr => do
    let (predicates, _) ← q.predicates.add joiner expr
    return { q with predicates }

/-- The query after a call, which is the same query when the call fails. -/
def step (q : Query) (call : Call) : Query :=
  match q.apply call with
  | .ok q => q
  | .error _ => q

def run (q : Query) (calls : List Call) : Query := calls.foldl step q

/-- The table of the statement; the schema is the dialect's where none is declared. -/
def target (q : Query) (database : String) : Except Error QualifiedTable := do
  let database ← (Ident.quoteIfNeeded database).mapError Error.ident
  let schema ← Ident.read (q.schema.getD q.config.dialect.defaultSchema)
  let table ← Ident.read q.table
  return ⟨database, schema, table⟩

/-- The plan of the statement against a database. -/
def plan (q : Query) (database : String) : Except Error Plan :=
  match q.row with
  | none => .error (.validation .noEntity)
  | some row => do
    let table ← q.target database
    Plan.assemble
      { table, row
        columns := q.columns
        identity := q.identity
        mapping := q.mapping
        predicates := q.predicates.mapped q.mapping }

def build (q : Query) (database : String) : Except Error Statement := do
  return (← q.plan database).statement q.config.dialect

end Query

end Amend

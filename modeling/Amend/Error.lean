/-
# Amend.Error — why an update is refused or fails

Each error is a cause with its data; `message` is the one place that words it.
An error is of `isConfiguration` kind when a declaration is at fault, and of
`isExecution` kind when the connection or the server is.
-/
import Amend.Duration
import Amend.Expr
import Amend.Ident
import Amend.Link.Fault

set_option autoImplicit false

namespace Amend

/-- Why a predicate expression is no list of conditions. -/
inductive ShapeFault where
  /-- Alternatives declared as something that holds, or a conjunction as an alternative. -/
  | declaredAs (joiner : Joiner) (expr : Expr)
  /-- AND and OR under one another. -/
  | mixed (expr : Expr)
  | noComparison (expr : Expr)
  | twoProperties (left : String) (op : Comparison) (right : String)
  | sides (left : Expr) (op : Comparison) (right : Expr)
  /-- A value is greater or less than `NULL`, which has no order. -/
  | nullOrder (property : String) (op : Comparison)
  /-- A fault in a caller's words. -/
  | told (text : String)
  deriving Repr

/-- Why a name or a condition is not valid. -/
inductive ValidationFault where
  | ident (fault : Ident.Fault)
  | blankProperty
  /-- A parameter is missing, or there is one where none belongs. -/
  | parameter (op : Operator) (property : String)
  | noEntity
  /-- A fault in a caller's words. -/
  | told (text : String)
  deriving DecidableEq, Repr

/-- Why a declaration, a rendering or an execution did not succeed. -/
inductive Error where
  | duplicateIdentity (existing attempted : String)
  | unsupportedShape (fault : ShapeFault)
  | emptyColumnSet
  | parameterCollision (name : String)
  | missingValue (column : String)
  | validation (fault : ValidationFault)
  | connection (fault : Link.Fault)
  | closed
  | query (fault : Link.Fault)
  | timeout (after : Duration)
  | other (text : String)
  deriving Repr

/-- The wording of a fault, which shows expressions by their text. -/
def ShapeFault.message : ShapeFault → String
  | .declaredAs .or expr => s!"AND expression declared as an OR condition: {expr.text}"
  | .declaredAs joiner expr =>
    s!"OR expression declared as a {joiner.keyword} condition: {expr.text}"
  | .mixed expr => s!"mixed AND/OR expression: {expr.text}"
  | .noComparison expr => s!"expected a property comparison, got {expr.text}"
  | .twoProperties left op right =>
    s!"comparison between two properties: {left} {op.symbol} {right}"
  | .sides left op right =>
    s!"comparison must be property vs value, got {left.text} {op.symbol} {right.text}"
  | .nullOrder property op => s!"{property} {op.symbol} NULL cannot be expressed"
  | .told text => text

def ValidationFault.message : ValidationFault → String
  | .ident fault => fault.message
  | .blankProperty => "Condition column cannot be empty"
  | .parameter op property =>
    let rule := if op.bindsValue then "requires" else "does not take"
    s!"Operator {op.sql} on '{property}' {rule} a parameter"
  | .noEntity => "no entity to read column values from"
  | .told text => text

namespace Error

/-- An identifier that does not parse. -/
def ident (fault : Ident.Fault) : Error := .validation (.ident fault)

/-- A condition names a parameter that does not exist. -/
def unbound (name : String) : Error := .other ("unbound parameter @" ++ name)

def message : Error → String
  | .duplicateIdentity existing attempted =>
    s!"Can't have more than one identity column (already '{existing}', got '{attempted}')"
  | .unsupportedShape fault => s!"Unsupported predicate shape: {fault.message}"
  | .emptyColumnSet => "No columns to update after excluding the identity column"
  | .parameterCollision name => s!"Duplicate parameter name: @{name}"
  | .missingValue column => s!"Entity has no value for column '{column}'"
  | .validation fault => s!"Validation error: {fault.message}"
  | .connection fault => s!"Connection error: {fault.message}"
  | .closed => "Connection is closed"
  | .query fault => s!"Query error: {fault.message}"
  | .timeout after => s!"Query timeout after {after.text}"
  | .other text => text

/-- The messages below an error, the outermost first. -/
def causes : Error → List String
  | .connection fault | .query fault => fault.causes
  | _ => []

/-- Whether a declaration is at fault. -/
def isConfiguration : Error → Bool
  | .duplicateIdentity _ _ | .unsupportedShape _ | .emptyColumnSet | .parameterCollision _
  | .missingValue _ | .validation _ => true
  | .connection _ | .closed | .query _ | .timeout _ | .other _ => false

/-- Whether the connection or the server is at fault. -/
def isExecution : Error → Bool
  | .connection _ | .closed | .query _ | .timeout _ => true
  | _ => false

/-- Whether a time limit passed. -/
def isTimeout : Error → Bool
  | .timeout _ => true
  | _ => false

end Error

/-- The identifier that a text writes, where a fault is an error of validation. -/
def Ident.read (written : String) : Except Error Ident :=
  (Ident.parse written).mapError Error.ident

end Amend

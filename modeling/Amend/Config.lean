/-
# Amend.Config — dialect and time limit

The dialect decides how a placeholder is written and which schema a table has
that names none.  The time limit is for the execution of the statement; without
one the execution is waited for.
-/
import Amend.Duration

set_option autoImplicit false

namespace Amend

/-- The flavour of SQL. -/
inductive Dialect where
  | postgres
  | sqlServer
  deriving DecidableEq, Repr

namespace Dialect

/-- The schema of a table that names none. -/
def defaultSchema : Dialect → String
  | .postgres => "public"
  | .sqlServer => "dbo"

/-- The placeholder of the parameter with the given number and name. -/
def placeholder (d : Dialect) (number : Nat) (name : String) : String :=
  match d with
  | .postgres => "$" ++ toString number
  | .sqlServer => "@" ++ name

end Dialect

/-- How a statement is rendered and how long it may take. -/
structure Config where
  dialect : Dialect := .postgres
  timeout : Option Duration := some (Duration.ofSeconds 600)
  deriving DecidableEq, Repr

namespace Config

/-- A time limit of any length, also zero. -/
def withTimeout (c : Config) (d : Duration) : Config := { c with timeout := some d }

def withoutTimeout (c : Config) : Config := { c with timeout := none }

/-- A time limit in whole seconds, where zero means none. -/
def withTimeoutSeconds (c : Config) (seconds : Nat) : Config :=
  { c with timeout := if 0 < seconds then some (Duration.ofSeconds seconds) else none }

def withDialect (c : Config) (d : Dialect) : Config := { c with dialect := d }

end Config

end Amend

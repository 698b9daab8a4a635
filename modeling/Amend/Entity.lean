/-
# Amend.Entity — what a kind of row declares

An entity names the table its rows are in, its properties, which of them is the
key, and the columns whose names differ from their properties.  A row answers
with the value of a property, or with nothing for a property it does not have.
-/
import Amend.Value

set_option autoImplicit false

namespace Amend

/-- The declarations of a kind of row. -/
structure Entity where
  table : String
  schema : Option String := none
  identity : Option String := none
  /-- The properties in the order of declaration. -/
  columns : List String
  /-- Pairs of a property and its column. -/
  mappings : List (String × String) := []
  deriving DecidableEq, Repr

/-- The values of a row by property. -/
abbrev Row := String → Option Value

end Amend

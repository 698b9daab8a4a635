/-
# Amend.Link.Binding — the parameters of a statement

Parameters are sent in the types that the server names for them: first their
number has to fit, then each value.  The server names a type by its number.  A
client knows the numbers of the built-in types and asks the server's catalogue
about any other, with a statement whose one parameter is the number; a server
without ranges is asked without them.
-/
import Amend.Link.Fault

set_option autoImplicit false

namespace Amend.Link

open Text (Bytes bigEndian)

/-- The parameters of a statement as they are sent, counted from `index`. -/
def bindFrom (index : Nat) : List (Value × WireType) → Except Fault (List (Option Bytes))
  | [] => .ok []
  | (value, type) :: rest =>
    match value.bind type with
    | .error mismatch => .error (.parameter index mismatch)
    | .ok sent => (bindFrom (index + 1) rest).map (sent :: ·)

def bindAll (types : List WireType) (values : List Value) :
    Except Fault (List (Option Bytes)) :=
  if types.length ≠ values.length then .error (.parameterCount types.length values.length)
  else bindFrom 0 (values.zip types)

/-! ## The catalogue of types -/

def catalogQuery : String :=
  "SELECT t.typname, t.typtype, t.typelem, r.rngsubtype, t.typbasetype, n.nspname, t.typrelid\n"
    ++ "FROM pg_catalog.pg_type t\n"
    ++ "LEFT OUTER JOIN pg_catalog.pg_range r ON r.rngtypid = t.oid\n"
    ++ "INNER JOIN pg_catalog.pg_namespace n ON t.typnamespace = n.oid\n"
    ++ "WHERE t.oid = $1\n"

/-- The statement that asks a catalogue without ranges. -/
def rangelessQuery : String :=
  "SELECT t.typname, t.typtype, t.typelem, NULL::OID, t.typbasetype, n.nspname, t.typrelid\n"
    ++ "FROM pg_catalog.pg_type t\n"
    ++ "INNER JOIN pg_catalog.pg_namespace n ON t.typnamespace = n.oid\n"
    ++ "WHERE t.oid = $1\n"

def undefinedTable : String := "42P01"

/-- The number of a type as the parameter of a statement about it. -/
def bindNumber (number : Nat) : List WireType → Except Fault (List (Option Bytes))
  | [.oid] => .ok [some (bigEndian 4 number)]
  | [type] => .error (.parameter 0 ⟨"u32", type⟩)
  | types => .error (.parameterCount types.length 1)

end Amend.Link

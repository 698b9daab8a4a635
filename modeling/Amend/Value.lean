/-
# Amend.Value — the values bound to a statement

Whatever ends up on the right-hand side of an assignment or a comparison is a
`Value`, sent beside the statement and never written into its text.  Two values
are the `same` when they compare equal, floating-point numbers as numbers.
-/
import Amend.Calendar
import Amend.Json
import Amend.Text.Bytes

set_option autoImplicit false

namespace Amend

open Text (Bytes)

/-- A universally unique identifier, as its two halves. -/
structure Uuid where
  high : UInt64
  low : UInt64
  deriving DecidableEq, Repr

/-- A scalar value, or SQL `NULL`. -/
inductive Value where
  | null
  | bool (b : Bool)
  | int16 (n : Int16)
  | int32 (n : Int32)
  | int64 (n : Int64)
  | float32 (x : Binary32)
  | float64 (x : Binary64)
  | text (s : String)
  | bytes (b : Bytes)
  | date (d : Date)
  /-- A date and time in no time zone. -/
  | timestamp (t : Timestamp)
  /-- A date and time in UTC. -/
  | instant (t : Timestamp)
  | uuid (u : Uuid)
  | json (j : Json)
  deriving Repr

namespace Uuid

/-- The sixteen bytes, the highest first. -/
def bytes (u : Uuid) : Bytes :=
  Text.bigEndian 8 u.high.toNat ++ Text.bigEndian 8 u.low.toNat

/-- Thirty-two digits in groups of 8, 4, 4, 4 and 12. -/
def text (u : Uuid) : String :=
  let digits := (Text.hex u.bytes).toList
  let group (start length : Nat) := String.ofList ((digits.drop start).take length)
  "-".intercalate [group 0 8, group 8 4, group 12 4, group 16 4, group 20 12]

/-- The identifier that `s` writes; the hyphens do not count. -/
def ofText? (s : String) : Option Uuid :=
  let digits := s.toList.filter (· ≠ '-')
  if digits.length = 32 then
    match Text.hexNat? (digits.take 16), Text.hexNat? (digits.drop 16) with
    | some high, some low => some ⟨high.toUInt64, low.toUInt64⟩
    | _, _ => none
  else none

end Uuid

namespace Value

def isNull : Value → Bool
  | .null => true
  | _ => false

/-- An optional value, where nothing is `NULL`. -/
def ofOption : Option Value → Value
  | some v => v
  | none => .null

def same : Value → Value → Bool
  | .null, .null => true
  | .bool a, .bool b => a == b
  | .int16 m, .int16 n => m == n
  | .int32 m, .int32 n => m == n
  | .int64 m, .int64 n => m == n
  | .float32 x, .float32 y => x.same y
  | .float64 x, .float64 y => x.same y
  | .text s, .text t => s == t
  | .bytes a, .bytes b => a == b
  | .date d, .date e => d == e
  | .timestamp t, .timestamp u => t == u
  | .instant t, .instant u => t == u
  | .uuid u, .uuid v => u == v
  | .json j, .json k => j.same k
  | _, _ => false

end Value

end Amend

/-
# Amend.Rehearsal.Network — a machine without a network

Of a machine without a network, each name and each address has an obstacle.  A
name may be an address in numbers, the machine's own name, or a name that nobody
is there to resolve.
-/
import Amend.Link.Greeting

set_option autoImplicit false

namespace Amend.Rehearsal

open Link (Address Obstacle)
open Text (parts)

def addressObstacle : Address → Obstacle
  | .four _ => .unroutable
  | .six [0, 0, 0, 0, 0, 0xFFFF, _, _] => .unroutable
  | .six groups =>
    let first := groups.headD 0
    if 0xFF00 ≤ first then .unroutable
    else if 0xFE80 ≤ first ∧ first < 0xFEC0 then .linkless
    else .unassigned

/-- Whether `c` may stand in a name of a host. -/
def isNameChar (c : Char) : Bool :=
  c.isAlphanum || c == '-' || c == '_'

/-- Whether `s` can be a name of a host: labels of at most 63 characters joined by dots, with one
more dot allowed at the end. -/
def isHostName (s : List Char) : Bool :=
  let s := if s.getLast? = some '.' then s.dropLast else s
  s.head? != some '-' && s.length ≤ 253
    && (parts '.' s).all fun label =>
      !label.isEmpty && label.length ≤ 63 && label.all isNameChar

def nameObstacle (name : String) : Obstacle :=
  if !Link.isSendable name then .nulInName
  else
    match (Address.ofString? name).or (Address.ofLoose? name) with
    | some address => addressObstacle address
    | none =>
      if name.toLower = "localhost" then .unroutable
      else if isHostName name.toList then .unresolved
      else .unknownName

end Amend.Rehearsal

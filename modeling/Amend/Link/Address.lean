/-
# Amend.Link.Address — numeric internet addresses

`Address.ofString?` reads an address in numbers: four decimal numbers below 256
joined by dots, without leading zeros; or up to eight groups of at most four
hexadecimal digits joined by colons, of which two colons may stand for one or
more zero groups and the last two may be written as four decimal numbers.

`Address.ofLoose?` reads the older form of the first kind: fewer numbers, of
which the last fills the bytes that are left, each also octal behind a zero or
hexadecimal behind `0x`.
-/
import Amend.Text.Bytes
import Amend.Text.Numeral
import Amend.Text.Split

set_option autoImplicit false

namespace Amend.Link

open Text (digitsValue? hexNat? hexValue? parts)

inductive Address where
  /-- Four bytes, as one number. -/
  | four (value : Nat)
  /-- Eight groups of two bytes. -/
  | six (groups : List Nat)
  deriving DecidableEq, Repr

def readOctet (s : List Char) : Option (Nat × List Char) :=
  let digits := s.takeWhile Char.isDigit
  match digitsValue? digits with
  | some n =>
    if digits.length ≤ 3 ∧ n < 256 ∧ (digits.length = 1 ∨ digits.head? ≠ some '0') then
      some (n, s.drop digits.length)
    else none
  | none => none

def readChar (c : Char) : List Char → Option (List Char)
  | d :: rest => if d = c then some rest else none
  | [] => none

/-- Four decimal numbers at the front, as one number, and what follows them. -/
def readQuad (s : List Char) : Option (Nat × List Char) := do
  let (a, s) ← readOctet s
  let (b, s) ← readOctet (← readChar '.' s)
  let (c, s) ← readOctet (← readChar '.' s)
  let (d, s) ← readOctet (← readChar '.' s)
  some (((a * 256 + b) * 256 + c) * 256 + d, s)

def readGroup (s : List Char) : Option (Nat × List Char) :=
  let digits := s.takeWhile fun c => (hexValue? c).isSome
  if 1 ≤ digits.length ∧ digits.length ≤ 4 then
    (hexNat? digits).map fun n => (n, s.drop digits.length)
  else none

/-- The groups that could be read at the front. -/
structure Groups where
  groups : List Nat
  /-- Whether the last two were written as four decimal numbers. -/
  quad : Bool
  rest : List Char

/-- At most `room` groups, behind those in `groups`; a colon stands in front of all but the
first. -/
def readGroups : Nat → List Nat → List Char → Groups
  | 0, groups, s => ⟨groups, false, s⟩
  | room + 1, groups, s =>
    let inner := if groups.isEmpty then some s else readChar ':' s
    match (if room = 0 then none else inner.bind readQuad), inner.bind readGroup with
    | some (n, rest), _ => ⟨groups ++ [n / 0x10000, n % 0x10000], true, rest⟩
    | none, some (n, rest) => readGroups room (groups ++ [n]) rest
    | none, none => ⟨groups, false, s⟩

/-- The address that eight groups write, or fewer around two colons. -/
def readSix? (s : List Char) : Option Address :=
  let head := readGroups 8 [] s
  if head.groups.length = 8 then
    if head.rest.isEmpty then some (.six head.groups) else none
  else if head.quad then none
  else
    match head.rest with
    | ':' :: ':' :: tail =>
      let tail := readGroups (7 - head.groups.length) [] tail
      let zeros := List.replicate (8 - head.groups.length - tail.groups.length) 0
      if tail.rest.isEmpty then some (.six (head.groups ++ zeros ++ tail.groups)) else none
    | _ => none

/-- The number that a loose form writes, in one of three bases. -/
def looseNumber? : List Char → Option Nat
  | '0' :: c :: digits =>
    if c = 'x' ∨ c = 'X' then if digits.isEmpty then none else hexNat? digits
    else if (c :: digits).all fun d => '0' ≤ d && d ≤ '7' then
      some ((c :: digits).foldl (fun n d => n * 8 + (d.toNat - 0x30)) 0)
    else none
  | digits => digitsValue? digits

/-- The number that `room` bytes hold where each part is one byte and the last fills the rest. -/
def joinLoose? : Nat → List Nat → Option Nat
  | _, [] => none
  | room, [last] => if last < Nat.pow 256 room then some last else none
  | room, byte :: rest =>
    if byte < 256 ∧ 1 < room then
      (joinLoose? (room - 1) rest).map (byte * Nat.pow 256 (room - 1) + ·)
    else none

namespace Address

def ofString? (s : String) : Option Address :=
  match readQuad s.toList with
  | some (n, []) => some (.four n)
  | _ => readSix? s.toList

/-- The address of four bytes that `s` writes in the loose form. -/
def ofLoose? (s : String) : Option Address :=
  (((parts '.' s.toList).mapM looseNumber?).bind (joinLoose? 4)).map .four

end Address

end Amend.Link

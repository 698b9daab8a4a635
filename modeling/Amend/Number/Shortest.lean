/-
# Amend.Number.Shortest — the fewest digits that read back

`shortest x` is the decimal `digits · 10 ^ exponent` with the fewest digits among
those that round to `x`, and among these the nearest to `x`; of two that are as
near, the one whose last digit is even.  A grid of decimals with one more digit is
tried until one of the two neighbours of `x` on it lies in the interval of reals
that round to `x`; seventeen digits always suffice.
-/
import Amend.Number.Binary

set_option autoImplicit false

namespace Amend.Binary64

/-- The reals that round to a number, in units of `num / den`, and the number itself. -/
structure Interval where
  low : Nat
  middle : Nat
  high : Nat
  num : Nat
  den : Nat
  /-- Whether the ends round to the number too. -/
  closed : Bool

/-- The interval of a finite magnitude, in quarters of its last place. -/
def interval (x : Binary64) : Interval :=
  let (m, q) := x.scaled
  let narrow := m = hidden ∧ -1074 < q
  { low := if narrow then 4 * m - 1 else 4 * m - 2
    middle := 4 * m
    high := 4 * m + 2
    num := Nat.pow 2 (q - 2).toNat
    den := Nat.pow 2 (2 - q).toNat
    closed := m % 2 == 0 }

/-- The interval in units of `10 ^ exponent`. -/
def Interval.inUnits (i : Interval) (exponent : Int) : Interval :=
  { i with num := i.num * Nat.pow 10 (-exponent).toNat, den := i.den * Nat.pow 10 exponent.toNat }

def Interval.holds (i : Interval) (n : Nat) : Bool :=
  if i.closed then i.low * i.num ≤ n * i.den && n * i.den ≤ i.high * i.num
  else i.low * i.num < n * i.den && n * i.den < i.high * i.num

/-- The neighbour of the middle that lies in the interval; of two the nearer, and in the middle
between them the even one. -/
def Interval.nearest? (i : Interval) : Option Nat :=
  let below := i.middle * i.num / i.den
  let rest := i.middle * i.num % i.den
  match i.holds below, i.holds (below + 1) with
  | true, true =>
    some (if 2 * rest < i.den ∨ 2 * rest = i.den ∧ below % 2 = 0 then below else below + 1)
  | true, false => some below
  | false, true => some (below + 1)
  | false, false => none

/-- The number of decimal digits in front of the point, zero or negative for a fraction. -/
def Interval.leading (i : Interval) : Int :=
  let guess : Int := ((Nat.toDigits 10 (i.middle * i.num)).length : Int)
    - (Nat.toDigits 10 i.den).length
  if i.den * Nat.pow 10 guess.toNat ≤ i.middle * i.num * Nat.pow 10 (-guess).toNat then guess + 1
  else guess

/-- Move the zeros at the end of `digits` into the exponent. -/
def trimZeros : Nat → Nat → Int → Nat × Int
  | 0, digits, exponent => (digits, exponent)
  | fuel + 1, digits, exponent =>
    if digits % 10 = 0 then trimZeros fuel (digits / 10) (exponent + 1) else (digits, exponent)

/-- The decimal of fewest digits that rounds to a finite nonzero magnitude. -/
def shortest (x : Binary64) : Nat × Int :=
  let i := x.interval
  let found := (List.range 17).findSome? fun n =>
    let exponent := i.leading - (n + 1 : Nat)
    (i.inUnits exponent).nearest?.map fun digits => (digits, exponent)
  let (digits, exponent) := found.getD (0, 0)
  trimZeros 17 digits exponent

end Amend.Binary64

/-
# Amend.Number.Binary — binary floating-point numbers, kept as their bits

A number of 32 or 64 bits in the IEEE 754 formats is its word, so that the sign
of zero and the payload of a NaN survive.  Two numbers are the `same` when they
compare equal: a NaN is the same as nothing, and the two zeros are the same.

`ofRatio` rounds a quotient of naturals to the nearest number of 64 bits, a tie
to the even one.  Every other operation here goes through it, in exact integer
arithmetic.
-/
set_option autoImplicit false

namespace Amend

structure Binary32 where
  bits : UInt32
  deriving DecidableEq, Repr

structure Binary64 where
  bits : UInt64
  deriving DecidableEq, Repr

namespace Binary32

/-- The bits without the sign. -/
def magnitude (x : Binary32) : Nat := x.bits.toNat % 0x80000000

def isNaN (x : Binary32) : Bool := 0x7F800000 < x.magnitude

def same (x y : Binary32) : Bool :=
  !x.isNaN && !y.isNaN && (x == y || (x.magnitude == 0 && y.magnitude == 0))

end Binary32

namespace Binary64

def magnitude (x : Binary64) : Nat := x.bits.toNat % 0x8000000000000000

/-- Whether the sign is set, also on a zero. -/
def isNegative (x : Binary64) : Bool := 0x8000000000000000 ≤ x.bits.toNat

/-- The magnitude of the infinities; every number is below it and every NaN above. -/
def infinity : Nat := 0x7FF0000000000000

def isNaN (x : Binary64) : Bool := infinity < x.magnitude

def isFinite (x : Binary64) : Bool := x.magnitude < infinity

def same (x y : Binary64) : Bool :=
  !x.isNaN && !y.isNaN && (x == y || (x.magnitude == 0 && y.magnitude == 0))

def negated (x : Binary64) : Binary64 := ⟨x.bits ^^^ 0x8000000000000000⟩

/-- The leading bit of a fraction that is not written, in units of the last one. -/
def hidden : Nat := 0x10000000000000

/-- A finite magnitude as `m · 2 ^ q`. -/
def scaled (x : Binary64) : Nat × Int :=
  let exponent : Nat := x.magnitude / hidden
  let fraction := x.magnitude % hidden
  if exponent = 0 then (fraction, -1074) else (hidden + fraction, exponent - 1075)

/-- A finite magnitude as a quotient. -/
def ratio (x : Binary64) : Nat × Nat :=
  let (m, q) := x.scaled
  (m * Nat.pow 2 q.toNat, Nat.pow 2 (-q).toNat)

/-- The quotient `num / den` to the nearest natural number, a tie to the even one. -/
def roundToEven (num den : Nat) : Nat :=
  let low := num / den
  let rest := num % den
  if 2 * rest < den then low
  else if den < 2 * rest then low + 1
  else low + low % 2

/-- The greatest `e` with `2 ^ e ≤ num / den`. -/
def floorLog2 (num den : Nat) : Int :=
  let e : Int := (num.log2 : Int) - den.log2
  if den * Nat.pow 2 e.toNat ≤ num * Nat.pow 2 (-e).toNat then e else e - 1

/-- The quotient `num / den`, rounded to the nearest number, a tie to the one with an even
fraction. -/
def ofRatio (num den : Nat) : Binary64 :=
  if num = 0 then ⟨0⟩
  else
    let q := max (floorLog2 num den - 52) (-1074)
    let m := roundToEven (num * Nat.pow 2 (-q).toNat) (den * Nat.pow 2 q.toNat)
    let magnitude := if m < hidden then m else (q + 1075).toNat * hidden + (m - hidden)
    ⟨(min magnitude infinity).toUInt64⟩

def ofNat (n : Nat) : Binary64 := ofRatio n 1

/-- The rounded product of two finite magnitudes. -/
def times (x y : Binary64) : Binary64 :=
  ofRatio (x.ratio.1 * y.ratio.1) (x.ratio.2 * y.ratio.2)

/-- The rounded quotient of two finite magnitudes. -/
def dividedBy (x y : Binary64) : Binary64 :=
  ofRatio (x.ratio.1 * y.ratio.2) (x.ratio.2 * y.ratio.1)

end Binary64

end Amend

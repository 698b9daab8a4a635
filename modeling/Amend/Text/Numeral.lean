/-
# Amend.Text.Numeral — whole numbers in decimal

A sign may stand in front of the digits, leading zeros are allowed, and a number
outside its range is refused.  A natural number takes a plus sign only.
-/
set_option autoImplicit false

namespace Amend.Text

def top32 : Nat := 0xFFFFFFFF

def top64 : Nat := 0xFFFFFFFFFFFFFFFF

/-- The magnitude of the least whole number of 64 bits with a sign. -/
def half64 : Nat := 0x8000000000000000

/-- The number that decimal digits write; there must be one at least. -/
def digitsValue? (s : List Char) : Option Nat :=
  if s.isEmpty || !s.all Char.isDigit then none
  else some (s.foldl (fun n c => n * 10 + (c.toNat - 0x30)) 0)

/-- A natural number of at most `top`. -/
def natural? (top : Nat) (s : String) : Option Nat :=
  let digits := match s.toList with
    | '+' :: rest => rest
    | cs => cs
  (digitsValue? digits).filter (· ≤ top)

/-- A whole number of 64 bits with a sign. -/
def integer? (s : String) : Option Int :=
  match s.toList with
  | '-' :: rest => ((digitsValue? rest).filter (· ≤ half64)).map fun n => -(n : Int)
  | '+' :: rest => ((digitsValue? rest).filter (· < half64)).map Int.ofNat
  | cs => ((digitsValue? cs).filter (· < half64)).map Int.ofNat

/-- The number `n` in decimal with zeros in front, `width` digits at least. -/
def padded (width n : Nat) : String :=
  let digits := Nat.toDigits 10 n
  String.ofList (List.replicate (width - digits.length) '0' ++ digits)

end Amend.Text

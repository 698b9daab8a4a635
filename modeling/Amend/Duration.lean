/-
# Amend.Duration — lengths of time

A duration is whole seconds and less than a second's worth of nanoseconds.  Its
text is in the largest unit that does not leave zero in front of the point, with
no more digits behind the point than it needs.
-/
import Amend.Text.Numeral

set_option autoImplicit false

namespace Amend

structure Duration where
  seconds : Nat
  nanos : Nat
  deriving DecidableEq, Repr

namespace Duration

def ofSeconds (seconds : Nat) : Duration := ⟨seconds, 0⟩

/-- Seconds and nanoseconds, where full seconds among the nanoseconds are carried. -/
def ofParts (seconds nanos : Nat) : Duration :=
  ⟨seconds + nanos / 1000000000, nanos % 1000000000⟩

/-- The digits of `part` in `width` places behind a point, without zeros at the end. -/
def fraction (width part : Nat) : String :=
  let digits := ((Text.padded width part).toList.reverse.dropWhile (· == '0')).reverse
  if digits.isEmpty || width = 0 then "" else "." ++ String.ofList digits

/-- Seconds, milliseconds, microseconds or nanoseconds. -/
def text (d : Duration) : String :=
  if 0 < d.seconds then toString d.seconds ++ fraction 9 d.nanos ++ "s"
  else if 1000000 ≤ d.nanos then
    toString (d.nanos / 1000000) ++ fraction 6 (d.nanos % 1000000) ++ "ms"
  else if 1000 ≤ d.nanos then
    toString (d.nanos / 1000) ++ fraction 3 (d.nanos % 1000) ++ "µs"
  else toString d.nanos ++ "ns"

/-- A time limit as it is logged. -/
def limitText : Option Duration → String
  | some d => "Some(" ++ d.text ++ ")"
  | none => "None"

end Duration

end Amend

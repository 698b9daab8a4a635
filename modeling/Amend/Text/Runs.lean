/-
# Amend.Text.Runs — sets of code points, written as runs

A character class of the Unicode standard, version 17, is kept as a list of runs
`(first, last, step)`: the code points `first, first + step, …` up to `last`.
A step of two writes the alphabets that alternate between capital and small
letters in one run.
-/
set_option autoImplicit false

namespace Amend.Text

/-- Runs `(first, last, step)` of code points. -/
abbrev Runs := List (Nat × Nat × Nat)

/-- Whether some run passes through `n`. -/
def Runs.contains (runs : Runs) (n : Nat) : Bool :=
  runs.any fun (first, last, step) => first ≤ n && n ≤ last && (n - first) % step == 0

end Amend.Text

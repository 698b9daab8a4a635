/-
# Amend.Text.Blank — white space

The characters that count as blank are those of the Unicode property
`White_Space`.  They separate the parts of a connection string, and a property
name made of them alone is no name.
-/
import Amend.Text.Runs

set_option autoImplicit false

namespace Amend.Text

/-- The blank characters beyond ASCII. -/
def blankRuns : Runs :=
  [ (0x85, 0x85, 1), (0xA0, 0xA0, 1), (0x1680, 0x1680, 1), (0x2000, 0x200A, 1),
    (0x2028, 0x2029, 1), (0x202F, 0x202F, 1), (0x205F, 0x205F, 1), (0x3000, 0x3000, 1) ]

/-- Whether `c` is white space: tab to carriage return, the blank, or one of `blankRuns`. -/
def isBlank (c : Char) : Bool :=
  (9 ≤ c.toNat && c.toNat ≤ 13) || c == ' ' || blankRuns.contains c.toNat

def allBlank (s : String) : Bool :=
  s.toList.all isBlank

end Amend.Text

/-
# Amend.Text.Split — the parts of a text between separators

`parts c s` are the texts between the characters `c` of `s`, one more than there
are separators; empty parts count.
-/
set_option autoImplicit false

namespace Amend.Text

/-- The parts of `s` between the characters `c`; `part` is the one being read. -/
def partsFrom (c : Char) (part : List Char) : List Char → List (List Char)
  | [] => [part]
  | d :: rest =>
    if d = c then part :: partsFrom c [] rest else partsFrom c (part ++ [d]) rest

def parts (c : Char) (s : List Char) : List (List Char) :=
  partsFrom c [] s

end Amend.Text

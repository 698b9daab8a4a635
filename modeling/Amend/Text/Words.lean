/-
# Amend.Text.Words — the words of a compound name

A name is cut at every character that is no letter or number, and inside what is
left at a change of case: after a small letter (numbers between them do not
matter) in front of a capital one, and in front of the last capital letter of
several when a small letter follows it.  `snake` joins the words in small
letters, `capitalSnake` in capital ones, with an underscore between two words.
-/
import Amend.Text.Casing
import Amend.Text.Letter

set_option autoImplicit false

namespace Amend.Text

/-- The case of the last cased letter since a word began. -/
inductive Case where
  | unset
  | lower
  | upper
  deriving DecidableEq, Repr

/-- The case after `c`; a character without case keeps it. -/
def Case.after (case : Case) (c : Char) : Case :=
  if isLower c then .lower else if isUpper c then .upper else case

/-- The maximal stretches of letters and numbers, in order; `current` is the one being read. -/
def segments (current : List Char) : List Char → List (List Char)
  | [] => [current]
  | c :: rest =>
    if isAlphanumeric c then segments (current ++ [c]) rest
    else current :: segments [] rest

/-- Cut one stretch at its changes of case; `current` is the word being read. -/
def humps (case : Case) (current : List Char) : List Char → List (List Char)
  | [] => if current.isEmpty then [] else [current]
  | [c] => [current ++ [c]]
  | c :: d :: rest =>
    if case.after c = .lower ∧ isUpper d then
      (current ++ [c]) :: humps .unset [] (d :: rest)
    else if case = .upper ∧ isUpper c ∧ isLower d then
      current :: humps .unset [c] (d :: rest)
    else humps (case.after c) (current ++ [c]) (d :: rest)

/-- The words of a name, in order. -/
def words (s : List Char) : List (List Char) :=
  (segments [] s).flatMap (humps .unset [])

/-- A word in small letters; a capital sigma that ends it takes its final form. -/
def smallWord : List Char → List Char
  | [] => []
  | ['Σ'] => ['ς']
  | c :: rest => lowered c ++ smallWord rest

def capitalWord (word : List Char) : List Char :=
  word.flatMap raised

/-- The words of a name in small letters, joined by underscores. -/
def snake (s : String) : String :=
  String.ofList (['_'].intercalate ((words s.toList).map smallWord))

/-- The words of a name in capital letters, joined by underscores. -/
def capitalSnake (s : String) : String :=
  String.ofList (['_'].intercalate ((words s.toList).map capitalWord))

end Amend.Text

/-
# Amend.Param — named parameters

A parameter is a name with the value bound to it.  A `ParamList` keeps parameters
in the order they were added and holds no name twice.

A parameter's name is made from the property it belongs to, reduced to letters,
digits and underscores (`baseName`): a condition's name carries the number of
the bound condition, an assignment's a number only where the bare name is taken.
-/
import Amend.Error

set_option autoImplicit false

namespace Amend

/-- A name and the value bound to it. -/
structure Param where
  name : String
  value : Value
  deriving Repr

/-- Parameters in order. -/
@[ext]
structure ParamList where
  params : List Param
  /-- Each name stands once. -/
  distinct : (params.map Param.name).Nodup
  deriving Repr

namespace ParamList

instance : EmptyCollection ParamList := ⟨⟨[], List.nodup_nil⟩⟩

def names (l : ParamList) : List String := l.params.map Param.name

/-- Whether a name is taken. -/
def contains (l : ParamList) (name : String) : Bool := l.names.contains name

theorem contains_iff {l : ParamList} {name : String} : l.contains name ↔ name ∈ l.names :=
  List.contains_iff_mem

def get? (l : ParamList) (name : String) : Option Param :=
  l.params.find? fun p => p.name == name

/-- Add a parameter at the end, whose name is free. -/
def add (l : ParamList) (p : Param) (free : p.name ∉ l.names) : ParamList where
  params := l.params ++ [p]
  distinct := by
    rw [List.map_append]
    exact List.nodup_append.2 ⟨l.distinct, by simp, by grind [names]⟩

/-- Add a parameter at the end, unless its name is taken. -/
def push (l : ParamList) (name : String) (value : Value) : Except Error ParamList :=
  if taken : l.contains name then .error (.parameterCollision name)
  else .ok (l.add ⟨name, value⟩ (mt contains_iff.2 taken))

section Push

variable {l l' : ParamList} {name : String} {value : Value}

@[simp] theorem params_add (l : ParamList) (p : Param) (free : p.name ∉ l.names) :
    (l.add p free).params = l.params ++ [p] := rfl

theorem push_of_mem (taken : name ∈ l.names) :
    l.push name value = .error (.parameterCollision name) :=
  dif_pos (contains_iff.2 taken)

theorem push_of_not_mem (free : name ∉ l.names) (value : Value) :
    l.push name value = .ok (l.add ⟨name, value⟩ free) :=
  dif_neg (mt contains_iff.1 free)

/-- A parameter is added if and only if its name is free, and then at the end. -/
theorem push_eq_ok_iff :
    l.push name value = .ok l' ↔ ∃ free : name ∉ l.names, l' = l.add ⟨name, value⟩ free := by
  by_cases taken : name ∈ l.names
  · simp [push_of_mem taken, taken]
  · simp [push_of_not_mem taken value, taken, eq_comm]

end Push

end ParamList

namespace Param

/-- Whether a parameter's name may hold `c`. -/
def isNameChar (c : Char) : Bool := c == '_' || c.isAlphanum

/-- Each other character as an underscore, and one in front of a digit at the start. -/
def reduce (s : List Char) : List Char :=
  let reduced := s.map fun c => if isNameChar c then c else '_'
  match reduced with
  | c :: _ => if c.isDigit then '_' :: reduced else reduced
  | [] => []

/-- The name that a property gives to its parameters. -/
def baseName (property : String) : String :=
  let name := match Ident.parse property with
    | .ok ident => ident.name
    | .error _ => property
  String.ofList (reduce name.toList)

/-- The name of the parameter of the bound condition with the given number. -/
def conditionName (property : String) (number : Nat) : String :=
  baseName property ++ "_cond" ++ toString number

/-- A name with a number behind it. -/
def numbered (base : String) (number : Nat) : String :=
  base ++ "_" ++ toString number

/-- The name `base`, or if that is taken, `base` with the first number after `last` that makes it
free; and the last number that was used.  There are more candidates than names taken. -/
def freeName (taken : List String) (base : String) (last : Nat) : String × Nat :=
  if taken.contains base then
    let numbers := List.range' (last + 1) (taken.length + 1)
    let number := (numbers.find? fun n => !taken.contains (numbered base n)).getD last
    (numbered base number, number)
  else (base, last)

end Param

end Amend

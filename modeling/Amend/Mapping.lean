/-
# Amend.Mapping — from properties to columns

A mapping gives some properties a column of another name; every other property
is its own column.  It has one column a property.  Resolution is a single step:
the column of a property is never looked up again.
-/
import Amend.Condition

set_option autoImplicit false

namespace Amend

/-- Pairs of a property and its column.  Their order is any: the columns do not depend on it, and of
several faulty pairs it decides which one a check meets first. -/
@[ext]
structure Mapping where
  pairs : List (String × String)
  /-- Each property stands once. -/
  distinct : (pairs.map Prod.fst).Nodup
  deriving DecidableEq, Repr

namespace Mapping

instance : EmptyCollection Mapping := ⟨⟨[], List.nodup_nil⟩⟩

/-- The column given for a property. -/
def column? (m : Mapping) (property : String) : Option String := m.pairs.lookup property

/-- The column of a property, which is the property itself where none is given. -/
def resolve (m : Mapping) (property : String) : String := (m.column? property).getD property

/-- Give the property of a pair another column, or add the pair at the end. -/
def put (property column : String) : List (String × String) → List (String × String)
  | [] => [(property, column)]
  | (p, c) :: rest =>
    if p = property then (p, column) :: rest else (p, c) :: put property column rest

theorem map_fst_put (property column : String) (pairs : List (String × String)) :
    (put property column pairs).map Prod.fst
      = if property ∈ pairs.map Prod.fst then pairs.map Prod.fst
        else pairs.map Prod.fst ++ [property] := by
  induction pairs with
  | nil => simp [put]
  | cons pair rest ih =>
      obtain ⟨p, c⟩ := pair
      by_cases here : p = property
      · simp [put, here]
      · rw [put, if_neg here, List.map_cons, ih, List.map_cons]
        split <;> simp [*, Ne.symm here]

theorem nodup_put {pairs : List (String × String)} (distinct : (pairs.map Prod.fst).Nodup)
    (property column : String) : ((put property column pairs).map Prod.fst).Nodup := by
  rw [map_fst_put]
  split
  · exact distinct
  · rename_i fresh
    exact List.nodup_append.2 ⟨distinct, by simp, by grind⟩

/-- Give a property a column, in place of the one it had. -/
def insert (m : Mapping) (property column : String) : Mapping :=
  ⟨put property column m.pairs, nodup_put m.distinct property column⟩

/-- Give a property a column unless it has one. -/
def insertDefault (m : Mapping) (property column : String) : Mapping :=
  if (m.column? property).isSome then m else m.insert property column

/-- The mapping of a list of pairs, where the last pair of a property counts. -/
def ofPairs (pairs : List (String × String)) : Mapping :=
  pairs.foldl (fun m (p, c) => m.insert p c) {}

/-- The mapping of a list of pairs, where the first pair of a property counts. -/
def ofDefaults (pairs : List (String × String)) : Mapping :=
  pairs.foldl (fun m (p, c) => m.insertDefault p c) {}

/-- Take every pair of `other`, in place of those for the same properties. -/
def merge (m other : Mapping) : Mapping :=
  other.pairs.foldl (fun m (p, c) => m.insert p c) m

/-- The number of properties that are given a column. -/
def size (m : Mapping) : Nat := m.pairs.length

/-- Whether two mappings give the same properties the same columns. -/
def same (m other : Mapping) : Bool :=
  m.size == other.size && m.pairs.all fun (p, c) => other.column? p == some c

/-- Putting a pair changes the look-up of its property alone. -/
theorem lookup_put (property column q : String) (pairs : List (String × String)) :
    (put property column pairs).lookup q =
      if q = property then some column else pairs.lookup q := by
  induction pairs with
  | nil =>
    by_cases h : q = property <;> simp_all [put, List.lookup_cons, beq_eq_false_iff_ne.2]
  | cons head rest ih =>
    obtain ⟨p, c⟩ := head
    by_cases hp : p = property <;> by_cases h : q = property <;>
      simp_all [put, List.lookup_cons, beq_eq_false_iff_ne.2, eq_comm]

/-- An inserted column is found for its property, and no other property is touched. -/
theorem column?_insert (m : Mapping) (property column q : String) :
    (m.insert property column).column? q = if q = property then some column else m.column? q :=
  lookup_put property column q m.pairs

/-- A default is found only where no column was. -/
theorem column?_insertDefault (m : Mapping) (property column q : String) :
    (m.insertDefault property column).column? q =
      if q = property then some ((m.column? property).getD column) else m.column? q := by
  unfold insertDefault
  cases h : m.column? property with
  | none => simp [column?_insert]
  | some c => by_cases hq : q = property <;> simp [h, hq]

/-- Put a pair in front of the first one whose property is greater. -/
def insertSorted (pair : String × String) : List (String × String) → List (String × String)
  | [] => [pair]
  | other :: rest =>
    if pair.1 ≤ other.1 then pair :: other :: rest else other :: insertSorted pair rest

/-- The pairs in the order of their properties by code point. -/
def sortedPairs (m : Mapping) : List (String × String) := m.pairs.foldr insertSorted []

/-- Render each condition with the column of its property. -/
def apply (m : Mapping) (cs : List Condition) : List Condition :=
  cs.map fun c => { c with column := m.resolve c.property }

/-- A mapping starts from the properties, so that what was applied before does not matter. -/
theorem apply_apply (m n : Mapping) (cs : List Condition) : n.apply (m.apply cs) = n.apply cs := by
  simp [apply, Function.comp_def]

end Mapping

end Amend

/-
# Amend.Proofs.Layers — mappings laid over one another

A condition keeps the property it was declared on beside its column, and a mapping
looks up the property.  So of mappings that are applied one after the other the
last one counts alone, whatever chains and cycles there are in them
(`apply_apply`), and nothing but the columns is touched.

To merge a mapping into another is to lay it over it: the upper one answers where
it can, and the lower one otherwise.  Pairs keep the places they had when they
came in, so that the order in which three mappings are merged makes no difference
to the list of pairs either (`merge_assoc`).  That needs each property once in the
middle one, where two pairs for a property would change places as to which counts.
-/
import Amend.Proofs.Renaming

set_option autoImplicit false

namespace Amend

/-! ## Conditions -/

namespace Condition

/-- Conditions that differ in their columns at most. -/
structure SameButColumn (c d : Condition) : Prop where
  property : c.property = d.property
  op : c.op = d.op
  param : c.param = d.param
  joiner : c.joiner = d.joiner
  sort : c.sort = d.sort

end Condition

namespace Mapping

/-- A mapping touches the columns of conditions alone, one by one. -/
theorem sameButColumn_apply (m : Mapping) (cs : List Condition) :
    List.Forall₂ Condition.SameButColumn cs (m.apply cs) := by
  rw [apply, List.forall₂_map_right_iff, List.forall₂_same]
  intro c _
  exact ⟨rfl, rfl, rfl, rfl, rfl⟩

/-! ## Pairs -/

section Pairs

variable {pairs : List (String × String)} {p q : String}

/-- Of two columns put for a property the later one counts, in the place of the earlier. -/
theorem put_put (p c d : String) (pairs : List (String × String)) :
    put p d (put p c pairs) = put p d pairs := by
  induction pairs with
  | nil => simp [put]
  | cons pair rest ih =>
      obtain ⟨q, e⟩ := pair
      by_cases here : q = p
      · simp [put, here]
      · simp [put, here, ih]

/-- A property that is there keeps its place, so that it does not matter when it is put again. -/
theorem put_comm (there : p ∈ pairs.map Prod.fst) (other : p ≠ q) (c d : String) :
    put p c (put q d pairs) = put q d (put p c pairs) := by
  induction pairs with
  | nil => cases there
  | cons pair rest ih =>
      obtain ⟨r, e⟩ := pair
      by_cases first : r = p
      · subst first
        simp [put, other]
      · have later : p ∈ rest.map Prod.fst := by simpa [Ne.symm first] using there
        by_cases second : r = q
        · subst second
          simp [put, first]
        · simp [put, first, second, ih later]

/-- A property that is not there is put behind the others. -/
theorem put_of_not_mem (absent : p ∉ pairs.map Prod.fst) (c : String) :
    put p c pairs = pairs ++ [(p, c)] := by
  induction pairs with
  | nil => rfl
  | cons pair rest ih =>
      obtain ⟨q, d⟩ := pair
      simp only [List.map_cons, List.mem_cons, not_or] at absent
      rw [put, if_neg (Ne.symm absent.1), ih absent.2, List.cons_append]

end Pairs

/-! ## Lists of pairs -/

/-- Pairs after other pairs were put over them. -/
def putAll (lower upper : List (String × String)) : List (String × String) :=
  upper.foldl (fun pairs (p, c) => put p c pairs) lower

section PutAll

variable {lower upper pairs : List (String × String)} {p : String}

theorem putAll_cons (lower : List (String × String)) (p c : String)
    (rest : List (String × String)) :
    putAll lower ((p, c) :: rest) = putAll (put p c lower) rest := rfl

theorem mem_put (p c : String) (pairs : List (String × String)) :
    p ∈ (put p c pairs).map Prod.fst := by
  rw [map_fst_put]
  split
  · assumption
  · simp

/-- A property that is there can be given its column before others are put or after them. -/
theorem put_putAll (there : p ∈ lower.map Prod.fst) (absent : p ∉ upper.map Prod.fst)
    (c : String) : put p c (putAll lower upper) = putAll (put p c lower) upper := by
  induction upper generalizing lower with
  | nil => rfl
  | cons pair rest ih =>
      obtain ⟨q, d⟩ := pair
      simp only [List.map_cons, List.mem_cons, not_or] at absent
      have still : p ∈ (put q d lower).map Prod.fst := by
        rw [map_fst_put]
        split
        · exact there
        · exact List.mem_append_left _ there
      rw [putAll_cons, putAll_cons, ih still absent.2, put_comm there absent.1]

/-- What is given a column in the upper pairs is given it in the whole. -/
theorem putAll_put (lower : List (String × String)) (distinct : (pairs.map Prod.fst).Nodup)
    (p c : String) : putAll lower (put p c pairs) = put p c (putAll lower pairs) := by
  induction pairs generalizing lower with
  | nil => rfl
  | cons pair rest ih =>
      obtain ⟨q, d⟩ := pair
      obtain ⟨fresh, later⟩ := List.nodup_cons.1 distinct
      by_cases here : q = p
      · subst here
        -- The pair is replaced where it stands, in front of the others.
        rw [put, if_pos rfl, putAll_cons, putAll_cons, put_putAll (mem_put q d lower) fresh,
          put_put]
      · rw [put, if_neg here, putAll_cons, putAll_cons]
        exact ih (put q d lower) later

theorem putAll_assoc (lower : List (String × String)) (distinct : (pairs.map Prod.fst).Nodup)
    (upper : List (String × String)) :
    putAll (putAll lower pairs) upper = putAll lower (putAll pairs upper) := by
  induction upper generalizing pairs with
  | nil => rfl
  | cons pair rest ih =>
      obtain ⟨p, c⟩ := pair
      rw [putAll_cons, putAll_cons, ← putAll_put lower distinct]
      exact ih (nodup_put distinct p c)

/-- To put properties that are not there is to put their pairs behind the others. -/
theorem putAll_of_apart (distinct : (upper.map Prod.fst).Nodup)
    (apart : ∀ p ∈ upper.map Prod.fst, p ∉ lower.map Prod.fst) :
    putAll lower upper = lower ++ upper := by
  induction upper generalizing lower with
  | nil => exact lower.append_nil.symm
  | cons pair rest ih =>
      obtain ⟨p, c⟩ := pair
      obtain ⟨fresh, later⟩ := List.nodup_cons.1 distinct
      have appended : put p c lower = lower ++ [(p, c)] := put_of_not_mem (apart p (by simp)) c
      have still : ∀ q ∈ rest.map Prod.fst, q ∉ (lower ++ [(p, c)]).map Prod.fst := by
        intro q member
        have other : q ≠ p := fun same => fresh (same ▸ member)
        have outside := apart q (List.mem_cons_of_mem p member)
        rw [List.map_append, List.mem_append, not_or]
        exact ⟨outside, by simpa using other⟩
      rw [putAll_cons, appended, ih later still, List.append_assoc, List.singleton_append]

end PutAll

/-! ## Merging -/

theorem pairs_merge (m other : Mapping) : (m.merge other).pairs = putAll m.pairs other.pairs := by
  unfold merge putAll
  generalize other.pairs = pairs
  induction pairs generalizing m with
  | nil => rfl
  | cons pair rest ih => exact ih (m.insert pair.1 pair.2)

/-- **Three mappings can be merged in either order.** -/
theorem merge_assoc (l m n : Mapping) : (l.merge m).merge n = l.merge (m.merge n) := by
  ext1
  simp only [pairs_merge]
  exact putAll_assoc l.pairs m.distinct n.pairs

theorem merge_empty (m : Mapping) : m.merge {} = m := rfl

theorem empty_merge (m : Mapping) : ({} : Mapping).merge m = m := by
  ext1
  rw [pairs_merge]
  exact putAll_of_apart m.distinct fun _ _ => List.not_mem_nil

/-- The upper mapping answers where it can, and the lower one otherwise. -/
theorem resolve_merge (m n : Mapping) (property : String) :
    (m.merge n).resolve property
      = if (n.column? property).isSome then n.resolve property else m.resolve property := by
  rw [resolve, column?_merge, n.lookup_reverse, resolve, resolve]
  cases n.column? property <;> rfl

/-! ## Layers -/

/-- **Of mappings that are applied one after the other the last one counts, and of mappings that are
merged the upper one where it can.**  Conditions may have been mapped before: a mapping gives each
the column of its property and leaves the rest of it, so that it does nothing when it is applied
again.  Mappings that are merged look a property up from the upper one down, in whichever order they
are merged, and the empty mapping is no layer. -/
theorem last_mapping_counts :
    (∀ (m n : Mapping) (cs : List Condition), n.apply (m.apply cs) = n.apply cs
        ∧ n.apply (n.apply cs) = n.apply cs
        ∧ List.Forall₂ Condition.SameButColumn cs (n.apply cs)
        ∧ (n.apply cs).map Condition.column = cs.map fun c => n.resolve c.property)
      ∧ (∀ (m n : Mapping) (property : String), (m.merge n).resolve property
        = if (n.column? property).isSome then n.resolve property else m.resolve property)
      ∧ (∀ l m n : Mapping, (l.merge m).merge n = l.merge (m.merge n))
      ∧ ∀ m : Mapping, m.merge {} = m ∧ ({} : Mapping).merge m = m := by
  refine ⟨?_, resolve_merge, merge_assoc, fun m => ⟨merge_empty m, empty_merge m⟩⟩
  intro m n cs
  refine ⟨apply_apply m n cs, apply_apply n n cs, sameButColumn_apply n cs, ?_⟩
  rw [apply, List.map_map]
  rfl

/-- Two properties that have each other's names for columns. -/
def cycle : Mapping := .ofPairs [("Name", "Left"), ("Left", "Name")]

/-- Conditions on both, of which one has another column already. -/
def crossed : List Condition :=
  [ ⟨"Name", "Name", .isNull, none, .opening, 0⟩,
    ⟨"Left", "Name", .compare .equal, some "Left_cond0", .or, 1⟩ ]

theorem cycle_counts_last :
    (cycle.apply (Query.chain.apply crossed)).map Condition.column = ["Left", "Name"]
      ∧ cycle.apply (cycle.apply crossed) = cycle.apply crossed
      ∧ (cycle.merge Query.chain).resolve "Left" = "gone"
      ∧ (cycle.merge Query.chain).merge cycle = cycle.merge (Query.chain.merge cycle)
      ∧ ({} : Mapping).merge cycle = cycle := by
  obtain ⟨applied, resolved, merged, empty⟩ := last_mapping_counts
  obtain ⟨absorbed, -, -, columns⟩ := applied Query.chain cycle crossed
  obtain ⟨-, again, -⟩ := applied cycle cycle crossed
  refine ⟨?_, again, ?_, merged cycle _ cycle, (empty cycle).2⟩
  · rw [absorbed, columns]
    decide
  · rw [resolved cycle Query.chain]
    decide

end Mapping

end Amend

/-
# Amend.Proofs.Order — the groups put together again

Conditions lie in three groups and are numbered over all of them.  Sorting them
by their places gives back the order in which they were declared
(`ordered_ofDeclared`), whatever group each one lies in; giving them other
columns first does not change the order (`ordered_mapped`).
-/
import Amend.Proofs.Declared

set_option autoImplicit false

namespace Amend

/-! ## Places -/

theorem sort_of_mem_conditionsFrom {sort number : Nat} {ds : List Declared} {c : Condition}
    (member : c ∈ conditionsFrom sort number ds) : sort ≤ c.sort := by
  induction ds generalizing sort number with
  | nil => cases member
  | cons d ds ih =>
      rcases List.mem_cons.1 member with rfl | member
      · exact Nat.le_refl sort
      · have := ih member
        omega

/-- Places rise from each condition to the next. -/
theorem pairwise_conditionsFrom (sort number : Nat) (ds : List Declared) :
    (conditionsFrom sort number ds).Pairwise fun a b => a.sort < b.sort := by
  induction ds generalizing sort number with
  | nil => exact .nil
  | cons d ds ih =>
      refine List.pairwise_cons.2 ⟨fun c member => ?_, ih _ _⟩
      have low := sort_of_mem_conditionsFrom member
      show sort < c.sort
      omega

/-! ## Sorting -/

/-- Every condition lies in one group. -/
theorem perm_groups (cs : List Condition) :
    (cs.filter (·.joiner = .opening) ++ cs.filter (·.joiner = .and)
      ++ cs.filter (·.joiner = .or)).Perm cs := by
  induction cs with
  | nil => exact .refl _
  | cons c cs ih =>
      cases h : c.joiner with
      | opening =>
          have rest := ih.cons c
          simpa [h] using rest
      | and =>
          refine .trans ?_ (ih.cons c)
          simp [h]
      | or =>
          refine .trans ?_ (ih.cons c)
          have middle : ∀ as bs : List Condition, (as ++ c :: bs).Perm (c :: (as ++ bs)) :=
            fun _ _ => List.perm_middle
          simpa [h] using middle (cs.filter (·.joiner = .opening) ++ cs.filter (·.joiner = .and)) _

/-- Where places rise, a place has one condition. -/
theorem eq_of_sort_eq {cs : List Condition} (rising : cs.Pairwise fun a b => a.sort < b.sort)
    {a b : Condition} (ha : a ∈ cs) (hb : b ∈ cs) (same : a.sort = b.sort) : a = b := by
  induction cs with
  | nil => cases ha
  | cons c cs ih =>
      obtain ⟨above, rest⟩ := List.pairwise_cons.1 rising
      rcases List.mem_cons.1 ha with atHead | ha <;> rcases List.mem_cons.1 hb with atHead' | hb
      · rw [atHead, atHead']
      · have := above b hb
        subst atHead
        omega
      · have := above a ha
        subst atHead'
        omega
      · exact ih rest ha hb

/-- Conditions at different places can be sorted in one way only. -/
theorem sorted_of_perm {cs ds : List Condition} (perm : cs.Perm ds)
    (rising : ds.Pairwise fun a b => a.sort < b.sort) : Condition.sorted cs = ds := by
  have arranged := (Condition.perm_sorted cs).trans perm
  refine List.Perm.eq_of_pairwise ?_ (Condition.pairwise_sorted cs)
    (rising.imp Nat.le_of_lt) arranged
  intro a b ha hb le ge
  exact eq_of_sort_eq rising (arranged.mem_iff.1 ha) hb (Nat.le_antisymm le ge)

/-- **The conditions are in the order of their declarations.** -/
theorem ordered_ofDeclared (ds : List Declared) :
    (Predicates.ofDeclared ds).ordered = conditionsFrom 0 0 ds :=
  sorted_of_perm (perm_groups _) (pairwise_conditionsFrom 0 0 ds)

/-! ## Other columns -/

theorem insert_map {f : Condition → Condition} (keeps : ∀ c, (f c).sort = c.sort)
    (c : Condition) (cs : List Condition) :
    Condition.insert (f c) (cs.map f) = (Condition.insert c cs).map f := by
  induction cs with
  | nil => rfl
  | cons d ds ih =>
      simp only [List.map_cons, Condition.insert, keeps]
      split
      · rfl
      · rw [ih, List.map_cons]

theorem sorted_map {f : Condition → Condition} (keeps : ∀ c, (f c).sort = c.sort)
    (cs : List Condition) :
    Condition.sorted (cs.map f) = (Condition.sorted cs).map f := by
  induction cs with
  | nil => rfl
  | cons c cs ih =>
      have tail : (cs.map f).foldr Condition.insert [] = (Condition.sorted cs).map f := ih
      simp only [Condition.sorted, List.map_cons, List.foldr_cons, tail]
      exact insert_map keeps c _

/-- Giving conditions their columns keeps their order. -/
theorem ordered_mapped (p : Predicates) (m : Mapping) :
    (p.mapped m).ordered = m.apply p.ordered := by
  have joined : (p.mapped m).opening ++ (p.mapped m).ands ++ (p.mapped m).ors
      = m.apply (p.opening ++ p.ands ++ p.ors) := by
    simp [Predicates.mapped, Mapping.apply]
  unfold Predicates.ordered
  rw [joined]
  exact sorted_map (f := fun c => { c with column := m.resolve c.property }) (fun _ => rfl) _

end Amend

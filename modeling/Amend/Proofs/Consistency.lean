/-
# Amend.Proofs.Consistency — three groups, one list of parameters, two counters

Predicates are kept in parts: conditions in a group for each joiner, numbered over
all groups, beside one list of parameters that the conditions name, and a counter
for each of the two.  `Consistent` says how the parts fit together, and how they
stand to what was declared.

The predicates of any list of declared conditions fit (`consistent_ofDeclared`).
A call in place leaves predicates of this form, whether it is accepted or refused
(`left_addInPlace`), so the predicates fit after any sequence of calls
(`calls_leave_consistent`).
-/
import Amend.Proofs.Assembly
import Amend.Proofs.NoTrace

set_option autoImplicit false

namespace Amend

namespace Predicates

def all (p : Predicates) : List Condition := p.opening ++ p.ands ++ p.ors

/-- A condition is one that was declared, and the parameter that it names holds its value. -/
structure Keeps (p : Predicates) (d : Declared) (c : Condition) : Prop where
  property : c.property = d.leaf.property
  column : c.column = d.leaf.property
  op : c.op = d.leaf.op
  joiner : c.joiner = d.joiner
  value : (c.param.bind p.params.get?).map Param.value = d.leaf.value

/-- The parts of predicates fit together, and hold what was declared. -/
structure Consistent (p : Predicates) (declared : List Declared) : Prop where
  /-- Over the three groups each place below their size is taken once. -/
  places : (p.all.map Condition.sort).Perm (List.range p.size)
  rising : ∀ j, (p.group j).Pairwise fun a b => a.sort < b.sort
  grouped : ∀ j, ∀ c ∈ p.group j, c.joiner = j
  distinct : p.params.names.Nodup
  bound : ∀ c ∈ p.all, c.op.bindsValue = true → ∃ name ∈ p.params.names, c.param = some name
  unbound : ∀ c ∈ p.all, c.op.bindsValue = false → c.param = none
  /-- A parameter is that of one condition. -/
  named : ∀ name ∈ p.params.names, p.all.countP (fun c => c.param = some name) = 1
  /-- The conditions are in the order in which they were declared. -/
  kept : List.Forall₂ p.Keeps declared p.ordered
  /-- The parameters are in the order of their conditions. -/
  inOrder : p.params.names = p.ordered.filterMap Condition.param
  nextSort : p.nextSort = p.size
  nextNumber : p.nextNumber = p.params.params.length

/-- The predicates that calls in place leave. -/
def afterInPlace (calls : List (Joiner × Expr)) : Predicates :=
  calls.foldl (fun p call => Edit.left ((addInPlace call.1 call.2).run p)) {}

end Predicates

/-! ## Conditions in the order of declaration -/

theorem map_sort_conditionsFrom (sort number : Nat) (ds : List Declared) :
    (conditionsFrom sort number ds).map Condition.sort = List.range' sort ds.length := by
  induction ds generalizing sort number with
  | nil => rfl
  | cons d ds ih => simp [conditionsFrom, ih, Declared.condition, List.range'_succ]

theorem length_conditionsFrom (sort number : Nat) (ds : List Declared) :
    (conditionsFrom sort number ds).length = ds.length := by
  simpa using congrArg List.length (map_sort_conditionsFrom sort number ds)

/-- Parameters are those that the conditions name. -/
theorem names_paramsFrom (sort number : Nat) (ds : List Declared) :
    (paramsFrom number ds).map Param.name
      = (conditionsFrom sort number ds).filterMap Condition.param := by
  induction ds generalizing sort number with
  | nil => rfl
  | cons d ds ih =>
      have tail := ih (sort + 1) (number + d.weight)
      cases value : d.leaf.value <;>
        simp [paramsFrom, conditionsFrom, Declared.condition, value, tail]

theorem length_paramsFrom (number : Nat) (ds : List Declared) :
    (paramsFrom number ds).length = weight ds := by
  induction ds generalizing number with
  | nil => rfl
  | cons d ds ih =>
      cases value : d.leaf.value <;>
        simp [paramsFrom, weight, Declared.weight, value, ih, Nat.add_comm]

/-- A condition has a parameter just where its operator binds a value. -/
theorem isSome_param_of_mem {sort number : Nat} {ds : List Declared} {c : Condition}
    (formed : ∀ d ∈ ds, d.leaf.WellFormed) (member : c ∈ conditionsFrom sort number ds) :
    c.param.isSome = c.op.bindsValue := by
  induction ds generalizing sort number with
  | nil => cases member
  | cons d ds ih =>
      rcases List.mem_cons.1 member with rfl | member
      · simp [Declared.condition, (formed d (by simp)).2]
      · exact ih (fun e later => formed e (by simp [later])) member

/-- A name that finds its parameter finds the value that was declared. -/
theorem keeps_conditionsFrom {p : Predicates} {sort number : Nat} {ds : List Declared}
    (found : ∀ param ∈ paramsFrom number ds, p.params.get? param.name = some param) :
    List.Forall₂ p.Keeps ds (conditionsFrom sort number ds) := by
  induction ds generalizing sort number with
  | nil => exact .nil
  | cons d ds ih =>
      refine .cons ⟨rfl, rfl, rfl, rfl, ?_⟩ (ih fun param later => found param ?_)
      · cases value : d.leaf.value with
        | none => simp [Declared.condition, value]
        | some v =>
            have here := found ⟨Param.conditionName d.leaf.property number, v⟩
              (by simp [paramsFrom, value])
            simpa [Declared.condition, value] using ⟨_, here, rfl⟩
      · simp [paramsFrom, later]

/-! ## The closed form -/

theorem group_ofDeclared (ds : List Declared) (j : Joiner) :
    (Predicates.ofDeclared ds).group j = (conditionsFrom 0 0 ds).filter (·.joiner = j) := by
  cases j <;> rfl

theorem perm_all_ofDeclared (ds : List Declared) :
    (Predicates.ofDeclared ds).all.Perm (conditionsFrom 0 0 ds) :=
  perm_groups _

theorem size_ofDeclared (ds : List Declared) : (Predicates.ofDeclared ds).size = ds.length := by
  have length := (perm_all_ofDeclared ds).length_eq
  rw [length_conditionsFrom] at length
  simpa [Predicates.all, Predicates.size, Nat.add_assoc] using length

/-- **The predicates of declared conditions fit together.** -/
theorem consistent_ofDeclared {ds : List Declared} (formed : ∀ d ∈ ds, d.leaf.WellFormed) :
    (Predicates.ofDeclared ds).Consistent ds := by
  have permuted := perm_all_ofDeclared ds
  have distinct : (Predicates.ofDeclared ds).params.names.Nodup :=
    (Predicates.ofDeclared ds).params.distinct
  have names : (Predicates.ofDeclared ds).params.names
      = (conditionsFrom 0 0 ds).filterMap Condition.param := names_paramsFrom 0 0 ds
  have binds : ∀ c ∈ (Predicates.ofDeclared ds).all, c.param.isSome = c.op.bindsValue :=
    fun c member => isSome_param_of_mem formed (permuted.mem_iff.1 member)
  exact {
    places := by
      rw [size_ofDeclared, List.range_eq_range', ← map_sort_conditionsFrom 0 0 ds]
      exact permuted.map _
    rising := fun j => by
      rw [group_ofDeclared]
      exact (pairwise_conditionsFrom 0 0 ds).filter _
    grouped := fun j c member => by
      rw [group_ofDeclared] at member
      simpa using (List.mem_filter.1 member).2
    distinct := distinct
    bound := fun c member operator => by
      obtain ⟨name, param⟩ := Option.isSome_iff_exists.1 ((binds c member).trans operator)
      refine ⟨name, ?_, param⟩
      rw [names]
      exact List.mem_filterMap.2 ⟨c, permuted.mem_iff.1 member, param⟩
    unbound := fun c member operator => by
      simpa using (binds c member).trans operator
    named := fun name member => by
      have once := distinct.count.trans (if_pos member)
      rw [names, List.count_filterMap] at once
      rw [permuted.countP_eq, ← once]
      exact List.countP_congr fun c _ => by simp
    kept := by
      rw [ordered_ofDeclared]
      exact keeps_conditionsFrom fun param member => get?_of_mem member
    inOrder := by rw [ordered_ofDeclared, names]
    nextSort := (size_ofDeclared ds).symm
    nextNumber := (length_paramsFrom 0 ds).symm }

/-! ## Any calls -/

/-- A call in place leaves what `declare` gives, whether it is accepted or refused. -/
theorem left_addInPlace (p : Predicates) (call : Joiner × Expr) :
    Edit.left ((Predicates.addInPlace call.1 call.2).run p) = p.declare call := by
  rw [Predicates.run_addInPlace]
  unfold Predicates.declare
  cases p.add call.1 call.2 <;> rfl

theorem afterInPlace_eq (calls : List (Joiner × Expr)) :
    Predicates.afterInPlace calls = Predicates.after calls := by
  have same : (fun (p : Predicates) (call : Joiner × Expr) =>
      Edit.left ((Predicates.addInPlace call.1 call.2).run p)) = Predicates.declare :=
    funext fun p => funext fun call => left_addInPlace p call
  unfold Predicates.afterInPlace Predicates.after
  rw [same]

/-- **Predicates fit together after any calls**, with any joiners and expressions and whether the
calls are accepted or refused; and they hold what the accepted ones declare, in that order. -/
theorem calls_leave_consistent (calls : List (Joiner × Expr)) :
    (Predicates.afterInPlace calls).Consistent (conditionsOf calls) := by
  rw [afterInPlace_eq, Predicates.after_eq]
  exact consistent_ofDeclared fun d => wellFormed_of_accepted

end Amend

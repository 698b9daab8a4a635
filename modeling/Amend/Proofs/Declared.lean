/-
# Amend.Proofs.Declared — the conditions of a statement, in closed form

`Predicates.ofDeclared` gives the predicates of a list of declared conditions at
once: places count the conditions, numbers count the bound values, and each
condition lies in the group of its joiner.

Declaring one more condition extends the list at its end (`addLeaf_ofDeclared`),
so an accepted expression extends it by what it declares, and whatever calls came before, the
predicates are those of the accepted ones (`after_eq`).  All that later proofs
say of predicates they say of this form: names are never taken twice, a
condition finds its own parameter, and `ordered` puts the groups together in
the order of declaration.
-/
import Amend.Proofs.Chain
import Amend.Proofs.Naming

set_option autoImplicit false

namespace Amend

/-! ## Conditions and parameters -/

/-- A declared condition at a place, with the number that its parameter would have. -/
def Declared.condition (d : Declared) (sort number : Nat) : Condition :=
  { property := d.leaf.property
    column := d.leaf.property
    op := d.leaf.op
    param := d.leaf.value.map fun _ => Param.conditionName d.leaf.property number
    joiner := d.joiner
    sort }

/-- How many values a condition binds: one or none. -/
def Declared.weight (d : Declared) : Nat := if d.leaf.value.isSome then 1 else 0

/-- The number of values that conditions bind. -/
def weight : List Declared → Nat
  | [] => 0
  | d :: ds => d.weight + weight ds

/-- Conditions from a place and a number on. -/
def conditionsFrom (sort number : Nat) : List Declared → List Condition
  | [] => []
  | d :: ds => d.condition sort number :: conditionsFrom (sort + 1) (number + d.weight) ds

/-- Parameters from a number on. -/
def paramsFrom (number : Nat) : List Declared → List Param
  | [] => []
  | d :: ds =>
    (d.leaf.value.map fun value => ⟨Param.conditionName d.leaf.property number, value⟩).toList
      ++ paramsFrom (number + d.weight) ds

@[simp] theorem weight_append (ds es : List Declared) :
    weight (ds ++ es) = weight ds + weight es := by
  induction ds with
  | nil => simp [weight]
  | cons d ds ih => simp [weight, ih, Nat.add_assoc]

theorem conditionsFrom_append (sort number : Nat) (ds es : List Declared) :
    conditionsFrom sort number (ds ++ es) = conditionsFrom sort number ds
      ++ conditionsFrom (sort + ds.length) (number + weight ds) es := by
  induction ds generalizing sort number with
  | nil => simp [conditionsFrom, weight]
  | cons d ds ih =>
      simp [conditionsFrom, ih, weight, Nat.add_assoc, Nat.add_comm 1]

theorem paramsFrom_append (number : Nat) (ds es : List Declared) :
    paramsFrom number (ds ++ es) = paramsFrom number ds
      ++ paramsFrom (number + weight ds) es := by
  induction ds generalizing number with
  | nil => simp [paramsFrom, weight]
  | cons d ds ih => simp [paramsFrom, ih, weight, Nat.add_assoc]

/-! ## Names of parameters -/

/-- The name of a parameter is that of a condition, with one of the numbers given out. -/
theorem name_of_mem_paramsFrom {number : Nat} {ds : List Declared} {p : Param}
    (member : p ∈ paramsFrom number ds) :
    ∃ d ∈ ds, ∃ k, p.name = Param.conditionName d.leaf.property k ∧ number ≤ k
      ∧ k < number + weight ds := by
  induction ds generalizing number with
  | nil => cases member
  | cons d ds ih =>
      rcases List.mem_append.1 member with here | later
      · obtain ⟨value, bound, rfl⟩ := Option.map_eq_some_iff.1 (Option.mem_toList.1 here)
        have one : d.weight = 1 := by simp [Declared.weight, bound]
        refine ⟨d, by simp, number, rfl, Nat.le_refl _, ?_⟩
        simp only [weight, one]
        omega
      · obtain ⟨e, there, k, name, low, high⟩ := ih later
        refine ⟨e, by simp [there], k, name, by omega, ?_⟩
        simp only [weight] at high ⊢
        omega

/-- A number that was not given out makes a free name. -/
theorem conditionName_not_mem (property : String) (ds : List Declared) {k : Nat}
    (fresh : weight ds ≤ k) :
    Param.conditionName property k ∉ (paramsFrom 0 ds).map Param.name := by
  intro member
  obtain ⟨p, hp, same⟩ := List.mem_map.1 member
  obtain ⟨d, -, j, name, -, high⟩ := name_of_mem_paramsFrom hp
  rw [name] at same
  have := Param.conditionName_inj same
  omega

theorem nodup_paramsFrom (number : Nat) (ds : List Declared) :
    ((paramsFrom number ds).map Param.name).Nodup := by
  induction ds generalizing number with
  | nil => exact .nil
  | cons d ds ih =>
      cases bound : d.leaf.value with
      | none => simpa [paramsFrom, bound] using ih (number + d.weight)
      | some value =>
          have one : d.weight = 1 := by simp [Declared.weight, bound]
          have fresh : Param.conditionName d.leaf.property number ∉
              (paramsFrom (number + d.weight) ds).map Param.name := by
            intro member
            obtain ⟨p, hp, same⟩ := List.mem_map.1 member
            obtain ⟨e, -, k, name, low, -⟩ := name_of_mem_paramsFrom hp
            rw [name] at same
            have := Param.conditionName_inj same
            omega
          simpa [paramsFrom, bound] using List.nodup_cons.2 ⟨fresh, ih _⟩

/-! ## The closed form -/

/-- The parameters that declared conditions bind. -/
def ParamList.ofDeclared (ds : List Declared) : ParamList :=
  ⟨paramsFrom 0 ds, nodup_paramsFrom 0 ds⟩

@[simp] theorem ParamList.params_ofDeclared (ds : List Declared) :
    (ofDeclared ds).params = paramsFrom 0 ds := rfl

def Predicates.ofDeclared (ds : List Declared) : Predicates :=
  let conditions := conditionsFrom 0 0 ds
  { opening := conditions.filter (·.joiner = .opening)
    ands := conditions.filter (·.joiner = .and)
    ors := conditions.filter (·.joiner = .or)
    params := .ofDeclared ds
    nextSort := ds.length
    nextNumber := weight ds }

/-- The predicates after one call, which are the same when the call fails. -/
def Predicates.declare (p : Predicates) (call : Joiner × Expr) : Predicates :=
  match p.add call.1 call.2 with
  | .ok (p, _) => p
  | .error _ => p

def Predicates.after (calls : List (Joiner × Expr)) : Predicates := calls.foldl declare {}

/-- The calls that do not fail. -/
def Predicates.accepted (p : Predicates) : List (Joiner × Expr) → List (Joiner × Expr)
  | [] => []
  | call :: rest =>
    match p.add call.1 call.2 with
    | .ok (p, _) => call :: p.accepted rest
    | .error _ => p.accepted rest

/-- What a list of accepted calls declares. -/
def declaredBy (calls : List (Joiner × Expr)) : List Declared :=
  calls.flatMap fun call => call.2.declares call.1

/-! ## Declaring -/

/-- The next number makes a free name, so that a value can be bound. -/
theorem push_ofDeclared {ds : List Declared} {d : Declared} {value : Value}
    (bound : d.leaf.value = some value) :
    (ParamList.ofDeclared ds).push (Param.conditionName d.leaf.property (weight ds)) value
      = .ok (.ofDeclared (ds ++ [d])) := by
  have free : Param.conditionName d.leaf.property (weight ds) ∉ (ParamList.ofDeclared ds).names :=
    conditionName_not_mem d.leaf.property ds (Nat.le_refl _)
  refine ParamList.push_eq_ok_iff.2 ⟨free, ParamList.ext ?_⟩
  simp [paramsFrom_append, paramsFrom, bound]

theorem bindLeaf_ofDeclared (ds : List Declared) (d : Declared) :
    (Predicates.ofDeclared ds).bindLeaf d.leaf = .ok
      ({ Predicates.ofDeclared ds with
          params := .ofDeclared (ds ++ [d])
          nextNumber := weight (ds ++ [d]) },
        d.leaf.value.map fun _ => Param.conditionName d.leaf.property (weight ds)) := by
  unfold Predicates.bindLeaf
  cases bound : d.leaf.value with
  | none =>
      have params : ParamList.ofDeclared (ds ++ [d]) = .ofDeclared ds := by
        ext1
        simp [paramsFrom_append, paramsFrom, bound]
      have number : weight (ds ++ [d]) = weight ds := by simp [weight, Declared.weight, bound]
      rw [params, number]
      rfl
  | some value =>
      have number : weight (ds ++ [d]) = weight ds + 1 := by simp [weight, Declared.weight, bound]
      rw [number]
      exact bind_eq_ok.2 ⟨_, push_ofDeclared bound, rfl⟩

theorem make_condition (d : Declared) (formed : d.leaf.WellFormed) (sort number : Nat) :
    Condition.make d.leaf.property d.leaf.op
        (d.leaf.value.map fun _ => Param.conditionName d.leaf.property number) d.joiner sort
      = .ok (d.condition sort number) := by
  obtain ⟨⟨i, parsed⟩, binds⟩ := formed
  unfold Condition.make
  rw [Ident.allBlank_of_parse parsed]
  simp [binds, Declared.condition]

/-- A condition goes to the end of one group; to the others nothing is added. -/
theorem append_eq (p : Predicates) (c : Condition) :
    p.append c = { p with
      opening := p.opening ++ [c].filter (·.joiner = .opening)
      ands := p.ands ++ [c].filter (·.joiner = .and)
      ors := p.ors ++ [c].filter (·.joiner = .or) } := by
  unfold Predicates.append
  cases h : c.joiner <;> simp [h]

theorem ofDeclared_append (ds : List Declared) (d : Declared) :
    Predicates.ofDeclared (ds ++ [d]) =
      { (Predicates.ofDeclared ds).append (d.condition ds.length (weight ds)) with
        params := .ofDeclared (ds ++ [d])
        nextSort := ds.length + 1
        nextNumber := weight (ds ++ [d]) } := by
  have conditions : conditionsFrom 0 0 (ds ++ [d])
      = conditionsFrom 0 0 ds ++ [d.condition ds.length (weight ds)] := by
    simp [conditionsFrom_append, conditionsFrom]
  rw [append_eq]
  unfold Predicates.ofDeclared
  rw [conditions]
  simp only [List.filter_append, List.length_append, List.length_singleton]

/-- **One more condition goes to the end of the list.** -/
theorem addLeaf_ofDeclared (ds : List Declared) (d : Declared) (formed : d.leaf.WellFormed) :
    (Predicates.ofDeclared ds).addLeaf d.joiner d.leaf
      = .ok (Predicates.ofDeclared (ds ++ [d])) := by
  have made := make_condition d formed ds.length (weight ds)
  unfold Predicates.addLeaf
  rw [bindLeaf_ofDeclared, ofDeclared_append]
  refine bind_eq_ok.2 ⟨_, rfl, bind_eq_ok.2 ⟨_, made, ?_⟩⟩
  rw [append_eq, append_eq]
  rfl

/-- Conditions with their keywords go to the end of the list. -/
theorem addLeaves_ofDeclared (ds : List Declared) (first later : Joiner) {leaves : List Leaf}
    (formed : ∀ l ∈ leaves, l.WellFormed) :
    (Predicates.ofDeclared ds).addLeaves first later leaves
      = .ok (Predicates.ofDeclared (ds ++ tag first later leaves)) := by
  induction leaves generalizing ds first with
  | nil => simp [Predicates.addLeaves, tag]
  | cons leaf rest ih =>
      have head := addLeaf_ofDeclared ds ⟨first, leaf⟩ (formed leaf (by simp))
      have tail := ih (ds ++ [⟨first, leaf⟩]) later fun l member => formed l (by simp [member])
      simp only [List.append_assoc, List.singleton_append] at tail
      exact bind_eq_ok.2 ⟨_, head, tail⟩

/-- **Adding an expression adds what taking it apart yields**, and fails just when that does. -/
theorem add_ofDeclared (ds : List Declared) (joiner : Joiner) (e : Expr) :
    (Predicates.ofDeclared ds).add joiner e
      = (e.taken joiner).map fun es => (Predicates.ofDeclared (ds ++ es), es.length) := by
  unfold Predicates.add Expr.taken
  cases split : (e.terms joiner).mapError Error.unsupportedShape with
  | error err => rfl
  | ok parts =>
      obtain ⟨terms, later⟩ := parts
      cases taken : terms.mapM Leaf.ofExpr with
      | error err => simp [bind, Except.bind, Except.map, taken]
      | ok leaves =>
          have formed := (leaves_eq_ok (mapM_eq_ok.1 taken)).2
          have added := addLeaves_ofDeclared ds joiner later formed
          simp [bind, Except.bind, pure, Except.pure, Except.map, taken, added, length_tag]

/-! ## Any sequence of calls -/

/-- An accepted call adds what its expression declares. -/
theorem add_eq_ok {ds : List Declared} {joiner : Joiner} {e : Expr} {p : Predicates} {n : Nat}
    (added : (Predicates.ofDeclared ds).add joiner e = .ok (p, n)) :
    p = Predicates.ofDeclared (ds ++ e.declares joiner)
      ∧ e.declares joiner ≠ [] ∧ ∀ d ∈ e.declares joiner, d.leaf.WellFormed := by
  rw [add_ofDeclared] at added
  cases taken : e.taken joiner with
  | error err => rw [taken] at added; cases added
  | ok es =>
      obtain ⟨rfl, nonempty, formed⟩ := Expr.taken_eq_ok taken
      rw [taken] at added
      cases added
      exact ⟨rfl, nonempty, formed⟩

theorem foldl_declare (ds : List Declared) (calls : List (Joiner × Expr)) :
    calls.foldl Predicates.declare (Predicates.ofDeclared ds) = Predicates.ofDeclared
        (ds ++ declaredBy ((Predicates.ofDeclared ds).accepted calls))
      ∧ ∀ d ∈ declaredBy ((Predicates.ofDeclared ds).accepted calls), d.leaf.WellFormed := by
  induction calls generalizing ds with
  | nil => simp [Predicates.accepted, declaredBy]
  | cons call rest ih =>
      cases added : (Predicates.ofDeclared ds).add call.1 call.2 with
      | error err => simpa [Predicates.declare, Predicates.accepted, added] using ih ds
      | ok result =>
          obtain ⟨p, n⟩ := result
          obtain ⟨rfl, -, formed⟩ := add_eq_ok added
          obtain ⟨state, restFormed⟩ := ih (ds ++ call.2.declares call.1)
          refine ⟨?_, fun d member => ?_⟩
          · simpa [Predicates.declare, Predicates.accepted, added, declaredBy] using state
          · simp only [Predicates.accepted, added, declaredBy, List.flatMap_cons,
              List.mem_append] at member
            rcases member with here | later
            · exact formed d here
            · exact restFormed d later

/-- **After any calls the predicates are those of the accepted ones**, in the order of the calls. -/
theorem Predicates.after_eq (calls : List (Joiner × Expr)) :
    Predicates.after calls
      = Predicates.ofDeclared (declaredBy (({} : Predicates).accepted calls)) :=
  (foldl_declare [] calls).1

/-- A call that is accepted can be taken apart. -/
theorem taken_of_accepted (ds : List Declared) {calls : List (Joiner × Expr)}
    {call : Joiner × Expr} (member : call ∈ (Predicates.ofDeclared ds).accepted calls) :
    ∃ es, call.2.taken call.1 = .ok es := by
  induction calls generalizing ds with
  | nil => cases member
  | cons first rest ih =>
      cases added : (Predicates.ofDeclared ds).add first.1 first.2 with
      | error e =>
          simp only [Predicates.accepted, added] at member
          exact ih ds member
      | ok result =>
          obtain ⟨p, n⟩ := result
          simp only [Predicates.accepted, added] at member
          rcases List.mem_cons.1 member with rfl | later
          · rw [add_ofDeclared] at added
            cases taken : call.2.taken call.1 with
            | error e => rw [taken] at added; cases added
            | ok es => exact ⟨es, rfl⟩
          · obtain ⟨rfl, -, -⟩ := add_eq_ok added
            exact ih _ later

/-- A call that is accepted declares a condition at least. -/
theorem declares_ne_nil_of_accepted (ds : List Declared) {calls : List (Joiner × Expr)}
    {call : Joiner × Expr} (member : call ∈ (Predicates.ofDeclared ds).accepted calls) :
    call.2.declares call.1 ≠ [] := by
  obtain ⟨es, taken⟩ := taken_of_accepted ds member
  obtain ⟨rfl, nonempty, -⟩ := Expr.taken_eq_ok taken
  exact nonempty

/-- Every condition of accepted calls is on an identifier. -/
theorem wellFormed_of_accepted {calls : List (Joiner × Expr)} {d : Declared}
    (member : d ∈ declaredBy (({} : Predicates).accepted calls)) : d.leaf.WellFormed :=
  (foldl_declare [] calls).2 d member

end Amend

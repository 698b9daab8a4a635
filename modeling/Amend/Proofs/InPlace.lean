/-
# Amend.Proofs.InPlace — declarations are made in full or not at all

A declaration in place writes while it checks, so a failure could leave a trace of
it.  None does: `addInPlace` and `applyInPlace` end in the state that `add` and
`apply` return, or where these fail, with the same error in the state they
started from (`run_addInPlace`, `run_applyInPlace`).

Staging looks for taken names before anything is written.  It is the same as to
look for them leaf by leaf, since the names that are staged carry other numbers
(`addLeaves_eq`).  Parameters that were added are taken back where one of them
fails, because they all stand behind the old ones (`run_pushAllInPlace`).
-/
import Amend.Edit
import Amend.Proofs.Declared

set_option autoImplicit false

namespace Amend

/-! ## Changes made in full or not at all -/

namespace Edit

variable {σ τ α β : Type}

/-- What has come of a change that is made in full or not at all, in the state it started from. -/
def settle (s : σ) : Except Error (α × σ) → EStateM.Result Error σ α
  | .ok (a, s') => .ok a s'
  | .error e => .error e s

@[simp] theorem run_check (x : Except Error α) (s : σ) :
    (check x).run s = match x with
      | .ok a => .ok a s
      | .error e => .error e s := by
  cases x <;> rfl

@[simp] theorem run_within (part : τ → σ) (replace : τ → σ → τ) (edit : Edit σ α) (whole : τ) :
    (edit.within part replace).run whole = match edit.run (part whole) with
      | .ok a s => .ok a (replace whole s)
      | .error e s => .error e (replace whole s) := rfl

@[simp] theorem run_tryCatch (edit : Edit σ α) (handle : Error → Edit σ α) (s : σ) :
    (tryCatch edit handle).run s = match edit.run s with
      | .ok a s' => .ok a s'
      | .error e s' => (handle e).run s' := by
  show EStateM.tryCatch edit handle s = _
  unfold EStateM.tryCatch EStateM.run
  cases edit s <;> rfl

/-- A check in front of a change leaves no trace either. -/
theorem run_check_bind {x : Except Error α} {edit : α → Edit σ β} {s : σ}
    {f : α → Except Error (β × σ)} (rest : ∀ a, (edit a).run s = settle s (f a)) :
    (check x >>= edit).run s = settle s (x >>= f) := by
  cases x with
  | error e => rfl
  | ok a => exact rest a

/-- A change of a part leaves no trace of it in the whole. -/
theorem run_within_settle {part : τ → σ} {replace : τ → σ → τ} {edit : Edit σ α} {whole : τ}
    {f : Except Error (α × σ)} (same : replace whole (part whole) = whole)
    (settled : edit.run (part whole) = settle (part whole) f) :
    (edit.within part replace).run whole
      = settle whole (f.map fun r => (r.1, replace whole r.2)) := by
  rw [run_within, settled]
  cases f with
  | error e => simp only [settle, Except.map, same]
  | ok r => rfl

end Edit

/-! ## Parameters -/

def ParamList.pushAll (l : ParamList) : List Param → Except Error ParamList
  | [] => .ok l
  | p :: ps => do (← l.push p.name p.value).pushAll ps

theorem ParamList.pushAll_cons {l next : ParamList} {p : Param}
    (pushed : l.push p.name p.value = .ok next) (ps : List Param) :
    l.pushAll (p :: ps) = next.pushAll ps := by
  simp [pushAll, pushed, bind, Except.bind]

theorem ParamList.pushAll_append (l : ParamList) (ps qs : List Param) :
    l.pushAll (ps ++ qs) = (l.pushAll ps >>= fun l => l.pushAll qs) := by
  induction ps generalizing l with
  | nil => rfl
  | cons p ps ih =>
      simp only [List.cons_append, pushAll, bind, Except.bind]
      cases l.push p.name p.value with
      | error e => rfl
      | ok next => exact ih next

namespace Predicates

/-- Add parameters one after the other in place; a failure keeps those that were added. -/
abbrev pushEach (params : List Param) : Edit Predicates Unit :=
  params.forM fun param =>
    (ParamList.pushInPlace param).within Predicates.params fun p params => { p with params }

theorem run_pushEach_cons (p : Predicates) (param : Param) (params : List Param) :
    (pushEach (param :: params)).run p = match p.params.push param.name param.value with
      | .ok l => (pushEach params).run { p with params := l }
      | .error e => .error e p := by
  simp only [pushEach, List.forM_eq_forM, List.forM_cons, EStateM.run_bind, Edit.run_within,
    ParamList.pushInPlace, EStateM.run_get, Edit.run_check]
  cases p.params.push param.name param.value <;> rfl

/-- What was added before a failure stands behind the old parameters. -/
theorem run_pushEach (p : Predicates) (params : List Param) :
    (∃ l, p.params.pushAll params = .ok l
        ∧ (pushEach params).run p = .ok () { p with params := l })
      ∨ ∃ e l added, p.params.pushAll params = .error e
        ∧ l.params = p.params.params ++ added
        ∧ (pushEach params).run p
          = .error e { p with params := l } := by
  induction params generalizing p with
  | nil => exact .inl ⟨p.params, rfl, rfl⟩
  | cons param params ih =>
      rw [run_pushEach_cons]
      cases pushed : p.params.push param.name param.value with
      | error e =>
          refine .inr ⟨e, p.params, [], ?_, by simp, rfl⟩
          simp [ParamList.pushAll, pushed, bind, Except.bind]
      | ok l =>
          rw [ParamList.pushAll_cons pushed]
          rcases ih { p with params := l } with
            ⟨l', whole, ran⟩ | ⟨e, l', added, failed, behind, ran⟩
          · exact .inl ⟨l', whole, ran⟩
          · obtain ⟨free, rfl⟩ := ParamList.push_eq_ok_iff.1 pushed
            exact .inr ⟨e, l', param :: added, failed, by simpa using behind, ran⟩

/-- **Parameters are all added, or those that were added are taken back.** -/
theorem run_pushAllInPlace (p : Predicates) (params : List Param) :
    (pushAllInPlace params).run p
      = Edit.settle p ((p.params.pushAll params).map fun l => ((), { p with params := l })) := by
  simp only [pushAllInPlace, EStateM.run_bind, EStateM.run_get, Edit.run_tryCatch]
  rcases run_pushEach p params with ⟨l, whole, ran⟩ | ⟨e, l, added, failed, behind, ran⟩
  · rw [ran, whole]
    rfl
  · have taken : l.truncate p.params.params.length = p.params := by
      ext1
      simp [ParamList.truncate, behind]
    rw [ran, failed]
    simp [Edit.settle, Except.map, taken]

/-! ## Staged conditions -/

/-- Write what is staged: the parameters, the conditions and the counters. -/
def write (p : Predicates) (s : Staged) : Except Error Predicates := do
  let params ← p.params.pushAll s.params
  return { s.conditions.foldl (fun p c => p.append c.1) { p with params } with
    nextSort := s.nextSort, nextNumber := s.nextNumber }

/-- What is staged depends on the names with its own numbers alone. -/
theorem stage_congr {p p' : Predicates} {number : Nat}
    (free : ∀ property k, number ≤ k → p.params.contains (Param.conditionName property k)
      = p'.params.contains (Param.conditionName property k))
    (first later : Joiner) (sort : Nat) (leaves : List Leaf) :
    p.stage first later sort number leaves = p'.stage first later sort number leaves := by
  induction leaves generalizing first sort number with
  | nil => rfl
  | cons leaf rest ih =>
      have param : p.stageParam number leaf = p'.stageParam number leaf := by
        simp only [stageParam, free leaf.property number (Nat.le_refl _)]
      have tail : ∀ next, number ≤ next →
          p.stage later later (sort + 1) next rest = p'.stage later later (sort + 1) next rest :=
        fun next above => ih (fun property k le => free property k (Nat.le_trans above le)) _ _
      simp only [stage, param]
      refine bind_congr fun bound => bind_congr fun c => ?_
      rw [tail]
      split <;> omega

theorem foldl_append (p : Predicates) (cs : List (Condition × Option Param)) :
    cs.foldl (fun p c => p.append c.1) p = { p with
      opening := p.opening ++ (cs.map Prod.fst).filter (·.joiner = .opening)
      ands := p.ands ++ (cs.map Prod.fst).filter (·.joiner = .and)
      ors := p.ors ++ (cs.map Prod.fst).filter (·.joiner = .or) } := by
  induction cs generalizing p with
  | nil => simp
  | cons c cs ih =>
      rw [List.foldl_cons, ih, append_eq]
      simp only [List.map_cons, List.append_assoc, ← List.filter_append, List.singleton_append]

/-- The predicates after one condition that was staged, with the parameters that there are then. -/
def afterOne (p : Predicates) (c : Condition) (bound : Option Param) (params : ParamList) :
    Predicates :=
  { p.append c with
    params
    nextSort := p.nextSort + 1
    nextNumber := if bound.isSome then p.nextNumber + 1 else p.nextNumber }

/-- The name of a staged parameter is free, and has the number that is next. -/
theorem stageParam_eq_ok {p : Predicates} {number : Nat} {leaf : Leaf} {bound : Option Param}
    (staged : p.stageParam number leaf = .ok bound) :
    ∀ param ∈ bound, param.name ∉ p.params.names
      ∧ param.name = Param.conditionName leaf.property number := by
  unfold stageParam at staged
  cases value : leaf.value with
  | none =>
      rw [value] at staged
      cases staged
      simp
  | some v =>
      simp only [value] at staged
      split at staged
      · cases staged
      · rename_i free
        cases staged
        simpa [ParamList.contains] using free

theorem pushAll_staged {p : Predicates} {number : Nat} {leaf : Leaf} {bound : Option Param}
    (staged : p.stageParam number leaf = .ok bound) :
    ∃ params, p.params.pushAll bound.toList = .ok params
      ∧ params.params = p.params.params ++ bound.toList := by
  cases bound with
  | none => exact ⟨p.params, rfl, by simp⟩
  | some param =>
      have free := (stageParam_eq_ok staged param rfl).1
      exact ⟨_, ParamList.pushAll_cons (ParamList.push_of_not_mem free param.value) [], rfl⟩

/-- A leaf is declared by staging its parameter, making its condition and adding the parameter. -/
theorem addLeaf_eq (p : Predicates) (joiner : Joiner) (leaf : Leaf) :
    p.addLeaf joiner leaf = (do
      let bound ← p.stageParam p.nextNumber leaf
      let c ← Condition.make leaf.property leaf.op (bound.map Param.name) joiner p.nextSort
      return p.afterOne c bound (← p.params.pushAll bound.toList)) := by
  unfold addLeaf bindLeaf stageParam
  cases value : leaf.value with
  | none =>
      simp only [bind, Except.bind, Option.map_none]
      cases Condition.make leaf.property leaf.op none joiner p.nextSort with
      | error e => rfl
      | ok c => simp [afterOne, append_eq, ParamList.pushAll, pure, Except.pure]
  | some v =>
      by_cases taken : Param.conditionName leaf.property p.nextNumber ∈ p.params.names
      · simp [ParamList.push_of_mem taken, ParamList.contains_iff.2 taken, bind, Except.bind]
      · have pushed := ParamList.push_of_not_mem taken v
        simp only [pushed, mt ParamList.contains_iff.1 taken, Bool.false_eq_true, if_false, bind,
          Except.bind, pure, Except.pure, Option.map_some, Option.toList, ParamList.pushAll]
        cases Condition.make leaf.property leaf.op
          (some (Param.conditionName leaf.property p.nextNumber)) joiner p.nextSort with
        | error e => rfl
        | ok c => simp [afterOne, append_eq]

/-- What is staged behind a leaf takes no notice of it. -/
theorem stage_afterOne {p : Predicates} {leaf : Leaf} {bound : Option Param} {params : ParamList}
    (staged : p.stageParam p.nextNumber leaf = .ok bound)
    (added : params.params = p.params.params ++ bound.toList) (c : Condition)
    (first later : Joiner) (leaves : List Leaf) :
    (p.afterOne c bound params).stage first later (p.afterOne c bound params).nextSort
        (p.afterOne c bound params).nextNumber leaves
      = p.stage first later (p.nextSort + 1)
        (if bound.isSome then p.nextNumber + 1 else p.nextNumber) leaves := by
  refine stage_congr (fun property k above => ?_) first later _ leaves
  have names : params.names = p.params.names ++ bound.toList.map Param.name := by
    simp [ParamList.names, added]
  cases bound with
  | none => simp [afterOne, ParamList.contains, names]
  | some param =>
      have other : param.name ≠ Param.conditionName property k := by
        intro same
        rw [(stageParam_eq_ok staged param rfl).2] at same
        have := Param.conditionName_inj same
        simp [afterOne] at above
        omega
      simp [afterOne, ParamList.contains, names, other.symm]

/-- A condition that is staged first is written first. -/
theorem write_cons {p : Predicates} {bound : Option Param} {params : ParamList}
    (pushed : p.params.pushAll bound.toList = .ok params) (c : Condition) (s : Staged) :
    p.write (s.cons c bound) = (p.afterOne c bound params).write s := by
  have params_ : (s.cons c bound).params = bound.toList ++ s.params := by cases bound <;> rfl
  unfold write
  rw [params_, ParamList.pushAll_append, pushed]
  simp only [bind, Except.bind, Staged.cons, List.foldl_cons, foldl_append]
  simp only [append_eq, afterOne]

/-- **Conditions are staged and written as they are declared leaf by leaf**, with the same error
where that fails. -/
theorem addLeaves_eq (p : Predicates) (first later : Joiner) (leaves : List Leaf) :
    p.addLeaves first later leaves
      = (p.stage first later p.nextSort p.nextNumber leaves >>= p.write) := by
  induction leaves generalizing p first with
  | nil => rfl
  | cons leaf rest ih =>
      rw [addLeaves, addLeaf_eq, stage]
      cases staged : p.stageParam p.nextNumber leaf with
      | error e => rfl
      | ok bound =>
          cases made : Condition.make leaf.property leaf.op (bound.map Param.name) first
              p.nextSort with
          | error e => simp [bind, Except.bind, made]
          | ok c =>
              obtain ⟨params, pushed, added⟩ := pushAll_staged staged
              have tail := ih (p.afterOne c bound params) later
              rw [stage_afterOne staged added] at tail
              simp only [bind, Except.bind, made, pushed, pure, Except.pure] at tail ⊢
              rw [tail]
              cases p.stage later later (p.nextSort + 1)
                (if bound.isSome then p.nextNumber + 1 else p.nextNumber) rest with
              | error e => rfl
              | ok s => exact (write_cons pushed c s).symm

/-! ## Expressions -/

theorem run_appendEach (p : Predicates) (cs : List (Condition × Option Param)) :
    (cs.forM fun (c, _) => modify fun p => p.append c : Edit Predicates Unit).run p
      = .ok () (cs.foldl (fun p c => p.append c.1) p) := by
  induction cs generalizing p with
  | nil => rfl
  | cons c cs ih =>
      simp only [List.forM_eq_forM, List.forM_cons, EStateM.run_bind, EStateM.run_modify,
        List.foldl_cons] at ih ⊢
      exact ih _

theorem length_stage {p : Predicates} {first later : Joiner} {sort number : Nat}
    {leaves : List Leaf} {s : Staged} (staged : p.stage first later sort number leaves = .ok s) :
    s.conditions.length = leaves.length := by
  induction leaves generalizing first sort number s with
  | nil =>
      cases staged
      rfl
  | cons leaf rest ih =>
      obtain ⟨bound, -, staged⟩ := bind_eq_ok.1 staged
      obtain ⟨c, -, staged⟩ := bind_eq_ok.1 staged
      obtain ⟨s, more, staged⟩ := bind_eq_ok.1 staged
      cases staged
      simp [Staged.cons, ih more]

/-- Write what is staged, in place; the number of conditions. -/
abbrev writeInPlace (s : Staged) : Edit Predicates Nat := do
  pushAllInPlace s.params
  s.conditions.forM fun (c, _) => modify fun p => p.append c
  modify fun p => { p with nextSort := s.nextSort, nextNumber := s.nextNumber }
  return s.conditions.length

theorem run_writeInPlace (p : Predicates) (s : Staged) :
    (writeInPlace s).run p
      = Edit.settle p ((p.write s).map fun p' => (s.conditions.length, p')) := by
  rw [writeInPlace, EStateM.run_bind, run_pushAllInPlace]
  unfold write
  cases p.params.pushAll s.params with
  | error e => rfl
  | ok params =>
      simp only [Edit.settle, Except.map, EStateM.run_bind, run_appendEach]
      rfl

/-- **An expression is declared in place as `add` declares it**, in full or not at all. -/
theorem run_addInPlace (joiner : Joiner) (e : Expr) (p : Predicates) :
    (addInPlace joiner e).run p = Edit.settle p ((p.add joiner e).map Prod.swap) := by
  have ran : (addInPlace joiner e).run p = Edit.settle p
      ((e.terms joiner).mapError Error.unsupportedShape >>= fun parts =>
        parts.1.mapM Leaf.ofExpr >>= fun leaves =>
          p.stage joiner parts.2 p.nextSort p.nextNumber leaves >>= fun s =>
            (p.write s).map fun p' => (s.conditions.length, p')) :=
    Edit.run_check_bind fun parts => Edit.run_check_bind fun leaves =>
      Edit.run_check_bind fun s => run_writeInPlace p s
  rw [ran]
  unfold add
  cases (e.terms joiner).mapError Error.unsupportedShape with
  | error err => rfl
  | ok parts =>
      cases taken : parts.1.mapM Leaf.ofExpr with
      | error err => simp [bind, Except.bind, Except.map, taken]
      | ok leaves =>
          simp only [bind, Except.bind, taken, addLeaves_eq]
          cases staged : p.stage joiner parts.2 p.nextSort p.nextNumber leaves with
          | error err => rfl
          | ok s =>
              dsimp only
              rw [length_stage staged]
              cases p.write s <;> rfl

end Predicates

/-! ## Calls -/

namespace Query

/-- What has come of a call in place that is made in full or not at all. -/
abbrev settle (q : Query) (x : Except Error Query) : EStateM.Result Error Query Unit :=
  Edit.settle q (x.map fun q' => ((), q'))

theorem run_check_bind {α : Type} {x : Except Error α} {edit : α → Edit Query Unit} {q : Query}
    {f : α → Except Error Query} (rest : ∀ a, (edit a).run q = q.settle (f a)) :
    (Edit.check x >>= edit).run q = q.settle (x >>= f) := by
  cases x with
  | error e => rfl
  | ok a => exact rest a

theorem run_addColumnsInPlace (q : Query) (columns : List String) :
    (addColumnsInPlace columns).run q = q.settle (q.addColumns columns) := by
  refine run_check_bind fun staged => ?_
  split <;> rfl

theorem run_setIdentityInPlace (q : Query) (column : String) :
    (setIdentityInPlace column).run q = q.settle (q.setIdentity column) := by
  unfold setIdentityInPlace setIdentity
  rw [EStateM.run_bind, EStateM.run_get]
  dsimp only
  cases q.identity with
  | some existing => rfl
  | none =>
      refine run_check_bind fun i => ?_
      split <;> rfl

/-- Checks one after the other are one check. -/
theorem forM_check {σ α : Type} (f : α → Except Error Unit) (l : List α) :
    (l.forM fun a => Edit.check (f a) : Edit σ Unit) = Edit.check (l.forM f) := by
  induction l with
  | nil => rfl
  | cons a l ih =>
      simp only [List.forM_eq_forM, List.forM_cons] at ih ⊢
      rw [ih]
      cases f a <;> rfl

/-- **A call in place does what `apply` does**, in full or not at all. -/
theorem run_applyInPlace (q : Query) (call : Call) :
    (applyInPlace call).run q = q.settle (q.apply call) := by
  cases call with
  | table name => exact run_check_bind fun _ => rfl
  | schema name => exact run_check_bind fun _ => rfl
  | addColumns columns => exact run_addColumnsInPlace q columns
  | addAllColumns => exact run_addColumnsInPlace q q.entity.columns
  | mapColumns mapping =>
      rw [applyInPlace, forM_check]
      exact run_check_bind fun _ => rfl
  | mapColumn property column => exact run_check_bind fun _ => rfl
  | configure config => rfl
  | timeoutSeconds seconds => rfl
  | dialect dialect => rfl
  | identity column => exact run_setIdentityInPlace q column
  | entityIdentity =>
      simp only [applyInPlace, apply, EStateM.run_bind, EStateM.run_get]
      cases q.entity.identity with
      | none => rfl
      | some column => exact run_setIdentityInPlace q column
  | declare joiner expr =>
      have declared := Predicates.run_addInPlace joiner expr q.predicates
      simp only [applyInPlace, apply, EStateM.run_bind]
      rw [Edit.run_within_settle rfl declared]
      cases q.predicates.add joiner expr <;> rfl

theorem run_of_ok {q q' : Query} {call : Call} (applied : q.apply call = .ok q') :
    (applyInPlace call).run q = .ok () q' := by
  rw [run_applyInPlace, applied]
  rfl

theorem run_of_error {q : Query} {call : Call} {e : Error} (failed : q.apply call = .error e) :
    (applyInPlace call).run q = .error e q := by
  rw [run_applyInPlace, failed]
  rfl

end Query

end Amend

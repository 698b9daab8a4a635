/-
# Amend.Proofs.Meaning — what a WHERE clause says about a row

The clause of a statement is a flat list of conditions without parentheses, in
which AND binds tighter than OR.  What was declared are expressions: one that is
declared with WHERE or AND narrows the last alternative as a whole, and each term
of one that is declared with OR is a new alternative (`meant`).

`clause_means_declarations` proves that the two say the same about every row.  The
text of a statement is read back, its parameters are dealt out to its conditions,
and the clause that comes of it has the truth of the declared expressions.

Between the two stand the conditions in the order of declaration.  Both sides are
a fold over them that narrows the last of a list of alternatives or adds one to
it (`Truth.extend`): the expressions because AND is associative (`truths_meantAfter`),
the clause because only its last alternative is still open while it is read
(`later?_eq`).
-/
import Amend.Proofs.Keywords
import Amend.Proofs.Placeholders
import Amend.Proofs.Truth

set_option autoImplicit false

namespace Amend

/-! ## What calls mean -/

/-- Join what is new to the last of a list, or start the list with it. -/
def joinLast {α : Type} (join : α → α → α) (new : α) : List α → List α
  | [] => [new]
  | [last] => [join last new]
  | first :: second :: rest => first :: joinLast join new (second :: rest)

/-- The terms of a tree of ORs from left to right. -/
def Expr.alternatives : Expr → List Expr
  | .either a b => a.alternatives ++ b.alternatives
  | e => [e]

/-- The alternatives after one more declaration. -/
def meantAfter (alternatives : List Expr) (call : Joiner × Expr) : List Expr :=
  match call.1 with
  | .or => alternatives ++ call.2.alternatives
  | _ => joinLast .both call.2 alternatives

/-- The alternatives that declarations state, one of which has to hold. -/
def meant (calls : List (Joiner × Expr)) : List Expr := calls.foldl meantAfter []

/-! ## What a clause says -/

namespace Truth

/-- The truth of the rest of a clause, given that of the alternative read so far: AND narrows that
alternative and OR ends it.  There is no clause with a second WHERE. -/
def later? (sofar : Truth) : List (Joiner × Truth) → Option Truth
  | [] => some sofar
  | (.and, t) :: rest => later? (sofar.and t) rest
  | (.or, t) :: rest => (later? t rest).map sofar.or
  | (.opening, _) :: _ => none

/-- The truth of a clause, whose first keyword is WHERE. -/
def clause? : List (Joiner × Truth) → Option Truth
  | (.opening, t) :: rest => later? t rest
  | _ => none

def extend (alternatives : List Truth) (entry : Joiner × Truth) : List Truth :=
  match entry.1 with
  | .or => alternatives ++ [entry.2]
  | _ => joinLast and entry.2 alternatives

end Truth

/-- The truth of what stands behind WHERE, given the value in the column of each condition and the
parameters of the statement. -/
def Body.truth? (c : Collation) (cells : List Value) (params : List Param) (b : Body) :
    Option Truth :=
  let bound := deal (b.clauses.map Prod.snd) (params.drop b.assignments.length)
  let truths := List.zipWith (fun cell (entry : Term × Option Param) =>
    entry.1.op.truth c cell (entry.2.map Param.value)) cells bound
  Truth.clause? ((b.clauses.map Prod.fst).zip truths)

/-! ## The last of a list -/

theorem joinLast_append {α : Type} (join : α → α → α) (new last : α) (l : List α) :
    joinLast join new (l ++ [last]) = l ++ [join last new] := by
  induction l with
  | nil => rfl
  | cons first rest ih =>
      cases rest with
      | nil => rfl
      | cons second rest => simpa [joinLast] using ih

theorem map_joinLast {α β : Type} {join : α → α → α} {join' : β → β → β} {f : α → β}
    (same : ∀ a b, f (join a b) = join' (f a) (f b)) (new : α) (l : List α) :
    (joinLast join new l).map f = joinLast join' (f new) (l.map f) := by
  rcases List.eq_nil_or_concat l with rfl | ⟨l, last, rfl⟩
  · rfl
  · simp [joinLast_append, same]

/-! ## Declared expressions -/

namespace Expr

/-- A chain of ANDs has the truth of its terms together. -/
theorem truth_of_chain {e : Expr} {terms : List Expr} (made : e.chain .conjunction = .ok terms)
    (c : Collation) (row : Cells) : e.truth c row = Truth.all (terms.map (truth c row)) := by
  induction e generalizing terms with
  | both a b iha ihb =>
      obtain ⟨left, right, hleft, hright, rfl⟩ := append_chain_eq_ok made
      rw [List.map_append, Truth.all_append, ← iha hleft, ← ihb hright]
      rfl
  | either a b => cases made
  | _ =>
      cases made
      exact (Truth.and_yes _).symm

/-- The terms of a chain of ORs are its alternatives. -/
theorem alternatives_of_chain {e : Expr} {terms : List Expr}
    (made : e.chain .disjunction = .ok terms) : e.alternatives = terms := by
  induction e generalizing terms with
  | either a b iha ihb =>
      obtain ⟨left, right, hleft, hright, rfl⟩ := append_chain_eq_ok made
      rw [alternatives, iha hleft, ihb hright]
  | both a b => cases made
  | _ =>
      cases made
      rfl

/-- Declared with OR, an expression stands for its terms one by one; else for all of them. -/
theorem meaning_of_terms {joiner later : Joiner} {e : Expr} {terms : List Expr}
    (made : e.terms joiner = .ok (terms, later)) (c : Collation) (row : Cells) :
    (joiner = .or → e.alternatives = terms)
      ∧ (joiner ≠ .or → e.truth c row = Truth.all (terms.map (truth c row))) := by
  unfold Expr.terms at made
  split at made
  · cases made
  · rename_i notOr
    obtain ⟨parts, hparts, made⟩ := bind_eq_ok.1 made
    cases made
    exact ⟨fun or => absurd or notOr, fun _ => truth_of_chain hparts c row⟩
  · obtain ⟨parts, hparts, made⟩ := bind_eq_ok.1 made
    cases made
    exact ⟨fun _ => alternatives_of_chain hparts, fun notOr => absurd rfl notOr⟩
  · cases made
  · rename_i notEither _ _
    cases made
    refine ⟨fun _ => ?_, fun _ => (Truth.and_yes _).symm⟩
    cases e with
    | either a b => exact (notEither a b rfl).elim
    | _ => rfl

end Expr

/-! ## Conditions one by one -/

/-- Conditions under AND narrow the last alternative together. -/
theorem foldl_extend_and (alternatives ts : List Truth) (t : Truth) :
    (ts.map fun t => (Joiner.and, t)).foldl Truth.extend (alternatives ++ [t])
      = alternatives ++ [t.and (Truth.all ts)] := by
  induction ts generalizing t with
  | nil => exact congrArg (fun last => alternatives ++ [last]) (Truth.and_yes t).symm
  | cons u ts ih =>
      have step : Truth.extend (alternatives ++ [t]) (.and, u) = alternatives ++ [t.and u] :=
        joinLast_append _ _ _ _
      rw [List.map_cons, List.foldl_cons, step, ih, Truth.and_assoc]
      rfl

/-- To narrow the last alternative by several conditions is to narrow it by each of them. -/
theorem joinLast_all (alternatives ts : List Truth) (t : Truth) :
    joinLast Truth.and (t.and (Truth.all ts)) alternatives
      = (ts.map fun t => (Joiner.and, t)).foldl Truth.extend
        (joinLast Truth.and t alternatives) := by
  rcases List.eq_nil_or_concat alternatives with rfl | ⟨closed, last, rfl⟩
  · exact (foldl_extend_and [] ts t).symm
  · rw [List.concat_eq_append, joinLast_append, joinLast_append, foldl_extend_and,
      Truth.and_assoc]

/-- Conditions under OR are alternatives, each by itself. -/
theorem foldl_extend_or (alternatives ts : List Truth) :
    (ts.map fun t => (Joiner.or, t)).foldl Truth.extend alternatives = alternatives ++ ts := by
  induction ts generalizing alternatives with
  | nil => simp
  | cons t ts ih =>
      rw [List.map_cons, List.foldl_cons, ih]
      simp [Truth.extend]

def Declared.entry (c : Collation) (row : Cells) (d : Declared) : Joiner × Truth :=
  (d.joiner, d.leaf.op.truth c (row d.leaf.property) d.leaf.value)

theorem entries_declares {joiner : Joiner} {e : Expr} {t : Test} {ts : List Test}
    (comparisons : e.comparisons = t :: ts) (c : Collation) (row : Cells) :
    (e.declares joiner).map (Declared.entry c row)
      = (joiner, t.truth c row)
        :: (ts.map (Test.truth c row)).map fun t => (joiner.later, t) := by
  have rest : ∀ ts : List Test,
      (tag joiner.later joiner.later (ts.map Test.leaf)).map (Declared.entry c row)
        = (ts.map (Test.truth c row)).map fun t => (joiner.later, t) := by
    intro ts
    induction ts with
    | nil => rfl
    | cons t ts ih => exact congrArg (_ :: ·) ih
  rw [Expr.declares, comparisons]
  exact congrArg (_ :: ·) (rest ts)

/-- **A declaration changes the alternatives as its conditions do**, one after the other. -/
theorem truths_meantAfter {call : Joiner × Expr} {ds : List Declared}
    (taken : call.2.taken call.1 = .ok ds) (c : Collation) (row : Cells)
    (alternatives : List Expr) :
    (meantAfter alternatives call).map (Expr.truth c row)
      = ((call.2.declares call.1).map (Declared.entry c row)).foldl Truth.extend
        (alternatives.map (Expr.truth c row)) := by
  obtain ⟨joiner, e⟩ := call
  obtain ⟨⟨terms, later⟩, split, taken⟩ := bind_eq_ok.1 taken
  obtain ⟨leaves, hleaves, -⟩ := bind_eq_ok.1 taken
  rw [mapError_eq_ok] at split
  obtain ⟨nonempty, all, -⟩ := Expr.terms_eq_ok split
  obtain ⟨asOr, asAnd⟩ := Expr.meaning_of_terms split c row
  have truths := truths_of_leaves (mapM_eq_ok.1 hleaves) c row
  rw [all] at truths
  cases comparisons : e.comparisons with
  | nil =>
      rw [comparisons] at truths
      exact absurd (List.map_eq_nil_iff.1 truths) nonempty
  | cons t ts =>
      rw [comparisons] at truths
      rw [entries_declares comparisons]
      cases joiner with
      | or =>
          have added := foldl_extend_or (alternatives.map (Expr.truth c row))
            ((t :: ts).map (Test.truth c row))
          rw [meantAfter, asOr rfl, List.map_append, truths, ← added]
          rfl
      | _ =>
          have whole : e.truth c row
              = (t.truth c row).and (Truth.all (ts.map (Test.truth c row))) := by
            rw [asAnd nofun, truths]
            rfl
          rw [meantAfter, map_joinLast (fun _ _ => rfl), whole, joinLast_all]
          rfl

/-- Declarations state what their conditions do. -/
theorem truths_meant {calls : List (Joiner × Expr)}
    (taken : ∀ call ∈ calls, ∃ ds, call.2.taken call.1 = .ok ds) (c : Collation) (row : Cells)
    (alternatives : List Expr) :
    (calls.foldl meantAfter alternatives).map (Expr.truth c row)
      = ((declaredBy calls).map (Declared.entry c row)).foldl Truth.extend
        (alternatives.map (Expr.truth c row)) := by
  induction calls generalizing alternatives with
  | nil => rfl
  | cons call calls ih =>
      obtain ⟨ds, here⟩ := taken call (by simp)
      have step := truths_meantAfter here c row alternatives
      have rest := ih (fun call later => taken call (by simp [later]))
        (meantAfter alternatives call)
      rw [List.foldl_cons, rest, step]
      simp [declaredBy]

/-! ## The clause -/

/-- **Only the last alternative is open while a clause is read**, so that the rest of the clause has
the truth of that alternative and those that follow. -/
theorem later?_eq {rest : List (Joiner × Truth)} (clausal : ∀ entry ∈ rest, entry.1 ≠ .opening)
    (sofar : Truth) :
    ∃ t, Truth.later? sofar rest = some t
      ∧ ∀ closed, Truth.any (rest.foldl Truth.extend (closed ++ [sofar]))
        = (Truth.any closed).or t := by
  induction rest generalizing sofar with
  | nil =>
      refine ⟨sofar, rfl, fun closed => ?_⟩
      rw [List.foldl_nil, Truth.any_append]
      exact congrArg _ (Truth.or_no sofar)
  | cons entry rest ih =>
      obtain ⟨joiner, u⟩ := entry
      have tail := fun sofar => ih (fun entry later => clausal entry (by simp [later])) sofar
      cases joiner with
      | opening => exact absurd rfl (clausal (.opening, u) (by simp))
      | and =>
          obtain ⟨t, read, same⟩ := tail (sofar.and u)
          refine ⟨t, read, fun closed => ?_⟩
          have narrowed : Truth.extend (closed ++ [sofar]) (.and, u) = closed ++ [sofar.and u] :=
            joinLast_append _ _ _ _
          rw [List.foldl_cons, narrowed, same]
      | or =>
          obtain ⟨t, read, same⟩ := tail u
          refine ⟨sofar.or t, by rw [Truth.later?, read]; rfl, fun closed => ?_⟩
          have added : Truth.extend (closed ++ [sofar]) (.or, u) = (closed ++ [sofar]) ++ [u] := rfl
          have one : Truth.any [sofar] = sofar := Truth.or_no sofar
          rw [List.foldl_cons, added, same, Truth.any_append, one, Truth.or_assoc]

/-- A clause has the truth of its alternatives, whatever its first condition was declared with. -/
theorem clause?_eq {entries : List (Joiner × Truth)} (nonempty : entries ≠ [])
    (clausal : ∀ entry ∈ entries.tail, entry.1 ≠ .opening) :
    Truth.clause? ((openedKeywords (entries.map Prod.fst)).zip (entries.map Prod.snd))
      = some (Truth.any (entries.foldl Truth.extend [])) := by
  cases entries with
  | nil => exact absurd rfl nonempty
  | cons first rest =>
      obtain ⟨joiner, t⟩ := first
      rw [List.tail_cons] at clausal
      obtain ⟨u, read, same⟩ := later?_eq clausal t
      have start : Truth.extend [] (joiner, t) = [] ++ [t] := by cases joiner <;> rfl
      have later : (rest.map Prod.fst).zip (rest.map Prod.snd) = rest :=
        (List.zip_of_prod rfl rfl).symm
      simp only [List.map_cons, openedKeywords, List.zip_cons_cons, later, Truth.clause?]
      rw [List.foldl_cons, start, same, read]
      exact congrArg some (Truth.no_or u).symm

/-- AND binds tighter: what is narrowed is the second alternative alone. -/
example : Truth.clause? [(.opening, .yes), (.or, .yes), (.and, .no)] = some .yes := rfl

/-! ## The text of a statement -/

/-- Conditions that were dealt their parameters have the truths of the comparisons. -/
theorem truths_of_compares {m : Mapping} {tests : List Test}
    {bound : List (Term × Option Param)} (compares : List.Forall₂ (Compares m) tests bound)
    (c : Collation) (row : Cells) :
    List.zipWith (fun cell (entry : Term × Option Param) =>
        entry.1.op.truth c cell (entry.2.map Param.value))
      (tests.map fun t => row t.property) bound = tests.map (Test.truth c row) := by
  induction compares with
  | nil => rfl
  | cons head tail ih =>
      rw [List.map_cons, List.zipWith_cons_cons, ih, head.op, head.value]
      rfl

theorem map_snd_entries (calls : List (Joiner × Expr)) (c : Collation) (row : Cells) :
    ((conditionsOf calls).map (Declared.entry c row)).map Prod.snd
      = (testsOf calls).map (Test.truth c row) := by
  let truth (l : Leaf) : Truth := l.op.truth c (row l.property) l.value
  calc ((conditionsOf calls).map (Declared.entry c row)).map Prod.snd
      = ((conditionsOf calls).map Declared.leaf).map truth := by
        rw [List.map_map, List.map_map]
        rfl
    _ = ((testsOf calls).map Test.leaf).map truth := by rw [map_leaf_conditionsOf]
    _ = (testsOf calls).map (Test.truth c row) := by
        rw [List.map_map]
        rfl

/-- **What stands behind WHERE has the truth of what was declared.** -/
theorem truth?_body {calls : List (Joiner × Expr)} {m : Mapping} {s : Source} {p : Plan}
    (reached : Reached calls m s.predicates) (made : Plan.assemble s = .ok p)
    (nonempty : ({} : Predicates).accepted calls ≠ [])
    (opening : ∀ call ∈ (({} : Predicates).accepted calls).tail, call.1 ≠ .opening)
    (c : Collation) (d : Dialect) (row : Cells) :
    (p.body d).truth? c ((testsOf calls).map fun t => row t.property) p.params
      = some (Truth.any ((meant (({} : Predicates).accepted calls)).map (Expr.truth c row))) := by
  have taken : ∀ call ∈ ({} : Predicates).accepted calls, ∃ ds, call.2.taken call.1 = .ok ds :=
    fun _ member => taken_of_accepted [] member
  have declares : ∀ call ∈ ({} : Predicates).accepted calls, call.2.declares call.1 ≠ [] :=
    fun _ member => declares_ne_nil_of_accepted [] member
  obtain ⟨-, -, -, restated⟩ := assemble_eq_ok reached made
  have compared := (paired_body reached made d).compared
  have joiners : ((conditionsOf calls).map (Declared.entry c row)).map Prod.fst
      = (conditionsOf calls).map Declared.joiner := by
    rw [List.map_map]
    rfl
  have keywords : (p.body d).clauses.map Prod.fst
      = openedKeywords (((conditionsOf calls).map (Declared.entry c row)).map Prod.fst) := by
    rw [joiners, ← map_eq_of_forall₂ restated Restated.joiner]
    exact map_fst_opened d _ _
  have conditions : (conditionsOf calls).map (Declared.entry c row) ≠ [] := by
    obtain ⟨call, member⟩ := List.exists_mem_of_ne_nil _ nonempty
    obtain ⟨declared, here⟩ := List.exists_mem_of_ne_nil _ (declares call member)
    exact List.ne_nil_of_mem (List.mem_map_of_mem (List.mem_flatMap.2 ⟨call, member, here⟩))
  have clausal : ∀ entry ∈ ((conditionsOf calls).map (Declared.entry c row)).tail,
      entry.1 ≠ .opening := by
    have later := (opening_not_mem_tail declares).2 opening
    intro entry member
    apply later
    rw [← conditionsOf, ← joiners, ← List.map_tail]
    exact List.mem_map_of_mem member
  rw [Body.truth?, truths_of_compares compared, ← map_snd_entries, keywords,
    clause?_eq conditions clausal, meant, truths_meant taken]
  rfl

/-! ## Rows of a table -/

/-- A row of the table holds the values of a row by property, each in the column of its property. -/
def Stores (m : Mapping) (tests : List Test) (row : Cells) (cell : Ident → Value) : Prop :=
  ∀ t ∈ tests, ∀ i, Ident.read (m.resolve t.property) = .ok i → cell i = row t.property

/-- To deal out parameters keeps the conditions. -/
theorem map_fst_deal (ts : List Term) (ps : List Param) : (deal ts ps).map Prod.fst = ts := by
  induction ts generalizing ps with
  | nil => rfl
  | cons t ts ih =>
      rw [deal]
      split <;> simp [ih]

/-- The columns of conditions hold the values of the properties that were compared. -/
theorem cells_of_stores {m : Mapping} {tests : List Test} {bound : List (Term × Option Param)}
    (compares : List.Forall₂ (Compares m) tests bound) {row : Cells} {cell : Ident → Value}
    (stores : Stores m tests row cell) :
    (bound.map Prod.fst).map (fun t => cell t.column) = tests.map fun t => row t.property := by
  induction compares with
  | nil => rfl
  | cons head tail ih =>
      have here := stores _ (by simp) _ head.column
      have rest := ih fun t later => stores t (by simp [later])
      rw [List.map_cons, List.map_cons, List.map_cons, here, rest]

/-- **The clause of a statement means what was declared.**  Take any declarations of which one at
least is accepted, and of those accepted none but the first is made with WHERE.  In both dialects
the text of the statement has a reading whose clause, with the parameters of the statement, has the
truth of the declared expressions: about each row by property, and so about each row of a table that
stores it. -/
theorem clause_means_declarations {calls : List (Joiner × Expr)} {m : Mapping} {s : Source}
    {p : Plan} (reached : Reached calls m s.predicates) (table : s.table.Made)
    (made : Plan.assemble s = .ok p)
    (nonempty : ({} : Predicates).accepted calls ≠ [])
    (opening : ∀ call ∈ (({} : Predicates).accepted calls).tail, call.1 ≠ .opening)
    (c : Collation) (d : Dialect) :
    ∃ o, Outline.read? (p.statement d).sql = some o ∧ ∀ row : Cells,
      let truth := Truth.any ((meant (({} : Predicates).accepted calls)).map (Expr.truth c row))
      let properties := (testsOf calls).map fun t => row t.property
      o.body.truth? c properties (p.statement d).params = some truth
        ∧ ∀ cell : Ident → Value, Stores m (testsOf calls) row cell →
          o.body.truth? c (o.body.clauses.map fun entry => cell entry.2.column)
            (p.statement d).params = some truth := by
  have formed := wellFormed_of_assemble reached made
  have same := (parts_of_assemble made).1
  refine ⟨p.outline d, Plan.read?_render formed (same ▸ table.wellFormed) d, fun row => ?_⟩
  have meaning := truth?_body reached made nonempty opening c d row
  refine ⟨meaning, fun cell stores => ?_⟩
  have cells := cells_of_stores (paired_body reached made d).compared stores
  rw [map_fst_deal, List.map_map] at cells
  exact (congrArg (fun cells => (p.body d).truth? c cells p.params) cells).trans meaning

/-! ## A statement and a row -/

/-- Whether a comparison holds of values in an order. -/
def Comparison.orders : Comparison → Ordering → Bool
  | .equal, o => o == .eq
  | .notEqual, o => o != .eq
  | .greater, o => o == .gt
  | .greaterOrEqual, o => o != .lt
  | .less, o => o == .lt
  | .lessOrEqual, o => o != .gt

theorem orders_swap (op : Comparison) (o : Ordering) : op.swapped.orders o.swap = op.orders o := by
  cases op <;> cases o <;> rfl

def Value.long? : Value → Option Int
  | .int64 n => some n.toInt
  | _ => none

/-- Long integers by size; whether other values compare is unknown. -/
def longIntegers : Collation where
  holds a op b :=
    match a.long?, b.long? with
    | some m, some n => .ofBool (op.orders (compare m n))
    | _, _ => .unknown
  turned a op b := by
    cases a.long? with
    | none => cases b.long? <;> rfl
    | some m =>
        cases b.long? with
        | none => rfl
        | some n =>
            have same : op.orders (compare m n) = op.swapped.orders (compare n m) := by
              rw [← orders_swap op, ← Std.OrientedCmp.eq_swap]
            exact congrArg Truth.ofBool same

/-- A row whose key is the seventh and that was never left. -/
def seventh : Cells := fun property => if property = "Id" then .int64 7 else .null

theorem sample_clause_holds :
    ∃ p o, Plan.assemble sample = .ok p
      ∧ Outline.read? (p.statement .sqlServer).sql = some o
      ∧ o.body.truth? longIntegers [.int64 7, .null] (p.statement .sqlServer).params
        = some .yes := by
  have table : sample.table.Made :=
    ⟨⟨"a.b", .inr (.inl rfl)⟩, ⟨"public", .inl rfl⟩, ⟨"x SET \"y\" = $1", .inr (.inr rfl)⟩⟩
  have reached : Reached sampleCalls sampleMapping sample.predicates := rfl
  obtain ⟨o, read, means⟩ := clause_means_declarations reached table rfl (List.cons_ne_nil _ _)
    (by decide) longIntegers .sqlServer
  exact ⟨_, o, rfl, read, (means seventh).1⟩

end Amend

/-
# Amend.Proofs.Suffixes — the search for a free name ends in time

A column of the SET list is bound under its base where that is free.  Where it is
not, one counter for the whole list goes up until the base with the number behind
it is free.  `Param.Search` is this search as it runs, step by step, with a limit
for the counter.

A number that was tried stands behind one of the names of the list: behind the name
that was found with it, or behind one that has it of its own, for no condition has
such a name (`Param.numbered_ne_conditionName`).  A name has one number behind it
at most, so that the counter is at most the number of names (`Param.Spent`).  From
column to column this is kept, and with it that no two parameters of a statement
share a name (`NamesApart`, `names_stay_apart`).
-/
import Amend.Proofs.Consistency
import Mathlib.Data.Nat.Init

set_option autoImplicit false

namespace Amend

namespace Param

/-! ## The search as it runs -/

/-- The search for a free name, from a name and the counter: while the name is taken, the counter
goes up by one, and the name is the base with the counter behind it.  Nowhere on the way is the
counter above the limit. -/
inductive Search (limit : Nat) (taken : List String) (base : String) :
    String → Nat → String × Nat → Prop where
  | free {name : String} {number : Nat} (within : number ≤ limit) (free : name ∉ taken) :
      Search limit taken base name number (name, number)
  | next {name : String} {number : Nat} {found : String × Nat} (within : number ≤ limit)
      (there : name ∈ taken)
      (more : Search limit taken base (numbered base (number + 1)) (number + 1) found) :
      Search limit taken base name number found

variable {limit : Nat} {taken : List String} {base : String}

theorem Search.unique {name : String} {number : Nat} {found found' : String × Nat}
    (first : Search limit taken base name number found)
    (second : Search limit taken base name number found') : found = found' := by
  induction first with
  | free _ free =>
      cases second with
      | free => rfl
      | next _ there _ => exact absurd there free
  | next _ there _ ih =>
      cases second with
      | free _ free => exact absurd there free
      | next _ _ more => exact ih more

/-- Over numbers that are taken the search goes up to one that is free. -/
theorem search_numbered {k n : Nat} (low : k ≤ n) (within : n ≤ limit)
    (free : numbered base n ∉ taken) (tried : ∀ j, k ≤ j → j < n → numbered base j ∈ taken) :
    Search limit taken base (numbered base k) k (numbered base n, n) := by
  induction low using Nat.decreasingInduction with
  | self => exact .free within free
  | of_succ k below ih =>
      refine .next (by omega) (tried k (Nat.le_refl k) below) (ih fun j low high => ?_)
      exact tried j (by omega) high

/-- **The search ends with the free name**, and its counter stays as low as that of the name. -/
theorem search_iff {last : Nat} (within : (freeName taken base last).2 ≤ limit)
    {found : String × Nat} :
    Search limit taken base base last found ↔ found = freeName taken base last := by
  have ends : Search limit taken base base last (freeName taken base last) := by
    rcases freeName_cases taken base last with ⟨free, made⟩ | ⟨there, n, low, made, free, tried⟩
    · rw [made] at within ⊢
      exact .free within free
    · rw [made] at within ⊢
      exact .next (by omega) there (search_numbered low within free fun k => tried k)
  constructor
  · exact fun other => other.unique ends
  · rintro rfl
    exact ends

/-! ## Numbers that were tried -/

/-- Each number up to the last one stands behind a name. -/
def Spent (names : List String) (last : Nat) : Prop :=
  ∀ k, 0 < k → k ≤ last → ∃ base, numbered base k ∈ names

/-- Each name is that of the parameter of a condition. -/
def Conditional (names : List String) : Prop :=
  ∀ name ∈ names, ∃ property k, name = conditionName property k

variable {names conditions : List String} {last : Nat}

/-- **There are at least as many names as numbers were tried**, for a name has one number behind it
at most. -/
theorem Spent.le_length (spent : Spent names last) : last ≤ names.length := by
  have each : ∀ k, ∃ base, k ∈ List.range' 1 last → numbered base k ∈ names := by
    intro k
    by_cases tried : k ∈ List.range' 1 last
    · have range := List.mem_range'_1.1 tried
      obtain ⟨base, member⟩ := spent k (by omega) (by omega)
      exact ⟨base, fun _ => member⟩
    · exact ⟨"", fun member => absurd member tried⟩
  choose base behind using each
  have distinct : ((List.range' 1 last).map fun k => numbered (base k) k).Nodup :=
    List.Nodup.map (fun _ _ same => numbered_inj same) List.nodup_range'
  have covered : ((List.range' 1 last).map fun k => numbered (base k) k) ⊆ names := by
    intro name member
    obtain ⟨k, tried, rfl⟩ := List.mem_map.1 member
    exact behind k tried
  have bound := (distinct.subperm covered).length_le
  rwa [List.length_map, List.length_range'] at bound

theorem Spent.mono {more : List String} (spent : Spent names last) (sub : names ⊆ more) :
    Spent more last := fun k positive low => by
  obtain ⟨base, member⟩ := spent k positive low
  exact ⟨base, sub member⟩

/-- The search for a name leaves its number behind that name, and each number that it tried behind
one that was there. -/
theorem Spent.freeName (spent : Spent names last)
    (conditional : Conditional conditions) (base : String) :
    Spent (names ++ [(freeName (names ++ conditions) base last).1])
        (freeName (names ++ conditions) base last).2
      ∧ (freeName (names ++ conditions) base last).2 ≤ names.length + 1 := by
  have kept := spent.mono (List.subset_append_left names
    [(Param.freeName (names ++ conditions) base last).1])
  have spent' : Spent (names ++ [(Param.freeName (names ++ conditions) base last).1])
      (Param.freeName (names ++ conditions) base last).2 := by
    rcases freeName_cases (names ++ conditions) base last with
      ⟨-, made⟩ | ⟨-, n, low, made, -, tried⟩
    · rw [made] at kept ⊢
      exact kept
    · rw [made] at kept ⊢
      intro k positive high
      rcases Nat.lt_or_ge last k with above | below
      · rcases Nat.lt_or_eq_of_le high with between | rfl
        · rcases List.mem_append.1 (tried k above between) with named | condition
          · exact ⟨base, List.mem_append_left _ named⟩
          · obtain ⟨property, j, same⟩ := conditional _ condition
            exact absurd same (numbered_ne_conditionName base property k j)
        · exact ⟨base, by simp⟩
      · exact kept k positive below
  exact ⟨spent', by simpa using spent'.le_length⟩

end Param

/-! ## The SET list -/

open Plan (Naming)

/-- How the names stand when some columns of the SET list have theirs. -/
structure NamesApart (s : Source) (count : Nat) (n : Naming) : Prop where
  length : n.params.names.length = count
  spent : Param.Spent n.params.names n.last
  distinct : (n.params.names ++ s.predicates.params.names).Nodup
  words : ∀ name ∈ n.params.names, Param.IsWord name

namespace NamesApart

variable {s : Source} {count : Nat} {n n' : Naming}

theorem start (s : Source) : NamesApart s 0 {} where
  length := rfl
  spent := fun _ positive low => absurd positive (Nat.not_lt.2 low)
  distinct := s.predicates.params.distinct
  words := nofun

/-- **A column takes one more name**, and the names stay apart. -/
theorem assignOne (apart : NamesApart s count n)
    (conditional : Param.Conditional s.predicates.params.names)
    {property : String} {a : Assignment}
    (made : Plan.assignOne s n property = .ok (a, n')) : NamesApart s (count + 1) n' := by
  have named := assignOne_eq_ok made
  obtain ⟨i, parsed⟩ := named.parsed
  have names : n'.params.names = n.params.names ++ [a.param.name] := by
    simp [ParamList.names, named.added]
  have free := Param.freeName_not_mem (n.params.names ++ s.predicates.params.names)
    (Param.baseName property) n.last
  have word := Param.isWord_freeName (Param.isWord_baseName parsed)
    (n.params.names ++ s.predicates.params.names) n.last
  have spent := (apart.spent.freeName conditional (Param.baseName property)).1
  rw [named.found] at free word spent
  exact {
    length := by rw [names, List.length_append, apart.length, List.length_singleton]
    spent := by rwa [names]
    distinct := by
      rw [names, List.append_assoc, List.singleton_append]
      exact List.nodup_middle.2 (List.nodup_cons.2 ⟨free, apart.distinct⟩)
    words := by
      rw [names]
      exact List.forall_mem_append.2 ⟨apart.words, List.forall_mem_singleton.2 word⟩ }

/-- **Columns take their names one after the other**, and the names stay apart. -/
theorem assign (apart : NamesApart s count n)
    (conditional : Param.Conditional s.predicates.params.names)
    {properties : List String} {as : List Assignment}
    (made : Plan.assign s n properties = .ok (as, n')) :
    NamesApart s (count + properties.length) n'
      ∧ n'.params.params = n.params.params ++ as.map Assignment.param := by
  induction properties generalizing count n as with
  | nil =>
      cases made
      exact ⟨apart, by simp⟩
  | cons property rest ih =>
      obtain ⟨⟨a, next⟩, first, made⟩ := bind_eq_ok.1 made
      obtain ⟨⟨others, last⟩, tail, made⟩ := bind_eq_ok.1 made
      cases made
      obtain ⟨later, all⟩ := ih (apart.assignOne conditional first) tail
      refine ⟨?_, ?_⟩
      · rwa [List.length_cons, Nat.add_comm rest.length, ← Nat.add_assoc]
      · rw [all, (assignOne_eq_ok first).added, List.append_assoc]
        rfl

end NamesApart

/-! ## The conditions -/

section Reached

variable {calls : List (Joiner × Expr)} {m : Mapping} {p : Predicates}

/-- What conditions bind is under words, each with the number of its condition. -/
theorem names_reached (reached : Reached calls m p) :
    Param.Conditional p.params.names ∧ ∀ name ∈ p.params.names, Param.IsWord name := by
  have each : ∀ name ∈ p.params.names, ∃ property k,
      name = Param.conditionName property k ∧ Param.IsWord name := by
    rw [(ordered_reached reached).2]
    intro name member
    obtain ⟨param, there, rfl⟩ := List.mem_map.1 member
    obtain ⟨d, declared, k, name, -, -⟩ := name_of_mem_paramsFrom there
    obtain ⟨⟨i, parsed⟩, -⟩ := wellFormed_of_accepted declared
    exact ⟨d.leaf.property, k, name, name ▸ Param.isWord_conditionName parsed k⟩
  constructor
  · intro name member
    obtain ⟨property, k, same, -⟩ := each name member
    exact ⟨property, k, same⟩
  · intro name member
    obtain ⟨-, -, -, word⟩ := each name member
    exact word

/-- Conditions name their parameters in order. -/
theorem params_reached (reached : Reached calls m p) :
    p.params.names = p.ordered.filterMap Condition.param := by
  obtain ⟨ordered, params⟩ := ordered_reached reached
  have names := names_paramsFrom 0 0 (conditionsOf calls)
  rw [ordered, params]
  simpa [ParamList.names, Mapping.apply, List.filterMap_map, Function.comp_def] using names

end Reached

theorem name_of_get? {params : ParamList} {name : String} {p : Param}
    (found : params.get? name = some p) : p.name = name := by
  simpa using List.find?_some found

/-- A clause binds under the name that is in its condition. -/
theorem names_clauses {params : ParamList} {cs : List Condition} {clauses : List Clause}
    (made : List.Forall₂ (fun c clause => Plan.clause params c = .ok clause) cs clauses) :
    (clauses.filterMap Clause.param).map Param.name = cs.filterMap Condition.param := by
  have named : clauses.map (fun c => c.param.map Param.name) = cs.map Condition.param := by
    refine map_eq_of_forall₂ made fun {c clause} made => ?_
    obtain ⟨-, -, -, found, there⟩ := clause_eq_ok made
    cases named : c.param with
    | none =>
        rw [named] at found
        rw [found]
        rfl
    | some name =>
        rw [named, Option.bind_some] at found
        rw [named, found] at there
        obtain ⟨p, here⟩ := Option.isSome_iff_exists.1 there
        rw [found, here, Option.map_some, name_of_get? here]
  have all := congrArg (List.filterMap id) named
  simpa [List.filterMap_map, List.map_filterMap, Function.comp_def] using all

/-! ## Statements -/

/-- An error other than that of a name that is taken. -/
def Error.NoCollision (e : Error) : Prop := ∀ name, e ≠ .parameterCollision name

theorem noCollision_read (written : String) :
    FailsBy Error.NoCollision (Ident.read written) :=
  .mapError fun _ => nofun

theorem noCollision_assignOne (s : Source) (n : Naming) (property : String) :
    FailsBy Error.NoCollision (Plan.assignOne s n property) := by
  refine (noCollision_read property).bind fun _ _ => (noCollision_read _).bind fun _ _ => ?_
  dsimp only
  split
  · exact .error nofun
  · rw [Param.push_freeName]
    exact .ok _

theorem noCollision_assign (s : Source) (n : Naming) (properties : List String) :
    FailsBy Error.NoCollision (Plan.assign s n properties) := by
  induction properties generalizing n with
  | nil => exact .ok _
  | cons property rest ih =>
      exact (noCollision_assignOne s n property).bind fun _ _ => (ih _).bind fun _ _ => .ok _

theorem noCollision_clause (params : ParamList) (c : Condition) :
    FailsBy Error.NoCollision (Plan.clause params c) := by
  refine (noCollision_read c.column).bind fun column _ => ?_
  split
  · exact .ok _
  · split
    · exact .ok _
    · exact .error nofun

/-- A statement does not fail by a name that is taken. -/
theorem noCollision_assemble (s : Source) : FailsBy Error.NoCollision (Plan.assemble s) := by
  unfold Plan.assemble
  dsimp only
  split
  · exact .error nofun
  · refine (noCollision_assign s {} _).bind fun _ _ => ?_
    exact FailsBy.bind (.mapM fun c _ => noCollision_clause _ c) fun _ _ => .ok _

/-- The parameters of a statement are those of its columns, with names that stand apart, and those
of its conditions behind them. -/
theorem names_of_assemble {calls : List (Joiner × Expr)} {m : Mapping} {s : Source} {p : Plan}
    (reached : Reached calls m s.predicates) (made : Plan.assemble s = .ok p) :
    ∃ n, NamesApart s (setColumns s.columns s.identity).length n
      ∧ p.params.map Param.name = n.params.names ++ s.predicates.params.names := by
  obtain ⟨-, -, ⟨n, assigned⟩, restated⟩ := parts_of_assemble made
  have start := NamesApart.start s
  obtain ⟨apart, all⟩ := start.assign (names_reached reached).1 assigned
  have columns : p.assignments.map Assignment.param = n.params.params := by
    rw [all]
    rfl
  refine ⟨n, by simpa using apart, ?_⟩
  rw [Plan.params, List.map_append, names_clauses restated, ← params_reached reached, columns]
  rfl

/-- **Names stay apart.**  Whatever columns, key, mapping, row and declarations a statement is made
from, for each column of the SET list the search for its name ends, with a counter that is never
above the number of those columns, and the parameter can be added under that name; the statement
does not fail by a name that is taken; and where it does not fail, its parameters are under words of
which none is there twice. -/
theorem names_stay_apart {calls : List (Joiner × Expr)} {m : Mapping} {s : Source}
    (reached : Reached calls m s.predicates) :
    (∀ before property rest, setColumns s.columns s.identity = before ++ property :: rest →
      ∀ as n, Plan.assign s {} before = .ok (as, n) →
        let taken := n.params.names ++ s.predicates.params.names
        let base := Param.baseName property
        let limit := (setColumns s.columns s.identity).length
        (∀ found, Param.Search limit taken base base n.last found
          ↔ found = Param.freeName taken base n.last)
        ∧ ∀ value, ∃ params,
          n.params.push (Param.freeName taken base n.last).1 value = .ok params)
      ∧ (∀ name, Plan.assemble s ≠ .error (.parameterCollision name))
      ∧ ∀ p d, Plan.assemble s = .ok p →
        ((p.statement d).params.map Param.name).Nodup
          ∧ ∀ param ∈ (p.statement d).params, Param.IsWord param.name := by
  obtain ⟨conditional, words⟩ := names_reached reached
  refine ⟨?_, ?_, ?_⟩
  · intro before property rest split as n made
    have start := NamesApart.start s
    have apart := (start.assign conditional made).1
    have low := (apart.spent.freeName conditional (Param.baseName property)).2
    have room : n.params.names.length + 1 ≤ (setColumns s.columns s.identity).length := by
      rw [apart.length, split]
      simp only [List.length_append, List.length_cons]
      omega
    constructor
    · intro found
      exact Param.search_iff (Nat.le_trans low room)
    · intro value
      exact ⟨_, Param.push_freeName n.params _ _ _ value⟩
  · intro name failed
    exact noCollision_assemble s _ failed name rfl
  · intro p d made
    obtain ⟨n, apart, names⟩ := names_of_assemble reached made
    have params : (p.statement d).params = p.params := rfl
    rw [params]
    constructor
    · rw [names]
      exact apart.distinct
    · intro param member
      have named : param.name ∈ n.params.names ++ s.predicates.params.names := by
        rw [← names]
        exact List.mem_map_of_mem member
      rcases List.mem_append.1 named with column | condition
      · exact apart.words _ column
      · exact words _ condition

/-- A condition on the age, which is the first that binds a value. -/
def crowdedCalls : List (Joiner × Expr) := [(.opening, .test "Age" .greater (.int32 18))]

/-- Columns of which two have one base, and others are named as a number behind a base or as the
parameter of a condition. -/
def crowded : Source where
  table := ⟨.plain "db", .plain "public", .plain "t"⟩
  columns := ["Unit_Price_1", "Unit_Price", "\"Unit Price\"", "Age_cond0", "Unit_Price"]
  identity := none
  mapping := {}
  predicates := (Predicates.after crowdedCalls).mapped {}
  row := fun _ => some .null

/-- The names of its parameters, of which the last one is that of the condition. -/
def crowdedNames : List String :=
  ["Unit_Price_1", "Unit_Price", "Unit_Price_2", "Age_cond0_3", "Unit_Price_4", "Age_cond0"]

theorem crowded_names_stay_apart :
    Reached crowdedCalls {} crowded.predicates
      ∧ ∃ p, Plan.assemble crowded = .ok p
        ∧ ∀ d, (p.statement d).params.map Param.name = crowdedNames ∧ crowdedNames.Nodup := by
  have reached : Reached crowdedCalls {} crowded.predicates := rfl
  obtain ⟨-, -, apart⟩ := names_stay_apart reached
  have assembled : ∃ p, Plan.assemble crowded = .ok p ∧ p.params.map Param.name = crowdedNames :=
    ⟨_, rfl, by decide⟩
  obtain ⟨p, made, names⟩ := assembled
  refine ⟨reached, p, made, fun d => ⟨names, ?_⟩⟩
  rw [← names]
  exact (apart p d made).1

end Amend

/-
# Amend.Proofs.Targets — which columns a statement writes

A column is offered once and the key is left out by the names of the properties.
The columns that are written are looked up later, one by one, under the mapping
that is in force when the statement is built, and nothing keeps a mapping from
giving two properties one column.

So it is the names that are never repeated and never the key's.  For the columns
themselves that holds just where the mapping in force keeps those names and the
key apart (`targets_apart_iff`); a mapping that does not can have the key written,
or one column twice (`shared_columns_are_written`).
-/
import Amend.Proofs.Keywords
import Amend.Proofs.Renaming
import Amend.Proofs.Spelling

set_option autoImplicit false

namespace Amend

/-- The columns that an outline has behind SET, as they are written. -/
def Outline.targets (o : Outline) : List String := o.body.assignments.map fun entry => entry.1.sql

/-- Columns that are written once each, the key's among them not at all. -/
structure WrittenApart (targets : List String) (key : Option String) : Prop where
  once : targets.Nodup
  keyless : ∀ column ∈ key, column ∉ targets

/-- A renaming keeps names apart that differ. -/
def KeepsApart (columnOf : String → String) (names : List String) : Prop :=
  ∀ a ∈ names, ∀ b ∈ names, columnOf a = columnOf b → a = b

instance (columnOf : String → String) (names : List String) :
    Decidable (KeepsApart columnOf names) :=
  inferInstanceAs (Decidable (∀ a ∈ names, ∀ b ∈ names, columnOf a = columnOf b → a = b))

/-- Names that are written apart have columns that are just where these are kept apart. -/
theorem WrittenApart.map_iff {names : List String} {key : Option String}
    (apart : WrittenApart names key) (columnOf : String → String) :
    WrittenApart (names.map columnOf) (key.map columnOf)
      ↔ KeepsApart columnOf (key.toList ++ names) := by
  -- With the key in front of the names both sides are about one list and its columns.
  have distinct : (key.toList ++ names).Nodup := by
    cases key with
    | none => exact apart.once
    | some k => exact List.nodup_cons.2 ⟨apart.keyless k rfl, apart.once⟩
  have columns : WrittenApart (names.map columnOf) (key.map columnOf)
      ↔ ((key.toList ++ names).map columnOf).Nodup := by
    cases key with
    | none =>
        constructor
        · intro written
          exact written.once
        · intro once
          exact ⟨once, nofun⟩
    | some k =>
        simp only [Option.toList_some, List.singleton_append, List.map_cons, List.nodup_cons]
        constructor
        · intro written
          exact ⟨written.keyless _ rfl, written.once⟩
        · rintro ⟨keyless, once⟩
          refine ⟨once, ?_⟩
          rintro _ ⟨⟩
          exact keyless
  rw [columns, List.nodup_map_iff_inj_on distinct]
  rfl

/-- The key is not among the names to be set, and none of these is repeated. -/
theorem writtenApart_namesToSet (entity : Entity) (accepted : List Call) :
    WrittenApart (namesToSet entity accepted) (keyOf entity accepted) where
  once := nodup_namesToSet entity accepted
  keyless := by
    intro key named member
    have other := (List.mem_filter.1 member).2
    rw [Option.mem_def.1 named] at other
    simp at other

namespace Query

/-- The columns that a statement writes are those of the names to be set. -/
theorem targets_of_build {entity : Entity} {row : Option Row} {calls : List Call}
    {database : String} {s : Statement}
    (built : ((start entity row).runInPlace calls).build database = .ok s) :
    ∃ o, Outline.read? s.sql = some o
      ∧ o.targets = (namesToSet entity ((start entity row).succeeding calls)).map
        (columnFor entity (((start entity row).succeeding calls).flatMap Call.pairs)) := by
  have gathered := gathered_history entity row calls
  obtain ⟨values, table, o, -, read, -, spells, -⟩ :=
    outline_of_build (predicates_runInPlace entity row calls) built
  have set := spells.columns
  simp only [source, gathered.names] at set
  refine ⟨o, read, map_eq_of_forall₂ set ?_⟩
  intro property entry column
  rw [← gathered.mapping]
  exact Ident.sql_of_parse (Ident.read_eq_ok.1 column)

/-- **The names that a statement sets are never repeated and never the key's; its columns are such
just where the mapping keeps them apart.**  Whatever calls are made on a new query, and however many
of them fail, a statement that is built writes for each name the column that it has under the
mapping in force.  These are written once each, and the column of the key is not among them, just
when that mapping gives the names and the key columns that differ. -/
theorem targets_apart_iff {entity : Entity} {row : Option Row} {calls : List Call}
    {database : String} {s : Statement}
    (built : ((start entity row).runInPlace calls).build database = .ok s) :
    let accepted := (start entity row).succeeding calls
    let columnOf := columnFor entity (accepted.flatMap Call.pairs)
    let names := namesToSet entity accepted
    let key := keyOf entity accepted
    ∃ o, Outline.read? s.sql = some o ∧ o.targets = names.map columnOf
      ∧ WrittenApart names key
      ∧ (WrittenApart o.targets (key.map columnOf)
        ↔ KeepsApart columnOf (key.toList ++ names)) := by
  intro accepted columnOf names key
  obtain ⟨o, read, targets⟩ := targets_of_build built
  have apart : WrittenApart names key := writtenApart_namesToSet entity accepted
  refine ⟨o, read, targets, apart, ?_⟩
  rw [targets]
  exact apart.map_iff columnOf

theorem crew_columns_apart :
    ∃ s o, ((start crew (some echo)).runInPlace crewCalls).build "db" = .ok s
      ∧ Outline.read? s.sql = some o ∧ o.targets = ["full_name", "left_at"]
      ∧ WrittenApart o.targets (some "Id") := by
  have built : ((start crew (some echo)).runInPlace crewCalls).build "db" = .ok _ := rfl
  obtain ⟨o, read, targets, -, apart⟩ := targets_apart_iff built
  exact ⟨_, o, built, read, targets, apart.2 (by decide +kernel)⟩

/-- Three names, of which one is given the column of the key and another that of the third. -/
def sharedCalls : List Call :=
  [.identity "Id", .addColumns ["Name", "Age", "Nickname"], .mapColumn "Name" "Id",
    .mapColumn "Nickname" "Age"]

/-- Where a mapping gives two names one column it is written twice, the key's with the others. -/
theorem shared_columns_are_written :
    ∃ s o, ((start person (some echo)).runInPlace sharedCalls).build "db" = .ok s
      ∧ s.sql = "UPDATE db.public.T SET Id = $1, Age = $2, Age = $3"
      ∧ Outline.read? s.sql = some o ∧ o.targets = ["Id", "Age", "Age"]
      ∧ ((start person (some echo)).runInPlace sharedCalls).identity = some "Id"
      ∧ ((start person (some echo)).runInPlace sharedCalls).mapping.resolve "Id" = "Id"
      ∧ ¬o.targets.Nodup ∧ "Id" ∈ o.targets := by
  have built : ((start person (some echo)).runInPlace sharedCalls).build "db" = .ok _ := rfl
  obtain ⟨o, read, targets⟩ := targets_of_build built
  have written : o.targets = ["Id", "Age", "Age"] := targets
  refine ⟨_, o, built, rfl, read, written, rfl, rfl, ?_, ?_⟩
  · rw [written]
    decide
  · rw [written]
    decide

end Query

end Amend

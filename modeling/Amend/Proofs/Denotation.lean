/-
# Amend.Proofs.Denotation — which database a statement is about

A server folds the letters of a plain identifier to small ones before it looks the
name up, and takes a quoted one as it stands (`Ident.denoted`).  So a name that is
reported by a server and written plainly denotes itself only where it has no
capital.

`quoteIfNeeded` writes plainly what can be written plainly, and looks at no letter
beyond that.  A name is lost on the way just when it has the form of a plain
identifier and a capital in it (`FoldedAway`); any other is denoted by what stands
in front of the schema and the table.
-/
import Amend.Proofs.Keywords
import Amend.Proofs.SetList
import Amend.Proofs.Spelling

set_option autoImplicit false

namespace Amend

namespace Ident

/-- What an identifier is looked up as: a plain one with its capitals made small, a quoted one as it
is named. -/
def denoted : Ident → String
  | plain name => String.ofList (name.toList.map Char.toLower)
  | quoted name => name

/-- A text spells an identifier that is looked up as a name. -/
def Denotes (text : List Char) (name : String) : Prop :=
  ∃ i, Spelling text i ∧ i.denoted = name

def IsCapital (c : Char) : Prop := 'A' ≤ c ∧ c ≤ 'Z'

/-- A name that can be written plainly and then is looked up as another: it has a capital. -/
def FoldedAway (name : String) : Prop := IsPlain name.toList ∧ ∃ c ∈ name.toList, IsCapital c

/-! ## Folding -/

/-- A capital is 32 places in front of its small letter, and no other character is moved. -/
theorem toLower_eq_self_iff {c : Char} : c.toLower = c ↔ ¬IsCapital c := by
  unfold Char.toLower
  constructor
  · rintro same ⟨low, high⟩
    rw [dif_pos ⟨low, high⟩] at same
    -- The sum is taken in 32 bits, and a capital is far from the end of them.
    have moved := congrArg (fun c : Char => c.val.toNat) same
    have places : ('a'.val - 'A'.val).toNat = 32 := rfl
    have bound := c.val.toNat_lt
    simp only [UInt32.toNat_add, places] at moved
    omega
  · intro small
    exact dif_neg small

theorem denoted_plain_iff {name : String} :
    (plain name).denoted = name ↔ ∀ c ∈ name.toList, ¬IsCapital c := by
  rw [denoted, ← String.toList_inj, String.toList_ofList]
  constructor
  · intro same c member
    have each := List.map_eq_map_iff.1 (same.trans (List.map_id name.toList).symm)
    exact toLower_eq_self_iff.1 (each c member)
  · intro small
    have each : ∀ c ∈ name.toList, c.toLower = id c :=
      fun c member => toLower_eq_self_iff.2 (small c member)
    exact (List.map_congr_left each).trans (List.map_id name.toList)

/-- What is written is looked up as one name. -/
theorem denotes_sql_iff {i : Ident} (formed : i.WellFormed) {name : String} :
    Denotes i.sql.toList name ↔ i.denoted = name := by
  constructor
  · rintro ⟨j, spelled, rfl⟩
    obtain ⟨formed', same⟩ := spelling_iff.1 spelled
    have parsed := parse_sql formed'
    rw [String.toList_inj.1 same, parse_sql formed] at parsed
    cases parsed
    rfl
  · intro found
    exact ⟨i, spelling_iff.2 ⟨formed, rfl⟩, found⟩

/-- **A name that is quoted where it has to be is denoted unless it is folded away.** -/
theorem denotes_quoteIfNeeded_iff {name : String} {i : Ident} (made : quoteIfNeeded name = .ok i) :
    Denotes i.sql.toList name ↔ ¬FoldedAway name := by
  rw [denotes_sql_iff (wellFormed_of_quoteIfNeeded made)]
  rcases quoteIfNeeded_cases made with ⟨plain, rfl⟩ | ⟨other, rfl⟩
  · rw [denoted_plain_iff, FoldedAway]
    simp [plain]
  · refine iff_of_true rfl ?_
    rintro ⟨plain, -⟩
    exact other plain

end Ident

namespace Query

theorem database_of_target {q : Query} {database : String} {table : QualifiedTable}
    (named : q.target database = .ok table) :
    Ident.quoteIfNeeded database = .ok table.database := by
  obtain ⟨first, quoted, named⟩ := bind_eq_ok.1 named
  obtain ⟨schema, -, named⟩ := bind_eq_ok.1 named
  obtain ⟨own, -, named⟩ := bind_eq_ok.1 named
  cases named
  rw [mapError_eq_ok] at quoted
  exact quoted

/-- The text of a statement that is built has the database in front that it was built against. -/
theorem database_of_build {q : Query} {declared : List (Joiner × Expr)} {database : String}
    {s : Statement} (reached : q.predicates = Predicates.after declared)
    (built : q.build database = .ok s) :
    ∃ o, Outline.read? s.sql = some o
      ∧ Ident.quoteIfNeeded database = .ok o.table.database := by
  obtain ⟨row, table, p, -, named, made, rfl⟩ := plan_of_build built
  have formed := wellFormed_of_assemble (reached_source reached table row) made
  obtain ⟨rfl, -, -, -⟩ := parts_of_assemble made
  have tableFormed := (target_eq_ok named).wellFormed
  exact ⟨p.outline q.config.dialect, Plan.read?_render formed tableFormed _,
    database_of_target named⟩

/-- **A statement is about the database it was built against unless the name is folded away.**  Any
name with characters, none of them NUL, can be put in front; what every statement that is built has
there is looked up as that name just when the name is no plain identifier or has no capital. -/
theorem database_denotes_iff (name : String) (nonempty : name ≠ "")
    (noNul : '\x00' ∉ name.toList) :
    ∃ i, Ident.quoteIfNeeded name = .ok i
      ∧ (Ident.Denotes i.sql.toList name ↔ ¬Ident.FoldedAway name)
      ∧ ∀ entity row calls s, ((start entity row).runInPlace calls).build name = .ok s →
        ∃ o, Outline.read? s.sql = some o ∧ o.table.database = i := by
  obtain ⟨i, made⟩ := Ident.isOk_quoteIfNeeded.2 ⟨nonempty, noNul⟩
  refine ⟨i, made, Ident.denotes_quoteIfNeeded_iff made, ?_⟩
  intro entity row calls s built
  obtain ⟨o, read, quoted⟩ := database_of_build (predicates_runInPlace entity row calls) built
  exact ⟨o, read, Except.ok.inj (quoted.symm.trans made)⟩

theorem quoted_database_is_denoted :
    ∃ i s o, Ident.quoteIfNeeded "My Db" = .ok i ∧ i.sql = "\"My Db\""
      ∧ Ident.Denotes i.sql.toList "My Db"
      ∧ ((start crew (some echo)).runInPlace crewCalls).build "My Db" = .ok s
      ∧ Outline.read? s.sql = some o ∧ o.table.database = i := by
  obtain ⟨i, made, denotes, fronts⟩ := database_denotes_iff "My Db" (by decide) (by decide)
  cases made
  obtain ⟨o, read, front⟩ := fronts crew (some echo) crewCalls _ rfl
  refine ⟨_, _, o, rfl, rfl, denotes.2 ?_, rfl, read, front⟩
  rintro ⟨plain, -⟩
  have read : Ident.parse "My Db" = .ok (.plain "My Db") :=
    Ident.parse_eq_ok_iff.2 ⟨rfl, plain⟩
  cases read

/-- A name with capitals that is written plainly is looked up as another. -/
theorem capitals_are_folded_away :
    ∃ i s, Ident.quoteIfNeeded "MyDb" = .ok i
      ∧ ((start person (some tom)).runInPlace [.addColumns ["Name"]]).build "MyDb" = .ok s
      ∧ s.sql = "UPDATE MyDb.public.T SET Name = $1"
      ∧ Ident.Denotes i.sql.toList "mydb" ∧ ¬Ident.Denotes i.sql.toList "MyDb" := by
  have made : Ident.quoteIfNeeded "MyDb" = .ok (.plain "MyDb") := rfl
  have formed := Ident.wellFormed_of_quoteIfNeeded made
  refine ⟨_, _, made, rfl, rfl, (Ident.denotes_sql_iff formed).2 (by decide), ?_⟩
  intro denotes
  have kept : (Ident.plain "MyDb").denoted = "MyDb" := (Ident.denotes_sql_iff formed).1 denotes
  exact absurd kept (by decide)

end Query

end Amend

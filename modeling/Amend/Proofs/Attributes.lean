/-
# Amend.Proofs.Attributes — what attributes say

`settings` goes over the tokens of an attribute one setting at a time and leaves
open what it lets pass.  `Listed` says without the walk which tokens list some
settings: the settings as they are written, commas between them, and perhaps one
more behind the last.

The settings of several attributes are read apart and merged.  Only what they list
altogether matters, not how it is spread over them: the marks of all of them, and of
each name the last (`settings_are_understood`).
-/
import Amend.Proofs.Deriving

set_option autoImplicit false

namespace Amend.Declaration

/-! ## Lists of settings -/

section Lists

variable {α : Type} {read : Reader α} {written : α → List Token}

/-- A reader takes just what is written for a setting from the front, which is never nothing. -/
structure Reads (read : Reader α) (written : α → List Token) : Prop where
  eq_ok : ∀ {tokens s rest}, read tokens = .ok (s, rest) ↔ tokens = written s ++ rest
  nonempty : ∀ s, written s ≠ []

/-- Tokens list settings: commas stand between them, and one more may stand behind the last. -/
def Listed (written : α → List Token) (l : List α) (tokens : List Token) : Prop :=
  tokens = [Token.punct ','].intercalate (l.map written)
    ∨ l ≠ [] ∧ tokens = [Token.punct ','].intercalate (l.map written) ++ [.punct ',']

instance [DecidableEq α] (written : α → List Token) (l : List α) (tokens : List Token) :
    Decidable (Listed written l tokens) :=
  inferInstanceAs (Decidable (_ ∨ _ ∧ _))

theorem listed_nil {tokens : List Token} : Listed written [] tokens ↔ tokens = [] := by
  simp [Listed]

/-- Behind a setting the list ends, or it goes on behind a comma. -/
theorem listed_cons {s : α} {l : List α} {tokens : List Token} :
    Listed written (s :: l) tokens
      ↔ (l = [] ∧ tokens = written s)
        ∨ ∃ rest, tokens = written s ++ .punct ',' :: rest ∧ Listed written l rest := by
  cases l with
  | nil => simp [Listed]
  | cons s' l =>
      have joined : [Token.punct ','].intercalate ((s :: s' :: l).map written)
          = written s ++ .punct ',' :: [Token.punct ','].intercalate ((s' :: l).map written) := by
        simp [List.intercalate]
      simp only [Listed, joined]
      simp only [ne_eq, reduceCtorEq, not_false_eq_true, true_and, false_and, false_or,
        List.append_assoc, List.cons_append]
      constructor
      · rintro (rfl | rfl)
        · exact ⟨_, rfl, .inl rfl⟩
        · exact ⟨_, rfl, .inr rfl⟩
      · rintro ⟨rest, rfl, rfl | rfl⟩
        · exact .inl rfl
        · exact .inr rfl

/-- No tokens list no settings only. -/
theorem Reads.listed_nil_right (reads : Reads read written) {l : List α} :
    Listed written l [] ↔ l = [] := by
  cases l with
  | nil => simp [listed_nil]
  | cons s l =>
      have written := reads.nonempty s
      simp [listed_cons, written.symm]

/-- A setting leaves fewer tokens than there were. -/
theorem Reads.length_lt (reads : Reads read written) {tokens rest : List Token} {s : α}
    (taken : read tokens = .ok (s, rest)) : rest.length < tokens.length := by
  have first := List.length_pos_iff.2 (reads.nonempty s)
  rw [reads.eq_ok.1 taken, List.length_append]
  omega

theorem readPunct_eq_ok {c : Char} {tokens rest : List Token} :
    readPunct c tokens = .ok rest ↔ tokens = .punct c :: rest := by
  unfold readPunct
  split
  · split
    · simp_all
    · simp_all
  · simp_all

/-- A round of the walk takes a setting and, where tokens follow it, a comma. -/
theorem settingsWithin_succ_eq_ok {limit : Nat} {tokens : List Token} (more : tokens ≠ [])
    {l : List α} :
    settingsWithin read (limit + 1) tokens = .ok l
      ↔ ∃ s rest, read tokens = .ok (s, rest)
        ∧ ((rest = [] ∧ l = [s])
          ∨ ∃ behind others, rest = .punct ',' :: behind
            ∧ settingsWithin read limit behind = .ok others ∧ l = s :: others) := by
  obtain ⟨token, tokens, rfl⟩ := List.exists_cons_of_ne_nil more
  simp only [settingsWithin]
  rw [bind_eq_ok, Prod.exists]
  refine exists_congr fun s => exists_congr fun rest => and_congr_right fun _ => ?_
  cases rest with
  | nil =>
      rw [pure_eq_ok]
      simp [@eq_comm _ [s]]
  | cons token rest =>
      rw [bind_eq_ok]
      simp only [bind_eq_ok, pure_eq_ok, readPunct_eq_ok, @eq_comm _ l, reduceCtorEq, false_and,
        false_or, exists_and_left]

/-- **The walk reads just the tokens that list settings**, if it goes far enough. -/
theorem Reads.settingsWithin_eq_ok (reads : Reads read written) {limit : Nat}
    {tokens : List Token} (enough : tokens.length ≤ limit) {l : List α} :
    settingsWithin read limit tokens = .ok l ↔ Listed written l tokens := by
  induction limit generalizing tokens l with
  | zero =>
      obtain rfl := List.eq_nil_of_length_eq_zero (Nat.le_zero.1 enough)
      simp [settingsWithin, reads.listed_nil_right, eq_comm]
  | succ limit ih =>
      by_cases empty : tokens = []
      · subst empty
        simp [settingsWithin, reads.listed_nil_right, eq_comm]
      · have later : ∀ {s behind others}, read tokens = .ok (s, .punct ',' :: behind) →
            (settingsWithin read limit behind = .ok others ↔ Listed written others behind) := by
          intro s behind others taken
          have less := reads.length_lt taken
          exact ih (by rw [List.length_cons] at less; omega)
        rw [settingsWithin_succ_eq_ok empty]
        constructor
        · rintro ⟨s, rest, taken, ⟨rfl, rfl⟩ | ⟨behind, others, rfl, walked, rfl⟩⟩
          · exact listed_cons.2 (.inl ⟨rfl, by simpa using reads.eq_ok.1 taken⟩)
          · exact listed_cons.2 (.inr ⟨behind, reads.eq_ok.1 taken, (later taken).1 walked⟩)
        · intro listed
          cases l with
          | nil => exact absurd (listed_nil.1 listed) empty
          | cons s others =>
              obtain ⟨rfl, rfl⟩ | ⟨behind, tokens_eq, rest⟩ := listed_cons.1 listed
              · exact ⟨s, [], reads.eq_ok.2 (List.append_nil _).symm, .inl ⟨rfl, rfl⟩⟩
              · have taken := reads.eq_ok.2 tokens_eq
                exact ⟨s, _, taken, .inr ⟨behind, others, rfl, (later taken).2 rest, rfl⟩⟩

theorem Reads.settings_eq_ok (reads : Reads read written) {tokens : List Token} {l : List α} :
    settings read tokens = .ok l ↔ Listed written l tokens :=
  reads.settingsWithin_eq_ok le_rfl

/-- Each round takes a token at least, so that no bound on the rounds beyond the number of the
tokens makes a difference: the walk ends by itself, also where it ends with a fault. -/
theorem Reads.settingsWithin_of_le (reads : Reads read written) {limit limit' : Nat}
    {tokens : List Token} (enough : tokens.length ≤ limit) (enough' : tokens.length ≤ limit') :
    settingsWithin read limit tokens = settingsWithin read limit' tokens := by
  induction limit generalizing tokens limit' with
  | zero =>
      obtain rfl := List.eq_nil_of_length_eq_zero (Nat.le_zero.1 enough)
      simp [settingsWithin]
  | succ limit ih =>
      cases tokens with
      | nil => simp [settingsWithin]
      | cons token tokens =>
          obtain ⟨limit', rfl⟩ := Nat.exists_eq_add_one.2 (Nat.lt_of_lt_of_le (by simp) enough')
          have later : ∀ {s rest behind}, read (token :: tokens) = .ok (s, rest) →
              readPunct ',' rest = .ok behind →
              settingsWithin read limit behind = settingsWithin read limit' behind := by
            intro s rest behind taken comma
            have less := reads.length_lt taken
            rw [readPunct_eq_ok.1 comma, List.length_cons] at less
            exact ih (by omega) (by omega)
          simp only [settingsWithin]
          refine bind_congr_of_ok fun (s, rest) taken => ?_
          cases rest with
          | nil => rfl
          | cons first rest => exact bind_congr_of_ok fun behind comma => by rw [later taken comma]

/-- An attribute holds settings: they are listed in parentheses. -/
def Attribute.Holds (written : α → List Token) (a : Attribute) (l : List α) : Prop :=
  a.style = .list ∧ Listed written l a.tokens

theorem Reads.attribute_eq_ok (reads : Reads read written) {a : Attribute} {l : List α} :
    a.settings read = .ok l ↔ a.Holds written l := by
  unfold Attribute.settings Attribute.Holds
  cases a.style with
  | list => simpa using reads.settings_eq_ok
  | value | bare => simp

/-- The settings of several attributes are those that each of them holds. -/
theorem Reads.settingsOf_iff (reads : Reads read written) {attributes : List Attribute}
    {l : List α} :
    Readable read attributes ∧ l = settingsOf read attributes
      ↔ ∃ lists, List.Forall₂ (Attribute.Holds written) (attributes.filter (·.path == "orm")) lists
        ∧ l = lists.flatten := by
  rw [readable_iff, settingsOf]
  generalize attributes.filter (·.path == "orm") = own
  induction own generalizing l with
  | nil => simp
  | cons a rest ih =>
      rw [List.forall_mem_cons, List.flatMap_cons]
      constructor
      · rintro ⟨⟨⟨here, held⟩, others⟩, rfl⟩
        obtain ⟨lists, each, joined⟩ := ih.1 ⟨others, rfl⟩
        refine ⟨here :: lists, .cons (reads.attribute_eq_ok.1 held) each, ?_⟩
        rw [held, List.flatten_cons, ← joined]
        rfl
      · rintro ⟨lists, each, rfl⟩
        obtain ⟨here, lists, held, each', rfl⟩ := List.forall₂_cons_left_iff.1 each
        have held := reads.attribute_eq_ok.2 held
        obtain ⟨others, joined⟩ := ih.2 ⟨lists, each', rfl⟩
        refine ⟨⟨⟨here, held⟩, others⟩, ?_⟩
        rw [held, List.flatten_cons, joined]
        rfl

/-! ## What attributes say -/

/-- How settings of one kind are understood: `said` is what attributes say, and `total` what comes
of settings in order. -/
structure Understood {β : Type} (read : Reader α) (written : α → List Token) (total : List α → β)
    (said : List Attribute → Except SyntaxFault β) : Prop where
  /-- Of all tokens just those are read that list settings. -/
  reads : ∀ tokens l, settings read tokens = .ok l ↔ Listed written l tokens
  /-- To go on for longer than there are tokens makes no difference. -/
  ends : ∀ tokens limit, tokens.length ≤ limit →
    settingsWithin read limit tokens = settings read tokens
  /-- Attributes say what comes of the settings that the `orm` ones among them hold. -/
  adds : ∀ attributes b, said attributes = .ok b
    ↔ ∃ lists, List.Forall₂ (Attribute.Holds written) (attributes.filter (·.path == "orm")) lists
      ∧ b = total lists.flatten
  /-- That is what a single attribute says that lists the same settings. -/
  gathers : ∀ attributes lists tokens,
    List.Forall₂ (Attribute.Holds written) (attributes.filter (·.path == "orm")) lists →
    Listed written lists.flatten tokens →
    said attributes = .ok (total lists.flatten) ∧ said [⟨"orm", .list, tokens⟩] = said attributes

theorem Reads.understood {β : Type} (reads : Reads read written) {total : List α → β}
    {said : List Attribute → Except SyntaxFault β}
    (sums : ∀ {attributes b}, said attributes = .ok b
      ↔ Readable read attributes ∧ b = total (settingsOf read attributes)) :
    Understood read written total said := by
  have adds : ∀ attributes b, said attributes = .ok b
      ↔ ∃ lists, List.Forall₂ (Attribute.Holds written) (attributes.filter (·.path == "orm")) lists
        ∧ b = total lists.flatten := by
    intro attributes b
    rw [sums]
    constructor
    · rintro ⟨readable, rfl⟩
      obtain ⟨lists, each, joined⟩ := reads.settingsOf_iff.1 ⟨readable, rfl⟩
      exact ⟨lists, each, congrArg total joined⟩
    · rintro ⟨lists, each, rfl⟩
      obtain ⟨readable, joined⟩ := reads.settingsOf_iff.2 ⟨lists, each, rfl⟩
      exact ⟨readable, congrArg total joined⟩
  refine ⟨fun _ _ => reads.settings_eq_ok, fun _ _ => (reads.settingsWithin_of_le · le_rfl), adds,
    fun attributes lists tokens each listed => ?_⟩
  have apart := (adds attributes _).2 ⟨lists, each, rfl⟩
  have alone : said [⟨"orm", .list, tokens⟩] = .ok (total lists.flatten) :=
    (adds _ _).2 ⟨[lists.flatten], by simpa [Attribute.Holds] using listed, by simp⟩
  exact ⟨apart, alone.trans apart.symm⟩

end Lists

/-! ## The settings of items and fields -/

theorem readName_eq_ok {tokens rest : List Token} {s : String} :
    readName tokens = .ok (s, rest) ↔ s ∉ keywords ∧ tokens = .name s :: rest := by
  unfold readName
  split
  · rename_i name behind
    simp only [Token.name.injEq, List.cons.injEq]
    by_cases keyword : name ∈ keywords
    · have other : s ∉ keywords → name ≠ s := fun h same => h (same ▸ keyword)
      simpa [keyword] using fun h same => absurd same (other h)
    · have free : name = s → s ∉ keywords := fun same => same ▸ keyword
      simpa [keyword] using fun same _ => free same
  · rename_i other
    exact iff_of_false nofun fun named => other _ _ named.2

theorem readText_eq_ok {tokens rest : List Token} {s : String} :
    readText tokens = .ok (s, rest) ↔ tokens = .text s :: rest := by
  unfold readText
  split
  · simp
  · simp
  · rename_i other _
    exact iff_of_false nofun (other _ _)

theorem readAssigned_eq_ok {tokens rest : List Token} {s : String} :
    readAssigned tokens = .ok (s, rest) ↔ tokens = .punct '=' :: .text s :: rest := by
  unfold readAssigned
  simp only [bind_eq_ok, readPunct_eq_ok, readText_eq_ok]
  constructor
  · rintro ⟨_, rfl, rfl⟩
    rfl
  · rintro rfl
    exact ⟨_, rfl, rfl⟩

def TableSetting.written : TableSetting → List Token
  | .table name => [.name "table", .punct '=', .text name]
  | .schema name => [.name "schema", .punct '=', .text name]

def FieldSetting.written : FieldSetting → List Token
  | .id => [.name "id"]
  | .skip => [.name "skip"]
  | .column name => [.name "column", .punct '=', .text name]

theorem readTableSetting_reads : Reads readTableSetting TableSetting.written where
  eq_ok := by
    intro tokens s rest
    unfold readTableSetting
    rw [bind_eq_ok, Prod.exists]
    constructor
    · rintro ⟨key, behind, named, taken⟩
      obtain ⟨⟨value, _⟩, assigned, taken⟩ := bind_eq_ok.1 taken
      rw [(readName_eq_ok.1 named).2, readAssigned_eq_ok.1 assigned]
      dsimp only at taken
      split at taken
      · cases taken
        simp [TableSetting.written, *]
      · split at taken
        · cases taken
          simp [TableSetting.written, *]
        · cases taken
    · rintro rfl
      cases s with
      | table name =>
          exact ⟨"table", _, readName_eq_ok.2 ⟨by decide, rfl⟩,
            bind_eq_ok.2 ⟨(name, rest), readAssigned_eq_ok.2 rfl, rfl⟩⟩
      | schema name =>
          exact ⟨"schema", _, readName_eq_ok.2 ⟨by decide, rfl⟩,
            bind_eq_ok.2 ⟨(name, rest), readAssigned_eq_ok.2 rfl, rfl⟩⟩
  nonempty s := by cases s <;> exact List.cons_ne_nil _ _

theorem readFieldSetting_reads : Reads readFieldSetting FieldSetting.written where
  eq_ok := by
    intro tokens s rest
    unfold readFieldSetting
    rw [bind_eq_ok, Prod.exists]
    constructor
    · rintro ⟨key, behind, named, taken⟩
      rw [(readName_eq_ok.1 named).2]
      dsimp only at taken
      split at taken
      · cases taken
        simp [FieldSetting.written, *]
      · split at taken
        · cases taken
          simp [FieldSetting.written, *]
        · split at taken
          · obtain ⟨⟨value, _⟩, assigned, taken⟩ := bind_eq_ok.1 taken
            rw [readAssigned_eq_ok.1 assigned]
            cases taken
            simp [FieldSetting.written, *]
          · cases taken
    · rintro rfl
      cases s with
      | id => exact ⟨"id", rest, readName_eq_ok.2 ⟨by decide, rfl⟩, rfl⟩
      | skip => exact ⟨"skip", rest, readName_eq_ok.2 ⟨by decide, rfl⟩, rfl⟩
      | column name =>
          exact ⟨"column", _, readName_eq_ok.2 ⟨by decide, rfl⟩,
            bind_eq_ok.2 ⟨(name, rest), readAssigned_eq_ok.2 rfl, rfl⟩⟩
  nonempty s := by cases s <;> exact List.cons_ne_nil _ _

/-- **Attributes are understood by what they list altogether.**  An attribute of a field is read
just where it lists `id`, `skip` and columns, and one of an item where it lists tables and schemas,
in any order and as often as one likes, with commas between them and perhaps one at the end; the
walk over the tokens ends by itself.  Several attributes say what one would say that listed the
settings of all, whatever attributes of other paths stand between them: each mark of any of them,
and of each name the last. -/
theorem settings_are_understood :
    Understood readFieldSetting FieldSetting.written FieldRole.ofSettings fieldRole
      ∧ Understood readTableSetting TableSetting.written TableNames.ofSettings tableNames :=
  ⟨readFieldSetting_reads.understood fieldRole_eq_ok,
    readTableSetting_reads.understood tableNames_eq_ok⟩

/-- A key named twice over, in attributes of which one is empty and one is of another path. -/
def scattered : List Attribute :=
  [⟨"orm", .list,
      [.name "id", .punct ',', .name "column", .punct '=', .text "left", .punct ',']⟩,
    ⟨"serde", .list, [.name "skip"]⟩,
    ⟨"orm", .list, []⟩,
    ⟨"orm", .list, [.name "column", .punct '=', .text "right", .punct ',', .name "id"]⟩]

theorem scattered_as_one :
    fieldRole scattered = .ok ⟨true, false, some "right"⟩
      ∧ fieldRole [⟨"orm", .list, [.name "id", .punct ',', .name "column", .punct '=', .text "left",
          .punct ',', .name "column", .punct '=', .text "right", .punct ',', .name "id"]⟩]
        = fieldRole scattered := by
  have held : List.Forall₂ (Attribute.Holds FieldSetting.written)
      (scattered.filter (·.path == "orm"))
      [[.id, .column "left"], [], [.column "right", .id]] :=
    .cons ⟨rfl, by decide⟩ (.cons ⟨rfl, by decide⟩ (.cons ⟨rfl, by decide⟩ .nil))
  exact settings_are_understood.1.gathers scattered _ _ held (by decide)

end Amend.Declaration

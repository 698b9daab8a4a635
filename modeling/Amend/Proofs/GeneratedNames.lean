/-
# Amend.Proofs.GeneratedNames — the names that an item gives to others

An item names a constant for each column of its entity, and the table where no
attribute does.  Both names are spelled from words, and spelling forgets the case of
a name and the underscores that stand in no place between words.

So constants are apart just when no two columns are of the same words, and a table
is an identifier just when the name of the item begins with a letter behind its
underscores (`constants_apart_iff`).  Columns that are spelled as they stand never
clash (`constants_apart_of_snake`).
-/
import Amend.Proofs.Deriving
import Amend.Proofs.Spelling
import Amend.Proofs.WordMarks

set_option autoImplicit false

namespace Amend.Declaration

open Ident (IsLetter IsDigit)

/-! ## Names in ASCII -/

instance : DecidablePred IsLetter := fun _ => inferInstanceAs (Decidable (_ ∨ _))

instance : DecidablePred IsDigit := fun _ => inferInstanceAs (Decidable (_ ∧ _))

/-- A name in ASCII that is not written raw: letters, digits and underscores, no digit in front. -/
def IsName (s : String) : Prop :=
  (∃ c ∈ s.toList.head?, c = '_' ∨ IsLetter c)
    ∧ ∀ c ∈ s.toList, c = '_' ∨ IsLetter c ∨ IsDigit c

-- over the characters of the name, not over all there are
instance (s : String) : Decidable (IsName s) :=
  @instDecidableAnd _ _ s.toList.head?.decidableExistsMem (List.decidableBAll _ s.toList)

/-- The first character of a name behind its underscores is a letter. -/
def BeginsWithLetter (s : String) : Prop := ∃ c ∈ s.toList.find? (· != '_'), IsLetter c

instance (s : String) : Decidable (BeginsWithLetter s) :=
  (s.toList.find? (· != '_')).decidableExistsMem

/-- No character up to a small `z` lies outside ASCII. -/
theorem toNat_lt_of_le {c : Char} (below : c ≤ 'z') : c.toNat < 0x80 :=
  Nat.lt_of_le_of_lt (UInt32.le_iff_toNat_le.1 (Char.le_def.1 below)) (by decide)

theorem IsName.isAscii {s : String} (name : IsName s) : Text.IsAscii s.toList := by
  intro c member
  refine toNat_lt_of_le ?_
  rcases name.2 c member with rfl | (⟨-, capital⟩ | ⟨-, small⟩) | ⟨-, digit⟩
  · decide
  · exact Char.le_trans capital (by decide)
  · exact small
  · exact Char.le_trans digit (by decide)

/-- The letters and numbers of a name are what is no underscore in it. -/
theorem IsName.isAlphanumeric_eq {s : String} (name : IsName s) {c : Char}
    (member : c ∈ s.toList) : Text.isAlphanumeric c = (c != '_') := by
  have allowed := name.2 c member
  revert allowed
  exact Text.ascii_induction (p := fun c => c = '_' ∨ IsLetter c ∨ IsDigit c →
    Text.isAlphanumeric c = (c != '_')) (by decide) (name.isAscii c member)

/-! ## Tables -/

/-- A letter or number in its small form: it is a letter just when it was one before. -/
theorem toLower_of_isAlphanumeric {c : Char} (ascii : c.toNat < 0x80)
    (letter : Text.isAlphanumeric c = true) :
    (IsLetter c.toLower ↔ IsLetter c) ∧ (IsLetter c.toLower ∨ IsDigit c.toLower) := by
  revert letter
  exact Text.ascii_induction (p := fun c => Text.isAlphanumeric c = true →
    (IsLetter c.toLower ↔ IsLetter c) ∧ (IsLetter c.toLower ∨ IsDigit c.toLower)) (by decide) ascii

/-- **In small letters a name is an identifier just when a letter is first behind its
underscores.** -/
theorem exists_parse_snake_iff {s : String} (name : IsName s) :
    (∃ t, Ident.parse (Text.snake s) = .ok t) ↔ BeginsWithLetter s := by
  have chars := Text.snake_eq name.isAscii
  have lowered : ∀ c ∈ s.toList, Text.isAlphanumeric c = true →
      (IsLetter c.toLower ↔ IsLetter c) ∧ (IsLetter c.toLower ∨ IsDigit c.toLower) :=
    fun c member => toLower_of_isAlphanumeric (name.isAscii c member)
  have first : (Text.snake s).toList.head? = (s.toList.find? (· != '_')).map Char.toLower := by
    rw [chars, Text.head?_spelled, List.find?_congr fun c member => name.isAlphanumeric_eq member]
  have found_letter : ∀ {c}, s.toList.find? (· != '_') = some c →
      c ∈ s.toList ∧ Text.isAlphanumeric c = true := by
    intro c found
    have member := List.mem_of_find?_eq_some found
    have passed := List.find?_some found
    exact ⟨member, (name.isAlphanumeric_eq member).trans passed⟩
  constructor
  · rintro ⟨t, parsed⟩
    obtain ⟨d, rest, begun, start⟩ := Ident.head_of_parse parsed
    rw [begun, List.head?_cons, eq_comm, Option.map_eq_some_iff] at first
    obtain ⟨c, found, rfl⟩ := first
    obtain ⟨member, letter⟩ := found_letter found
    obtain ⟨same, kind⟩ := lowered c member letter
    refine ⟨c, found, same.1 ?_⟩
    rcases kind with letter | digit
    · exact letter
    · rcases start with quote | start
      · exact absurd (quote ▸ digit) (by decide)
      · rcases Ident.isStart_iff.1 start with underscore | letter
        · exact absurd (underscore ▸ digit) (by decide)
        · exact letter
  · rintro ⟨c, found, letter⟩
    obtain ⟨member, alphanumeric⟩ := found_letter found
    rw [Option.mem_def.1 found, Option.map_some, List.head?_eq_some_iff] at first
    obtain ⟨rest, begun⟩ := first
    refine ⟨_, Ident.parse_plain ⟨_, rest, begun, ?_, fun d inside => ?_⟩⟩
    · exact Ident.isStart_iff.2 (.inr ((lowered c member alphanumeric).1.2 letter))
    · have spelled : d ∈ Text.spelled Char.toLower s := by rw [← chars, begun]; exact .tail _ inside
      rw [Ident.isPart_iff]
      rcases Text.mem_spelled spelled with rfl | ⟨e, within, kept, rfl⟩
      · exact .inl rfl
      · exact .inr (.inr (lowered e within kept).2)

/-! ## Constants -/

/-- **The constants of two columns have one name just when the columns are of the same words.** -/
theorem constantName_eq_iff {c c' : String} (ascii : Text.IsAscii c.toList)
    (ascii' : Text.IsAscii c'.toList) :
    constantName c = constantName c' ↔ Text.SameWords c c' := by
  rw [← Text.capitalSnake_eq_iff ascii ascii', constantName, constantName, ← String.toList_inj,
    String.toList_append, String.toList_append, List.append_cancel_left_eq, String.toList_inj]

/-- Each column has a constant. -/
theorem constants_eq {i : Item} {d : Derived} (made : i.derive = .ok d) :
    d.constants = d.entity.columns.map fun c => (constantName c, c) := by
  obtain ⟨fields, names, -, -, rfl⟩ := derive_eq_ok.1 made
  simp [Item.derivedOf, Function.comp_def]

theorem nodup_constants_iff {i : Item} {d : Derived} (made : i.derive = .ok d)
    (ascii : ∀ c ∈ d.entity.columns, Text.IsAscii c.toList) :
    (d.constants.map Prod.fst).Nodup
      ↔ d.entity.columns.Pairwise fun c c' => ¬Text.SameWords c c' := by
  rw [constants_eq made, List.map_map, List.Nodup, List.pairwise_map]
  exact List.Pairwise.iff_of_mem fun member member' =>
    not_congr (constantName_eq_iff (ascii _ member) (ascii _ member'))

/-- Columns whose names are spelled as they stand have constants of different names. -/
theorem constants_apart_of_snake {i : Item} {d : Derived} (made : i.derive = .ok d)
    (ascii : ∀ c ∈ d.entity.columns, Text.IsAscii c.toList)
    (snake : ∀ c ∈ d.entity.columns, Text.snake c = c) (distinct : d.entity.columns.Nodup) :
    (d.constants.map Prod.fst).Nodup := by
  rw [nodup_constants_iff made ascii]
  refine distinct.imp_of_mem fun {c c'} member member' different same => different ?_
  rw [← snake c member, ← snake c' member',
    Text.snake_eq_of_sameWords (ascii c member) (ascii c' member') same]

/-- The table that is named by no attribute. -/
theorem table_of_unnamed {i : Item} {d : Derived} (made : i.derive = .ok d)
    (unnamed : ∀ table, .table table ∉ settingsOf readTableSetting i.attributes) :
    d.entity.table = Text.snake i.name := by
  obtain ⟨fields, names, -, table, rfl⟩ := derive_eq_ok.1 made
  have nothing : names.table = none := by
    rw [(tableNames_eq_ok.1 table).2, TableNames.ofSettings, List.findSome?_eq_none_iff]
    intro setting member
    cases setting with
    | table name => exact absurd (List.mem_reverse.1 member) (unnamed name)
    | schema => rfl
  simp [Item.derivedOf, nothing]

/-- **Which names an item gives.**  The constants of an entity stand for its columns, which are the
fields that are kept, and each is named by the words of its column in capital letters: they are
apart just when no two columns are of the same words.  A table that no attribute names has the words
of the name of the item in small letters, and is an identifier just when a letter is first in that
name behind its underscores. -/
theorem constants_apart_iff {i : Item} {d : Derived} (made : i.derive = .ok d)
    (columns : ∀ c ∈ d.entity.columns, IsName c) :
    (∃ fields, i.shape = .struct fields ∧ d.entity.columns = (kept fields).map Field.property)
      ∧ d.constants.map Prod.snd = d.entity.columns
      ∧ (∀ k ∈ d.constants, k.1.toList = "COL_".toList ++ Text.spelled Char.toUpper k.2)
      ∧ ((d.constants.map Prod.fst).Nodup
        ↔ d.entity.columns.Pairwise fun c c' => ¬Text.SameWords c c')
      ∧ (IsName i.name → (∀ table, .table table ∉ settingsOf readTableSetting i.attributes) →
        d.entity.table = Text.snake i.name
          ∧ d.entity.table.toList = Text.spelled Char.toLower i.name
          ∧ ((∃ t, Ident.parse d.entity.table = .ok t) ↔ BeginsWithLetter i.name)) := by
  have ascii : ∀ c ∈ d.entity.columns, Text.IsAscii c.toList := fun c member =>
    (columns c member).isAscii
  refine ⟨?_, ?_, ?_, nodup_constants_iff made ascii, fun item unnamed => ?_⟩
  · obtain ⟨fields, names, derivable, -, rfl⟩ := derive_eq_ok.1 made
    exact ⟨fields, derivable.shape, rfl⟩
  · simp [constants_eq made, Function.comp_def]
  · intro k member
    rw [constants_eq made] at member
    obtain ⟨c, inside, rfl⟩ := List.mem_map.1 member
    rw [constantName, String.toList_append, Text.capitalSnake_eq (ascii c inside)]
  · rw [table_of_unnamed made unnamed]
    exact ⟨rfl, Text.snake_eq item.isAscii, exists_parse_snake_iff item⟩

/-- An item whose name and whose columns run several words together. -/
def journal : Item where
  name := "_HTTPLog2"
  shape := .struct [⟨"id", []⟩, ⟨"UserName", []⟩, ⟨"r#type", []⟩,
    ⟨"_id", [⟨"orm", .list, [.name "skip"]⟩]⟩, ⟨"user_names", []⟩]

theorem journal_names :
    ∃ d, journal.derive = .ok d
      ∧ d.constants = [("COL_ID", "id"), ("COL_USER_NAME", "UserName"), ("COL_TYPE", "type"),
        ("COL_USER_NAMES", "user_names")]
      ∧ (d.constants.map Prod.fst).Nodup
      ∧ d.entity.table = "http_log2" ∧ ∃ t, Ident.parse d.entity.table = .ok t := by
  obtain ⟨d, made⟩ : ∃ d, journal.derive = .ok d := ⟨_, rfl⟩
  have columns : d.entity.columns = ["id", "UserName", "type", "user_names"] := by
    cases made
    rfl
  obtain ⟨-, -, -, apart, table⟩ := constants_apart_iff made (by rw [columns]; decide)
  obtain ⟨-, -, parses⟩ := table (by decide) nofun
  refine ⟨d, made, ?_, apart.2 (by rw [columns]; decide), ?_, parses.2 (by decide)⟩
  · cases made
    decide
  · cases made
    decide

/-- An item with two columns of one word. -/
def clashing : Item where
  name := "Item"
  shape := .struct [⟨"total", []⟩, ⟨"_total", []⟩]

/-- An item in whose name a number is first. -/
def numbered : Item where
  name := "_1"
  shape := .struct [⟨"total", []⟩]

theorem names_clash_or_are_none :
    (∃ d fields, clashing.derive = .ok d ∧ clashing.shape = .struct fields ∧ IsName clashing.name
        ∧ (∀ f ∈ fields, IsName f.property) ∧ (fields.map Field.property).Nodup
        ∧ ¬(d.constants.map Prod.fst).Nodup)
      ∧ ∃ d fields, numbered.derive = .ok d ∧ numbered.shape = .struct fields
        ∧ IsName numbered.name ∧ (∀ f ∈ fields, IsName f.property)
        ∧ (fields.map Field.property).Nodup ∧ numbered.attributes = []
        ∧ ¬∃ t, Ident.parse d.entity.table = .ok t := by
  have clashes : ∃ d, clashing.derive = .ok d ∧ ¬(d.constants.map Prod.fst).Nodup :=
    ⟨_, rfl, by decide⟩
  have refused : ∃ d, numbered.derive = .ok d ∧ d.entity.table = "1" := ⟨_, rfl, by decide⟩
  obtain ⟨d, made, clash⟩ := clashes
  obtain ⟨d', made', table⟩ := refused
  refine ⟨⟨d, _, made, rfl, by decide, by decide, by decide, clash⟩,
    d', _, made', rfl, by decide, by decide, by decide, rfl, ?_⟩
  rintro ⟨t, parsed⟩
  rw [table] at parsed
  cases parsed

end Amend.Declaration

/-
# Amend.Proofs.Outline — the text of a statement, and what it says

An `Outline` is all that the text of an UPDATE says: which table, which columns
are set from which placeholders, and which condition stands behind which
keyword.  `Outline.text` writes an outline down, and `Outline.read?` reads a
text: it cuts the text at the blanks outside quotes and goes over the words.

`read?_text` is the main statement: an outline whose identifiers and
placeholders can be written is what its text reads as.  The words of a text are
read by their places, so that a column may be called `WHERE`, hold ` = $1` in
its quotes, or end in `$1`.
-/
import Amend.Proofs.Pieces
import Amend.Statement

set_option autoImplicit false

namespace Amend

/-- A condition as a text says it. -/
structure Term where
  column : Ident
  op : Operator
  /-- The placeholder of the value compared with. -/
  mark : Option String
  deriving DecidableEq, Repr

/-- What stands behind SET. -/
structure Body where
  /-- Each column with the placeholder of its new value. -/
  assignments : List (Ident × String)
  /-- Each condition with the keyword in front of it. -/
  clauses : List (Joiner × Term)
  deriving DecidableEq, Repr

/-- What the text of an UPDATE says. -/
structure Outline where
  table : QualifiedTable
  body : Body
  deriving DecidableEq, Repr

/-! ## Writing -/

def Operator.words : Operator → List String
  | .compare c => [c.symbol]
  | .isNull => ["IS", "NULL"]
  | .isNotNull => ["IS", "NOT", "NULL"]

def Term.words (t : Term) : List String :=
  t.column.sql :: (t.op.words ++ t.mark.toList)

/-- Assignments with a comma behind each but the last. -/
def assignmentWords : List (Ident × String) → List String
  | [] => []
  | [(column, mark)] => [column.sql, "=", mark]
  | (column, mark) :: next :: rest =>
    column.sql :: "=" :: (mark ++ ",") :: assignmentWords (next :: rest)

/-- Conditions with their keywords. -/
def clauseWords (clauses : List (Joiner × Term)) : List String :=
  clauses.flatMap fun (joiner, term) => joiner.keyword :: term.words

namespace Body

def words (b : Body) : List String :=
  assignmentWords b.assignments ++ clauseWords b.clauses

def text (b : Body) : String := " ".intercalate b.words

/-- The placeholders from left to right. -/
def marks (b : Body) : List String :=
  b.assignments.map Prod.snd ++ b.clauses.filterMap fun clause => clause.2.mark

end Body

def Outline.text (o : Outline) : String :=
  "UPDATE " ++ o.table.sql ++ " SET " ++ o.body.text

/-! ## Reading -/

/-- The words of a text: what stands between its blanks outside quotes. -/
def wordsOf (text : String) : List String :=
  (pieces ' ' false text.toList).map String.ofList

/-- Whether a word is a placeholder: `$` and a number, or `@` and a name. -/
def isMark (word : String) : Bool :=
  match word.toList with
  | '$' :: digits => !digits.isEmpty && digits.all Char.isDigit
  | '@' :: name => !name.isEmpty && name.all Param.isNameChar
  | _ => false

def mark? (word : String) : Option String :=
  if isMark word then some word else none

def ident? (word : String) : Option Ident := (Ident.parse word).toOption

def table? (word : String) : Option QualifiedTable :=
  match (pieces '.' false word.toList).map String.ofList with
  | [database, schema, table] => do
    return ⟨← ident? database, ← ident? schema, ← ident? table⟩
  | _ => none

def comparison? : String → Option Comparison
  | "=" => some .equal
  | "!=" => some .notEqual
  | ">" => some .greater
  | ">=" => some .greaterOrEqual
  | "<" => some .less
  | "<=" => some .lessOrEqual
  | _ => none

def joiner? : String → Option Joiner
  | "WHERE" => some .opening
  | "AND" => some .and
  | "OR" => some .or
  | _ => none

/-- Assignments up to the first one without a comma, and the words behind it. -/
def assignments? : List String → Option (List (Ident × String) × List String)
  | column :: "=" :: mark :: rest => do
    let column ← ident? column
    if mark.toList.getLast? = some ',' then
      let mark ← mark? (String.ofList mark.toList.dropLast)
      let (others, rest) ← assignments? rest
      return ((column, mark) :: others, rest)
    else return ([(column, ← mark? mark)], rest)
  | _ => none

/-- Conditions with their keywords, up to the end. -/
def clauses? : List String → Option (List (Joiner × Term))
  | [] => some []
  | keyword :: column :: "IS" :: "NULL" :: rest => do
    let term : Term := ⟨← ident? column, .isNull, none⟩
    return (← joiner? keyword, term) :: (← clauses? rest)
  | keyword :: column :: "IS" :: "NOT" :: "NULL" :: rest => do
    let term : Term := ⟨← ident? column, .isNotNull, none⟩
    return (← joiner? keyword, term) :: (← clauses? rest)
  | keyword :: column :: sign :: mark :: rest => do
    let term : Term := ⟨← ident? column, .compare (← comparison? sign), some (← mark? mark)⟩
    return (← joiner? keyword, term) :: (← clauses? rest)
  | _ => none

def Body.ofWords? (words : List String) : Option Body := do
  let (assignments, rest) ← assignments? words
  return ⟨assignments, ← clauses? rest⟩

def Body.read? (text : String) : Option Body := Body.ofWords? (wordsOf text)

/-- What the text of an UPDATE says. -/
def Outline.read? (text : String) : Option Outline :=
  match wordsOf text with
  | "UPDATE" :: table :: "SET" :: words => do
    return ⟨← table? table, ← Body.ofWords? words⟩
  | _ => none

/-! ## What can be written -/

/-- A table whose three parts can be written. -/
def QualifiedTable.WellFormed (t : QualifiedTable) : Prop :=
  t.database.WellFormed ∧ t.schema.WellFormed ∧ t.table.WellFormed

def Assignable (a : Ident × String) : Prop := a.1.WellFormed ∧ isMark a.2 = true

/-- A condition with a placeholder exactly where its operator compares with a value. -/
def Term.WellFormed (t : Term) : Prop :=
  t.column.WellFormed ∧ t.mark.isSome = t.op.bindsValue ∧ ∀ m ∈ t.mark, isMark m = true

/-- A body with at least one assignment. -/
def Body.WellFormed (b : Body) : Prop :=
  b.assignments ≠ [] ∧ (∀ a ∈ b.assignments, Assignable a) ∧ ∀ c ∈ b.clauses, c.2.WellFormed

def Outline.WellFormed (o : Outline) : Prop := o.table.WellFormed ∧ o.body.WellFormed

/-! ## Single words -/

theorem ident?_sql {i : Ident} (formed : i.WellFormed) : ident? i.sql = some i := by
  simp [ident?, Ident.parse_sql formed, Except.toOption]

@[simp] theorem joiner?_keyword (j : Joiner) : joiner? j.keyword = some j := by
  cases j <;> rfl

theorem mark?_of_isMark {m : String} (marked : isMark m = true) : mark? m = some m := by
  simp [mark?, marked]

/-- The characters that a placeholder is made of. -/
def isMarkChar (c : Char) : Bool := c == '$' || c == '@' || Param.isNameChar c

theorem isMarkChar_of_isMark {m : String} (marked : isMark m = true) :
    ∀ c ∈ m.toList, isMarkChar c = true := by
  unfold isMark at marked
  split at marked
  · rename_i digits chars
    simp only [Bool.and_eq_true, List.all_eq_true] at marked
    intro c member
    rw [chars] at member
    rcases List.mem_cons.1 member with rfl | member
    · rfl
    · have digit := marked.2 c member
      simp [isMarkChar, Param.isNameChar, Char.isAlphanum, digit]
  · rename_i name chars
    simp only [Bool.and_eq_true, List.all_eq_true] at marked
    intro c member
    rw [chars] at member
    rcases List.mem_cons.1 member with rfl | member
    · rfl
    · simp [isMarkChar, marked.2 c member]
  · cases marked

theorem ne_of_isMarkChar {c d : Char} (part : isMarkChar c = true)
    (outside : isMarkChar d = false) : c ≠ d := by
  rintro rfl
  rw [part] at outside
  cases outside

/-- A placeholder does not end in a comma. -/
theorem getLast?_of_isMark {m : String} (marked : isMark m = true) :
    m.toList.getLast? ≠ some ',' := fun last =>
  ne_of_isMarkChar (isMarkChar_of_isMark marked ',' (List.mem_of_getLast? last)) (by decide) rfl

theorem table?_sql {t : QualifiedTable} (formed : t.WellFormed) : table? t.sql = some t := by
  obtain ⟨database, schema, table⟩ := formed
  have cut : pieces '.' false t.sql.toList =
      [t.database.sql.toList, t.schema.sql.toList, t.table.sql.toList] := by
    have chars : t.sql.toList =
        ['.'].intercalate [t.database.sql.toList, t.schema.sql.toList, t.table.sql.toList] := by
      simp [QualifiedTable.sql, List.intercalate_cons_cons]
    rw [chars]
    apply pieces_intercalate (by simp)
    simp only [List.mem_cons, List.not_mem_nil, or_false]
    rintro w (rfl | rfl | rfl)
    · exact whole_sql (by decide) (by decide) database
    · exact whole_sql (by decide) (by decide) schema
    · exact whole_sql (by decide) (by decide) table
  simp [table?, cut, ident?_sql database, ident?_sql schema, ident?_sql table]

/-! ## Going over the words -/

theorem assignments?_words {as : List (Ident × String)} (nonempty : as ≠ [])
    (formed : ∀ a ∈ as, Assignable a) (rest : List String) :
    assignments? (assignmentWords as ++ rest) = some (as, rest) := by
  induction as with
  | nil => exact absurd rfl nonempty
  | cons a others ih =>
      obtain ⟨column, mark⟩ := a
      obtain ⟨columnFormed, marked⟩ := formed (column, mark) (by simp)
      cases others with
      | nil =>
          simp [assignmentWords, assignments?, ident?_sql columnFormed, mark?_of_isMark marked,
            getLast?_of_isMark marked]
      | cons next more =>
          have tail := ih (by simp) fun b member => formed b (by simp [member])
          simp [assignmentWords, assignments?, ident?_sql columnFormed, mark?_of_isMark marked,
            tail]

theorem clauses?_words {clauses : List (Joiner × Term)}
    (formed : ∀ c ∈ clauses, c.2.WellFormed) :
    clauses? (clauseWords clauses) = some clauses := by
  induction clauses with
  | nil => rfl
  | cons c others ih =>
      obtain ⟨joiner, column, op, mark⟩ := c
      obtain ⟨columnFormed, binds, marked⟩ := formed (joiner, ⟨column, op, mark⟩) (by simp)
      have tail := ih fun d member => formed d (by simp [member])
      cases op with
      | compare c =>
          obtain ⟨m, rfl⟩ := Option.isSome_iff_exists.1 binds
          have read : clauses? (joiner.keyword :: column.sql :: c.symbol :: m
              :: clauseWords others) = some ((joiner, ⟨column, .compare c, some m⟩) :: others) := by
            cases c <;>
              simp [clauses?, Comparison.symbol, comparison?, ident?_sql columnFormed,
                mark?_of_isMark (marked m rfl), tail]
          exact read
      | isNull =>
          have unbound : mark = none := by simpa [Operator.bindsValue] using binds
          subst unbound
          have read : clauses? (joiner.keyword :: column.sql :: "IS" :: "NULL"
              :: clauseWords others) = some ((joiner, ⟨column, .isNull, none⟩) :: others) := by
            simp [clauses?, ident?_sql columnFormed, tail]
          exact read
      | isNotNull =>
          have unbound : mark = none := by simpa [Operator.bindsValue] using binds
          subst unbound
          have read : clauses? (joiner.keyword :: column.sql :: "IS" :: "NOT" :: "NULL"
              :: clauseWords others) = some ((joiner, ⟨column, .isNotNull, none⟩) :: others) := by
            simp [clauses?, ident?_sql columnFormed, tail]
          exact read

theorem Body.ofWords?_words {b : Body} (formed : b.WellFormed) :
    Body.ofWords? b.words = some b := by
  obtain ⟨nonempty, assignable, terms⟩ := formed
  simp [Body.ofWords?, Body.words, assignments?_words nonempty assignable,
    clauses?_words terms]

/-! ## No word is cut -/

/-- A word that blanks do not cut. -/
def Uncut (word : String) : Prop := whole ' ' false word.toList = true

instance (word : String) : Decidable (Uncut word) :=
  inferInstanceAs (Decidable (whole ' ' false word.toList = true))

theorem uncut_sql {i : Ident} (formed : i.WellFormed) : Uncut i.sql :=
  whole_sql (by decide) (by decide) formed

theorem uncut_mark {m : String} (marked : isMark m = true) : Uncut m := by
  apply whole_of_forall
  intro c member
  have part := isMarkChar_of_isMark marked c member
  exact ⟨ne_of_isMarkChar part (by decide), ne_of_isMarkChar part (by decide)⟩

theorem uncut_mark_comma {m : String} (marked : isMark m = true) : Uncut (m ++ ",") := by
  unfold Uncut
  rw [String.toList_append]
  exact whole_append (uncut_mark marked) (by decide)

theorem uncut_keyword (j : Joiner) : Uncut j.keyword := by
  cases j <;> decide

theorem uncut_operator (op : Operator) : ∀ w ∈ op.words, Uncut w := by
  cases op with
  | compare c => cases c <;> decide
  | isNull => decide
  | isNotNull => decide

theorem uncut_assignmentWords {as : List (Ident × String)} (formed : ∀ a ∈ as, Assignable a) :
    ∀ w ∈ assignmentWords as, Uncut w := by
  induction as with
  | nil => simp [assignmentWords]
  | cons a others ih =>
      obtain ⟨column, mark⟩ := a
      obtain ⟨columnFormed, marked⟩ := formed (column, mark) (by simp)
      have column_ := uncut_sql columnFormed
      have equals : Uncut "=" := by decide
      cases others with
      | nil =>
          simp only [assignmentWords, List.mem_cons, List.not_mem_nil, or_false]
          rintro w (rfl | rfl | rfl)
          · exact column_
          · exact equals
          · exact uncut_mark marked
      | cons next more =>
          have tail := ih fun b member => formed b (by simp [member])
          simp only [assignmentWords, List.mem_cons]
          rintro w (rfl | rfl | rfl | member)
          · exact column_
          · exact equals
          · exact uncut_mark_comma marked
          · exact tail w member

theorem uncut_clauseWords {clauses : List (Joiner × Term)}
    (formed : ∀ c ∈ clauses, c.2.WellFormed) : ∀ w ∈ clauseWords clauses, Uncut w := by
  intro w member
  obtain ⟨⟨joiner, term⟩, clause, member⟩ := List.mem_flatMap.1 member
  obtain ⟨columnFormed, -, marked⟩ := formed _ clause
  simp only [Term.words, List.mem_cons, List.mem_append, Option.mem_toList] at member
  rcases member with rfl | rfl | member | member
  · exact uncut_keyword joiner
  · exact uncut_sql columnFormed
  · exact uncut_operator term.op w member
  · exact uncut_mark (marked w member)

theorem Body.uncut_words {b : Body} (formed : b.WellFormed) : ∀ w ∈ b.words, Uncut w := by
  intro w member
  rcases List.mem_append.1 member with member | member
  · exact uncut_assignmentWords formed.2.1 w member
  · exact uncut_clauseWords formed.2.2 w member

theorem assignmentWords_ne_nil {as : List (Ident × String)} (nonempty : as ≠ []) :
    assignmentWords as ≠ [] := by
  cases as with
  | nil => exact absurd rfl nonempty
  | cons a others => cases others <;> simp [assignmentWords]

theorem Body.words_ne_nil {b : Body} (formed : b.WellFormed) : b.words ≠ [] :=
  List.append_ne_nil_of_left_ne_nil (assignmentWords_ne_nil formed.1) _

/-- The words of a text are those that it was put together from. -/
theorem wordsOf_intercalate {ws : List String} (nonempty : ws ≠ [])
    (uncut : ∀ w ∈ ws, Uncut w) : wordsOf (" ".intercalate ws) = ws := by
  have chars : (" ".intercalate ws).toList = [' '].intercalate (ws.map String.toList) := by
    simp [String.toList_intercalate]
  have wholes : ∀ w ∈ ws.map String.toList, whole ' ' false w = true := by
    intro w member
    obtain ⟨word, here, rfl⟩ := List.mem_map.1 member
    exact uncut word here
  unfold wordsOf
  rw [chars, pieces_intercalate (by simpa using nonempty) wholes]
  simp

/-! ## Reading what was written -/

/-- **A body is what its text reads as.** -/
theorem Body.read?_text {b : Body} (formed : b.WellFormed) : Body.read? b.text = some b := by
  unfold Body.read? Body.text
  rw [wordsOf_intercalate (Body.words_ne_nil formed) (Body.uncut_words formed),
    Body.ofWords?_words formed]

theorem uncut_table {t : QualifiedTable} (formed : t.WellFormed) : Uncut t.sql := by
  obtain ⟨database, schema, table⟩ := formed
  have dot : whole ' ' false ['.'] = true := by decide
  unfold Uncut
  simp only [QualifiedTable.sql, String.toList_append]
  exact whole_append (whole_append (whole_append (whole_append (uncut_sql database) dot)
    (uncut_sql schema)) dot) (uncut_sql table)

theorem Outline.text_eq {o : Outline} (formed : o.WellFormed) :
    o.text = " ".intercalate ("UPDATE" :: o.table.sql :: "SET" :: o.body.words) := by
  have nonempty := Body.words_ne_nil formed.2
  rw [String.intercalate_cons_cons, String.intercalate_cons_cons,
    String.intercalate_cons_of_ne_nil nonempty]
  rw [← String.toList_inj]
  simp [Outline.text, Body.text]

/-- **An outline is what its text reads as.** -/
theorem Outline.read?_text {o : Outline} (formed : o.WellFormed) :
    Outline.read? o.text = some o := by
  have uncut : ∀ w ∈ "UPDATE" :: o.table.sql :: "SET" :: o.body.words, Uncut w := by
    simp only [List.mem_cons]
    rintro w (rfl | rfl | rfl | member)
    · decide
    · exact uncut_table formed.1
    · decide
    · exact Body.uncut_words formed.2 w member
  unfold Outline.read?
  rw [Outline.text_eq formed, wordsOf_intercalate (by simp) uncut]
  simp [table?_sql formed.1, Body.ofWords?_words formed.2]

/-- Outlines with the same text are the same. -/
theorem Outline.eq_of_text_eq {o o' : Outline} (formed : o.WellFormed) (formed' : o'.WellFormed)
    (same : o.text = o'.text) : o = o' := by
  have read := Outline.read?_text formed
  rw [same, Outline.read?_text formed'] at read
  exact (Option.some.inj read).symm

end Amend

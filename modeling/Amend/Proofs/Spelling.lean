/-
# Amend.Proofs.Spelling — reading an identifier undoes writing it

`Ident.Spelling` is the grammar of written identifiers: a plain name as it is, or
items between double quotes, each of them a character or a quote written twice.
It is said without the reader and without the printer, and both turn out to follow
it: a text is read as an identifier just when it is a spelling of it
(`parse_eq_ok_iff`), and an identifier that can be written has one spelling
(`spelling_iff`).

So reading and writing undo each other in both directions, and whichever way an
identifier of a name is made, it names that name (`reading_undoes_writing`).
-/
import Amend.Proofs.Identifier
import Mathlib.Data.List.Forall2

set_option autoImplicit false

namespace Amend.Ident

/-! ## The grammar -/

def IsLetter (c : Char) : Prop := 'A' ≤ c ∧ c ≤ 'Z' ∨ 'a' ≤ c ∧ c ≤ 'z'

def IsDigit (c : Char) : Prop := '0' ≤ c ∧ c ≤ '9'

/-- A plain identifier, as it is written. -/
def IsPlain (text : List Char) : Prop :=
  ∃ c rest, text = c :: rest ∧ (c = '_' ∨ IsLetter c)
    ∧ ∀ d ∈ rest, d = '_' ∨ d = '$' ∨ IsLetter d ∨ IsDigit d

/-- What may stand between the quotes, and the character that it stands for. -/
inductive Item : List Char → Char → Prop where
  | char {c : Char} (noQuote : c ≠ '"') (noNul : c ≠ '\x00') : Item [c] c
  | quote : Item ['"', '"'] '"'

/-- The grammar of written identifiers: a plain one as it is, and items between quotes. -/
def Spelling (text : List Char) : Ident → Prop
  | plain name => text = name.toList ∧ IsPlain text
  | quoted name => ∃ items, items ≠ [] ∧ List.Forall₂ Item items name.toList
      ∧ text = '"' :: (items.flatten ++ ['"'])

/-! ## Characters and items -/

theorem isAlpha_iff {c : Char} : c.isAlpha = true ↔ IsLetter c := by
  delta Char.isAlpha Char.isUpper Char.isLower
  simp [IsLetter, Char.le_def]

theorem isDigit_iff {c : Char} : c.isDigit = true ↔ IsDigit c := by
  delta Char.isDigit
  simp [IsDigit, Char.le_def]

theorem isStart_iff {c : Char} : isStart c = true ↔ c = '_' ∨ IsLetter c := by
  simp only [isStart, Bool.or_eq_true, beq_iff_eq, isAlpha_iff]

theorem isPart_iff {c : Char} :
    isPart c = true ↔ c = '_' ∨ c = '$' ∨ IsLetter c ∨ IsDigit c := by
  simp only [isPart, Char.isAlphanum, Bool.or_eq_true, beq_iff_eq, isAlpha_iff, isDigit_iff,
    or_assoc]

theorem isPlainName_iff {text : List Char} : IsPlainName text ↔ IsPlain text := by
  simp only [IsPlainName, IsPlain, isStart_iff, isPart_iff]

/-- Items are the characters that they stand for, with each quote doubled. -/
theorem flatten_items {items : List (List Char)} {name : List Char}
    (each : List.Forall₂ Item items name) : items.flatten = doubled name ∧ '\x00' ∉ name := by
  induction each with
  | nil => exact ⟨rfl, List.not_mem_nil⟩
  | cons item _ ih =>
      cases item with
      | char noQuote noNul => simp [doubled, noNul.symm, ih]
      | quote => simp [doubled, ih]

/-- Every character but NUL has its item. -/
theorem exists_items {name : List Char} (noNul : '\x00' ∉ name) :
    ∃ items, List.Forall₂ Item items name := by
  induction name with
  | nil => exact ⟨[], .nil⟩
  | cons c rest ih =>
      rw [List.mem_cons, not_or] at noNul
      obtain ⟨here, later⟩ := noNul
      obtain ⟨items, each⟩ := ih later
      by_cases quote : c = '"'
      · subst quote
        exact ⟨_, .cons .quote each⟩
      · exact ⟨_, .cons (.char quote (Ne.symm here)) each⟩

/-! ## Writing -/

/-- **What an identifier is written as is its spelling**, and it has no other. -/
theorem spelling_iff {text : List Char} {i : Ident} :
    Spelling text i ↔ i.WellFormed ∧ i.sql.toList = text := by
  cases i with
  | plain name =>
      simp only [Spelling, WellFormed, isPlainName_iff, sql]
      constructor
      · rintro ⟨rfl, formed⟩
        exact ⟨formed, rfl⟩
      · rintro ⟨formed, rfl⟩
        exact ⟨rfl, formed⟩
  | quoted name =>
      rw [toList_sql_quoted]
      constructor
      · rintro ⟨items, nonempty, each, rfl⟩
        obtain ⟨same, noNul⟩ := flatten_items each
        refine ⟨⟨?_, noNul⟩, by rw [same]⟩
        rintro rfl
        exact nonempty (List.forall₂_nil_right_iff.1 each)
      · rintro ⟨⟨nonempty, noNul⟩, rfl⟩
        obtain ⟨items, each⟩ := exists_items noNul
        refine ⟨items, ?_, each, by rw [(flatten_items each).1]⟩
        rintro rfl
        exact nonempty (String.toList_eq_nil_iff.1 (List.forall₂_nil_left_iff.1 each))

/-! ## Reading -/

/-- A name that is read up to its closing quote stood there with each quote doubled. -/
theorem eq_of_unquote {text name after : List Char}
    (read : unquote text = some (name, after)) : text = doubled name ++ '"' :: after := by
  induction text using unquote.induct generalizing name after with
  | case1 => cases read
  | case2 rest ih =>
      obtain ⟨⟨name', after'⟩, inner, same⟩ := Option.map_eq_some_iff.1 read
      cases same
      simp [doubled, ih inner]
  | case3 rest single =>
      rw [unquote] at read
      · cases read
        rfl
      · exact single
  | case4 c rest noPair noQuote ih =>
      rw [unquote] at read
      · obtain ⟨⟨name', after'⟩, inner, same⟩ := Option.map_eq_some_iff.1 read
        cases same
        simp [doubled, ih inner]
      · exact noPair
      · exact noQuote

/-- What a text is read as is written as that text. -/
theorem sql_of_parse {s : String} {i : Ident} (parsed : parse s = .ok i) : i.sql = s := by
  obtain ⟨-, ⟨inner, chars, read⟩ | ⟨c, rest, -, read⟩⟩ := parse_cases parsed
  · obtain ⟨name, closed, quoted_⟩ := parseQuoted_eq_ok read
    rw [(quote_eq_ok.1 quoted_).1, ← String.toList_inj, toList_sql_quoted, String.toList_ofList,
      chars, eq_of_unquote closed]
  · obtain ⟨rfl, -, -⟩ := parsePlain_eq_ok read
    rfl

/-- **A text is read as an identifier just when it is a spelling of it.** -/
theorem parse_eq_ok_iff {s : String} {i : Ident} : parse s = .ok i ↔ Spelling s.toList i := by
  rw [spelling_iff]
  constructor
  · intro parsed
    exact ⟨wellFormed_of_parse parsed, by rw [sql_of_parse parsed]⟩
  · rintro ⟨formed, written⟩
    rw [← String.toList_inj.1 written]
    exact parse_sql formed

/-! ## Names -/

/-- A name is quoted just where it cannot be written plainly. -/
theorem quoteIfNeeded_cases {name : String} {i : Ident} (made : quoteIfNeeded name = .ok i) :
    (IsPlain name.toList ∧ i = .plain name) ∨ ¬IsPlain name.toList ∧ i = .quoted name := by
  unfold quoteIfNeeded at made
  split at made
  · rename_i written parsed
    cases made
    obtain ⟨same, plain⟩ := parse_eq_ok_iff.1 parsed
    rw [String.toList_inj.1 same]
    rw [same] at plain
    exact .inl ⟨plain, rfl⟩
  · rename_i other
    refine .inr ⟨?_, (quote_eq_ok.1 made).1⟩
    intro plain
    exact other name (parse_eq_ok_iff.2 ⟨rfl, plain⟩)

/-- An identifier that is quoted where it has to be is that of its name. -/
theorem name_of_quoteIfNeeded {name : String} {i : Ident}
    (made : quoteIfNeeded name = .ok i) : i.name = name := by
  rcases quoteIfNeeded_cases made with ⟨-, rfl⟩ | ⟨-, rfl⟩
  · rfl
  · rfl

/-- **Reading and writing identifiers undo each other.**  A text is read just when the grammar has
it, and as what it spells; what it is read as is written as that text.  An identifier that was read
or quoted is what its written form is read as.  A name with characters, none of them NUL, can be
quoted and can be written as it needs to be, and either way the identifier names it. -/
theorem reading_undoes_writing :
    (∀ s i, parse s = .ok i ↔ Spelling s.toList i)
      ∧ (∀ s i, parse s = .ok i → i.sql = s)
      ∧ (∀ i : Ident, i.Made → parse i.sql = .ok i)
      ∧ ∀ name, name ≠ "" → '\x00' ∉ name.toList →
        (∃ i, quote name = .ok i ∧ i.name = name)
          ∧ ∃ i, quoteIfNeeded name = .ok i ∧ i.name = name := by
  refine ⟨?_, ?_, ?_, ?_⟩
  · intro s i
    exact parse_eq_ok_iff
  · intro s i parsed
    exact sql_of_parse parsed
  · intro i made
    exact parse_sql made.wellFormed
  · intro name nonempty noNul
    obtain ⟨i, made⟩ := isOk_quoteIfNeeded.2 ⟨nonempty, noNul⟩
    have quoted_ := quote_eq_ok.2 ⟨rfl, nonempty, noNul⟩
    exact ⟨⟨_, quoted_, rfl⟩, i, made, name_of_quoteIfNeeded made⟩

/-- Quotes are read in pairs: three in a row open an identifier that is not closed. -/
example : parse "\"\"\"" = .error .unclosed := rfl

theorem quotes_inside_are_read_back :
    Spelling "\"a\"\"\"".toList (.quoted "a\"")
      ∧ (quoted "a\"").sql = "\"a\"\"\"" ∧ parse (quoted "a\"").sql = .ok (.quoted "a\"")
      ∧ ∃ i, quoteIfNeeded "a\"" = .ok i ∧ i.name = "a\"" := by
  obtain ⟨reads, writes, back, names⟩ := reading_undoes_writing
  have parsed : parse "\"a\"\"\"" = .ok (.quoted "a\"") := rfl
  have made : (quoted "a\"").Made := ⟨_, .inl parsed⟩
  exact ⟨(reads _ _).1 parsed, writes _ _ parsed, back _ made,
    (names "a\"" (by decide) (by decide)).2⟩

end Amend.Ident

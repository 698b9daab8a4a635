/-
# Amend.Proofs.Identifier — written identifiers are read back

`Ident.WellFormed` says what an identifier has to be like for its written form
to be one: a plain name follows the grammar of plain names, a quoted name is
neither empty nor holds NUL.  Whatever `parse`, `quote` or `quoteIfNeeded`
returns is well formed, and a well-formed identifier is what its own written
form parses to (`parse_sql`).
-/
import Amend.Error
import Amend.Text.Blank

set_option autoImplicit false

namespace Amend.Ident

/-! ## Characters -/

theorem isPart_of_isStart {c : Char} (start : isStart c = true) : isPart c = true := by
  simp only [isStart, Bool.or_eq_true, beq_iff_eq] at start
  rcases start with rfl | alpha
  · decide
  · simp [isPart, Char.isAlphanum, alpha]

/-- A character that no plain name may hold differs from each one that it does hold. -/
theorem ne_of_isPart {c d : Char} (part : isPart c = true) (outside : isPart d = false) :
    c ≠ d := by
  rintro rfl
  rw [part] at outside
  cases outside

theorem mem_doubled {c : Char} {name : List Char} : c ∈ doubled name ↔ c ∈ name := by
  induction name with
  | nil => simp [doubled]
  | cons d ds ih =>
      by_cases hd : d = '"'
      · subst hd
        simp [doubled, ih]
      · simp [doubled, ih]

/-! ## Well-formed identifiers -/

/-- The grammar of plain names, as a property of the characters. -/
def IsPlainName (name : List Char) : Prop :=
  ∃ c rest, name = c :: rest ∧ isStart c = true ∧ ∀ d ∈ rest, isPart d = true

/-- What can be written as an identifier and read again. -/
def WellFormed : Ident → Prop
  | plain name => IsPlainName name.toList
  | quoted name => name ≠ "" ∧ '\x00' ∉ name.toList

/-- An identifier that a caller can come by without naming its constructors. -/
def Made (i : Ident) : Prop :=
  ∃ s, parse s = .ok i ∨ quote s = .ok i ∨ quoteIfNeeded s = .ok i

theorem isPart_of_isPlainName {name : List Char} (plain : IsPlainName name) :
    ∀ c ∈ name, isPart c = true := by
  obtain ⟨c, rest, rfl, start, parts⟩ := plain
  intro d member
  rcases List.mem_cons.1 member with rfl | member
  · exact isPart_of_isStart start
  · exact parts d member

/-! ## What is made is well formed -/

theorem quote_eq_ok {name : String} {i : Ident} :
    quote name = .ok i ↔ i = .quoted name ∧ name ≠ "" ∧ '\x00' ∉ name.toList := by
  unfold quote
  by_cases empty : name = ""
  · simp [empty]
  · by_cases nul : '\x00' ∈ name.toList
    · simp [empty, nul]
    · simp [empty, nul, eq_comm]

theorem wellFormed_of_quote {s : String} {i : Ident} (made : quote s = .ok i) :
    i.WellFormed := by
  obtain ⟨rfl, formed⟩ := quote_eq_ok.1 made
  exact formed

/-- A text that is read as a plain identifier is one throughout. -/
theorem parsePlain_eq_ok {s : String} {c : Char} {rest : List Char} {i : Ident}
    (parsed : parsePlain s c rest = .ok i) :
    i = .plain s ∧ isStart c = true ∧ ∀ d ∈ rest, isPart d = true := by
  unfold parsePlain at parsed
  split at parsed
  · cases parsed
  · rename_i start
    split at parsed
    · cases parsed
    · rename_i none_
      cases parsed
      refine ⟨rfl, by simpa using start, ?_⟩
      intro d member
      simpa using List.find?_eq_none.1 none_ d member

/-- A text that is read as a quoted identifier ends with the quote that closes its name. -/
theorem parseQuoted_eq_ok {s : String} {inner : List Char} {i : Ident}
    (parsed : parseQuoted s inner = .ok i) :
    ∃ name, unquote inner = some (name, []) ∧ quote (String.ofList name) = .ok i := by
  unfold parseQuoted at parsed
  split at parsed
  · cases parsed
  · rename_i name read
    exact ⟨name, read, parsed⟩
  · cases parsed

/-- A text that is read holds no NUL, and its first character says how it is read. -/
theorem parse_cases {s : String} {i : Ident} (parsed : parse s = .ok i) :
    '\x00' ∉ s.toList
      ∧ ((∃ inner, s.toList = '"' :: inner ∧ parseQuoted s inner = .ok i)
        ∨ ∃ c rest, s.toList = c :: rest ∧ parsePlain s c rest = .ok i) := by
  unfold parse at parsed
  split at parsed
  · cases parsed
  · rename_i noNul
    refine ⟨by simpa using noNul, ?_⟩
    split at parsed
    · cases parsed
    · rename_i inner chars
      exact .inl ⟨inner, chars, parsed⟩
    · rename_i c rest _ chars
      exact .inr ⟨c, rest, chars, parsed⟩

theorem wellFormed_of_parse {s : String} {i : Ident} (made : parse s = .ok i) :
    i.WellFormed := by
  obtain ⟨-, ⟨inner, -, read⟩ | ⟨c, rest, chars, read⟩⟩ := parse_cases made
  · obtain ⟨name, -, quoted⟩ := parseQuoted_eq_ok read
    exact wellFormed_of_quote quoted
  · obtain ⟨rfl, start, parts⟩ := parsePlain_eq_ok read
    exact ⟨c, rest, chars, start, parts⟩

theorem wellFormed_of_quoteIfNeeded {s : String} {i : Ident} (made : quoteIfNeeded s = .ok i) :
    i.WellFormed := by
  unfold quoteIfNeeded at made
  split at made
  · rename_i parsed
    cases made
    exact wellFormed_of_parse parsed
  · exact wellFormed_of_quote made

/-- Every way of making an identifier gives one that can be written. -/
theorem Made.wellFormed {i : Ident} (made : i.Made) : i.WellFormed := by
  obtain ⟨s, parsed | quoted | needed⟩ := made
  · exact wellFormed_of_parse parsed
  · exact wellFormed_of_quote quoted
  · exact wellFormed_of_quoteIfNeeded needed

/-! ## Reading back -/

theorem parse_plain {name : String} (plain : IsPlainName name.toList) :
    parse name = .ok (.plain name) := by
  have noNul : '\x00' ∉ name.toList := fun member =>
    ne_of_isPart (isPart_of_isPlainName plain _ member) (by decide) rfl
  obtain ⟨c, rest, chars, start, parts⟩ := plain
  have unquoted : c ≠ '"' := ne_of_isPart (isPart_of_isStart start) (by decide)
  have none_ : (rest.find? fun d => !isPart d) = none := by
    simpa using parts
  rw [chars] at noNul
  unfold parse
  rw [chars]
  simp only [List.contains_iff_mem, noNul, if_false]
  show parsePlain name c rest = .ok (.plain name)
  simp [parsePlain, start, none_]

theorem toList_sql_quoted (name : String) :
    (quoted name).sql.toList = '"' :: (doubled name.toList ++ ['"']) := by
  simp [sql]

theorem parse_quoted {name : String} (nonempty : name ≠ "") (noNul : '\x00' ∉ name.toList) :
    parse (quoted name).sql = .ok (.quoted name) := by
  have chars := toList_sql_quoted name
  have clean : '\x00' ∉ (quoted name).sql.toList := by
    rw [chars]
    simp [mem_doubled, noNul]
  have inner : unquote (doubled name.toList ++ ['"']) = some (name.toList, []) :=
    unquote_doubled name.toList [] (by simp)
  unfold parse
  simp only [List.contains_iff_mem, clean, if_false]
  rw [chars]
  simp [parseQuoted, inner, quote, nonempty, noNul]

/-- **A well-formed identifier is what its written form parses to.** -/
theorem parse_sql {i : Ident} (formed : i.WellFormed) : parse i.sql = .ok i := by
  cases i with
  | plain name => exact parse_plain formed
  | quoted name => exact parse_quoted formed.1 formed.2

/-- What `read` returns is well formed. -/
theorem wellFormed_of_read {s : String} {i : Ident} (made : Ident.read s = .ok i) :
    i.WellFormed := by
  unfold Ident.read at made
  cases parsed : parse s with
  | error fault =>
      rw [parsed] at made
      cases made
  | ok j =>
      rw [parsed] at made
      cases made
      exact wellFormed_of_parse parsed

/-! ## No identifier is blank -/

theorem head_of_parse {s : String} {i : Ident} (parsed : parse s = .ok i) :
    ∃ c rest, s.toList = c :: rest ∧ (c = '"' ∨ isStart c = true) := by
  obtain ⟨-, ⟨inner, chars, -⟩ | ⟨c, rest, chars, read⟩⟩ := parse_cases parsed
  · exact ⟨'"', inner, chars, .inl rfl⟩
  · obtain ⟨-, start, -⟩ := parsePlain_eq_ok read
    exact ⟨c, rest, chars, .inr start⟩

/-- The white space of ASCII ends with the blank. -/
theorem isBlank_of_ascii {c : Char} (low : 33 ≤ c.toNat) (high : c.toNat < 128) :
    Text.isBlank c = false := by
  have notSpace : c ≠ ' ' := by
    rintro rfl
    exact absurd low (by decide)
  simp [Text.isBlank, Text.blankRuns, Text.Runs.contains, notSpace]
  omega

theorem isBlank_of_isStart {c : Char} (start : isStart c = true) : Text.isBlank c = false := by
  simp only [isStart, Bool.or_eq_true, beq_iff_eq] at start
  rcases start with rfl | alpha
  · decide
  · delta Char.isAlpha Char.isUpper Char.isLower at alpha
    simp only [Bool.or_eq_true, Bool.and_eq_true, decide_eq_true_eq,
      UInt32.le_iff_toNat_le] at alpha
    have value : c.toNat = c.val.toNat := rfl
    have bounds : 'A'.val.toNat = 65 ∧ 'Z'.val.toNat = 90 := ⟨rfl, rfl⟩
    have bounds' : 'a'.val.toNat = 97 ∧ 'z'.val.toNat = 122 := ⟨rfl, rfl⟩
    apply isBlank_of_ascii
    · omega
    · omega

/-- A text of white space alone is no identifier. -/
theorem allBlank_of_parse {s : String} {i : Ident} (parsed : parse s = .ok i) :
    Text.allBlank s = false := by
  obtain ⟨c, rest, chars, head⟩ := head_of_parse parsed
  have visible : Text.isBlank c = false := by
    rcases head with rfl | start
    · decide
    · exact isBlank_of_isStart start
  simp [Text.allBlank, chars, visible]

/-! ## Names that are not the caller's to choose -/

/-- Any name can be quoted if it has characters and none of them is NUL. -/
theorem isOk_quoteIfNeeded {name : String} :
    (∃ i, quoteIfNeeded name = .ok i) ↔ name ≠ "" ∧ '\x00' ∉ name.toList := by
  unfold quoteIfNeeded
  split
  · rename_i parsed
    obtain ⟨c, rest, chars, -⟩ := head_of_parse parsed
    refine iff_of_true ⟨_, rfl⟩ ⟨?_, (parse_cases parsed).1⟩
    rintro rfl
    cases chars
  · simp [quote_eq_ok]

end Amend.Ident

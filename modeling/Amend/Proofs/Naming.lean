/-
# Amend.Proofs.Naming — the names of parameters

A parameter's name can stand behind `@`: where its property is an identifier, it is
a word of letters, digits and underscores that does not begin with a digit
(`isWord_baseName`).  A condition's name ends in a number that can be read off
it again (`conditionName_inj`), so that no two bound conditions of a statement
share a name, whatever their properties are.  The name of an assignment is free,
for there are more numbers to put behind it than names are taken
(`freeName_not_mem`).
-/
import Amend.Param
import Amend.Proofs.Identifier
import Mathlib.Data.List.Nodup
import Mathlib.Data.List.Perm.Subperm

set_option autoImplicit false

namespace Amend.Param

/-! ## What a name is made of -/

/-- A name as it can stand behind `@`. -/
def IsName (name : String) : Prop :=
  name ≠ "" ∧ ∀ c ∈ name.toList, isNameChar c = true

/-- A word of letters, digits and underscores that does not begin with a digit. -/
def IsWord (name : String) : Prop :=
  ∃ c rest, name.toList = c :: rest ∧ Ident.isStart c = true ∧ ∀ d ∈ rest, isNameChar d = true

theorem isNameChar_of_isDigit {c : Char} (digit : c.isDigit = true) : isNameChar c = true := by
  simp [isNameChar, Char.isAlphanum, digit]

theorem isNameChar_of_isStart {c : Char} (start : Ident.isStart c = true) :
    isNameChar c = true := by
  simp only [Ident.isStart, Bool.or_eq_true] at start
  rcases start with underscore | letter
  · simp [isNameChar, underscore]
  · simp [isNameChar, Char.isAlphanum, letter]

/-- What can stand in a name begins a word, but for a digit. -/
theorem isStart_of_isNameChar {c : Char} (name : isNameChar c = true)
    (noDigit : c.isDigit = false) : Ident.isStart c = true := by
  simpa [isNameChar, Ident.isStart, Char.isAlphanum, noDigit] using name

theorem IsWord.isName {name : String} (word : IsWord name) : IsName name := by
  obtain ⟨c, rest, chars, start, others⟩ := word
  constructor
  · rintro rfl
    cases chars
  · intro d member
    rw [chars] at member
    rcases List.mem_cons.1 member with rfl | behind
    · exact isNameChar_of_isStart start
    · exact others d behind

/-- Reduction leaves no other character, and puts an underscore in front of a digit. -/
theorem isWord_reduce {s : List Char} (nonempty : s ≠ []) : IsWord (String.ofList (reduce s)) := by
  have mapped : ∀ c ∈ s.map (fun c => if isNameChar c then c else '_'), isNameChar c = true := by
    intro c member
    obtain ⟨d, -, rfl⟩ := List.mem_map.1 member
    split
    · assumption
    · decide
  unfold IsWord reduce
  rw [String.toList_ofList]
  dsimp only
  split
  · rename_i c rest chars
    rw [chars] at mapped ⊢
    split
    · exact ⟨'_', c :: rest, rfl, by decide, mapped⟩
    · rename_i noDigit
      obtain ⟨first, others⟩ := List.forall_mem_cons.1 mapped
      have start := isStart_of_isNameChar first (Bool.eq_false_iff.2 noDigit)
      exact ⟨c, rest, rfl, start, others⟩
  · rename_i chars
    exact absurd (List.map_eq_nil_iff.1 chars) nonempty

theorem name_ne_empty {i : Ident} (formed : i.WellFormed) : i.name ≠ "" := by
  cases i with
  | plain name =>
      obtain ⟨c, rest, chars, -⟩ := formed
      rintro (rfl : name = "")
      cases chars
  | quoted name => exact formed.1

/-- An identifier gives its parameters a word. -/
theorem isWord_baseName {property : String} {i : Ident} (parsed : Ident.parse property = .ok i) :
    IsWord (baseName property) := by
  have nonempty := name_ne_empty (Ident.wellFormed_of_parse parsed)
  unfold baseName
  rw [parsed]
  exact isWord_reduce (by simpa using nonempty)

theorem IsWord.append {base rest : String} (word : IsWord base)
    (more : ∀ c ∈ rest.toList, isNameChar c = true) : IsWord (base ++ rest) := by
  obtain ⟨c, others, chars, start, name⟩ := word
  refine ⟨c, others ++ rest.toList, by simp [chars], start, ?_⟩
  exact List.forall_mem_append.2 ⟨name, more⟩

theorem isNameChar_of_mem_toString {n : Nat} {c : Char} (member : c ∈ (toString n).toList) :
    isNameChar c = true := by
  rw [Nat.toString_eq_ofList_toDigits, String.toList_ofList] at member
  exact isNameChar_of_isDigit (Nat.isDigit_of_mem_toDigits (by decide) (by decide) member)

theorem isWord_conditionName {property : String} {i : Ident}
    (parsed : Ident.parse property = .ok i) (number : Nat) :
    IsWord (conditionName property number) := by
  have base := isWord_baseName parsed
  exact (base.append (List.all_eq_true.1 (by decide))).append fun _ => isNameChar_of_mem_toString

theorem isWord_numbered {base : String} (word : IsWord base) (number : Nat) :
    IsWord (numbered base number) :=
  (word.append (List.all_eq_true.1 (by decide))).append fun _ => isNameChar_of_mem_toString

theorem isWord_freeName {base : String} (word : IsWord base) (taken : List String)
    (last : Nat) : IsWord (freeName taken base last).1 := by
  unfold freeName
  split
  · exact isWord_numbered word _
  · exact word

/-! ## The number at the end -/

/-- The digits at the end of a text, read from the right. -/
theorem takeWhile_reverse_append {xs ds : List Char} {c : Char} (other : c.isDigit = false)
    (digits : ∀ d ∈ ds, d.isDigit = true) :
    (xs ++ c :: ds).reverse.takeWhile Char.isDigit = ds.reverse := by
  rw [List.reverse_append, List.reverse_cons, List.append_assoc,
    List.takeWhile_append_of_pos (by simpa using digits)]
  simp [other]

theorem toDigits_inj {m n : Nat} (same : Nat.toDigits 10 m = Nat.toDigits 10 n) : m = n := by
  calc m = Nat.ofDigitChars 10 (Nat.toDigits 10 m) 0 := Nat.ofDigitChars_ten_toDigits.symm
    _ = Nat.ofDigitChars 10 (Nat.toDigits 10 n) 0 := by rw [same]
    _ = n := Nat.ofDigitChars_ten_toDigits

/-- A number behind a character that is no digit can be read off the text, and with it the
character. -/
theorem number_inj {xs ys : List Char} {c c' : Char} (other : c.isDigit = false)
    (other' : c'.isDigit = false) {m n : Nat}
    (same : xs ++ c :: Nat.toDigits 10 m = ys ++ c' :: Nat.toDigits 10 n) : c = c' ∧ m = n := by
  have digits : ∀ k : Nat, ∀ d ∈ Nat.toDigits 10 k, d.isDigit = true := fun _ _ member =>
    Nat.isDigit_of_mem_toDigits (by decide) (by decide) member
  have trailing := congrArg (fun s => s.reverse.takeWhile Char.isDigit) same
  simp only [takeWhile_reverse_append other (digits _),
    takeWhile_reverse_append other' (digits _)] at trailing
  obtain rfl := toDigits_inj (List.reverse_inj.1 trailing)
  have ends := (List.append_inj' same rfl).2
  exact ⟨(List.cons.inj ends).1, rfl⟩

theorem toList_conditionName (property : String) (number : Nat) :
    (conditionName property number).toList
      = ((baseName property).toList ++ ['_', 'c', 'o', 'n']) ++ 'd' :: Nat.toDigits 10 number := by
  simp [conditionName]

theorem toList_numbered (base : String) (number : Nat) :
    (numbered base number).toList = base.toList ++ '_' :: Nat.toDigits 10 number := by
  simp [numbered]

/-- **The name of a condition's parameter determines its number**, even where two
properties reduce to one base, or a property itself ends like such a name. -/
theorem conditionName_inj {p q : String} {m n : Nat}
    (same : conditionName p m = conditionName q n) : m = n := by
  have lists := congrArg String.toList same
  rw [toList_conditionName, toList_conditionName] at lists
  exact (number_inj (by decide) (by decide) lists).2

/-- A number behind a base can be read off the name, whatever the base is. -/
theorem numbered_inj {base base' : String} {m n : Nat}
    (same : numbered base m = numbered base' n) : m = n := by
  have lists := congrArg String.toList same
  rw [toList_numbered, toList_numbered] at lists
  exact (number_inj (by decide) (by decide) lists).2

/-- A base with a number behind it is never the name of a condition's parameter. -/
theorem numbered_ne_conditionName (base property : String) (m n : Nat) :
    numbered base m ≠ conditionName property n := by
  intro same
  have lists := congrArg String.toList same
  rw [toList_numbered, toList_conditionName] at lists
  exact absurd (number_inj (by decide) (by decide) lists).1 (by decide)

/-! ## Free names -/

/-- Among more numbers than there are names, one makes a free name. -/
theorem exists_numbered_not_mem (taken : List String) (base : String) (first : Nat) :
    ∃ n ∈ List.range' first (taken.length + 1), numbered base n ∉ taken := by
  by_contra none_
  have covered : (List.range' first (taken.length + 1)).map (numbered base) ⊆ taken := by
    intro name member
    obtain ⟨n, candidate, rfl⟩ := List.mem_map.1 member
    by_contra free
    exact none_ ⟨n, candidate, free⟩
  have distinct : ((List.range' first (taken.length + 1)).map (numbered base)).Nodup :=
    List.Nodup.map (fun _ _ same => numbered_inj same) List.nodup_range'
  have bound := (distinct.subperm covered).length_le
  rw [List.length_map, List.length_range'] at bound
  omega

/-- **A free name is the base where that is free**, and otherwise the base with the first number
behind the last one that makes it free. -/
theorem freeName_cases (taken : List String) (base : String) (last : Nat) :
    (base ∉ taken ∧ freeName taken base last = (base, last))
      ∨ base ∈ taken ∧ ∃ n, last < n ∧ freeName taken base last = (numbered base n, n)
        ∧ numbered base n ∉ taken ∧ ∀ k, last < k → k < n → numbered base k ∈ taken := by
  by_cases there : base ∈ taken
  · refine .inr ⟨there, ?_⟩
    unfold freeName
    rw [if_pos (by simpa using there)]
    dsimp only
    obtain ⟨n, candidate, free⟩ := exists_numbered_not_mem taken base (last + 1)
    cases found : (List.range' (last + 1) (taken.length + 1)).find? fun n =>
        !taken.contains (numbered base n) with
    | none =>
        have all := List.find?_eq_none.1 found n candidate
        exact absurd free (by simpa using all)
    | some n =>
        obtain ⟨free, range, first⟩ := List.find?_range'_eq_some.1 found
        refine ⟨n, (List.mem_range'_1.1 range).1, rfl, by simpa using free, fun k low high => ?_⟩
        simpa using first k low high
  · exact .inl ⟨there, if_neg (by simpa using there)⟩

/-- **A free name is free.** -/
theorem freeName_not_mem (taken : List String) (base : String) (last : Nat) :
    (freeName taken base last).1 ∉ taken := by
  rcases freeName_cases taken base last with ⟨free, made⟩ | ⟨-, n, -, made, free, -⟩
  · rw [made]
    exact free
  · rw [made]
    exact free

/-- A parameter can be added under a name that is free among more names. -/
theorem push_freeName (l : ParamList) (others : List String) (base : String) (last : Nat)
    (value : Value) : l.push (freeName (l.names ++ others) base last).1 value
      = .ok (l.add ⟨(freeName (l.names ++ others) base last).1, value⟩
        fun taken => freeName_not_mem _ _ _ (List.mem_append_left _ taken)) :=
  ParamList.push_of_not_mem _ value

end Amend.Param

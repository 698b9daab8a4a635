/-
# Amend.Proofs.Pieces — cutting a text outside its quotes

A statement's text is cut at blanks, and the name of a table at dots, but never
between double quotes.  A quote inside a quoted name is written twice, so a
reader that changes sides at every quote is on the right side again behind the
name: no look-ahead is needed (`whole_doubled`).

What an identifier's written form holds is therefore never cut (`whole_sql`),
and a text put together from whole pieces falls apart into just these
(`pieces_intercalate`).
-/
import Amend.Proofs.Identifier

set_option autoImplicit false

namespace Amend

/-- Put a character in front of the first piece. -/
def extend (c : Char) : List (List Char) → List (List Char)
  | [] => [[c]]
  | piece :: rest => (c :: piece) :: rest

/-- The pieces of a text between the separators outside double quotes; `inside`
says whether the text starts between quotes. -/
def pieces (sep : Char) (inside : Bool) : List Char → List (List Char)
  | [] => [[]]
  | c :: cs =>
    if c = sep ∧ inside = false then [] :: pieces sep false cs
    else extend c (pieces sep (inside != (c == '"')) cs)

/-- Whether a text has no separator outside quotes and ends outside quotes. -/
def whole (sep : Char) (inside : Bool) : List Char → Bool
  | [] => !inside
  | c :: cs => (inside || c != sep) && whole sep (inside != (c == '"')) cs

variable {sep : Char}

/-! ## What is whole -/

theorem whole_append {inside : Bool} {v w : List Char} (hv : whole sep inside v = true)
    (hw : whole sep false w = true) : whole sep inside (v ++ w) = true := by
  induction v generalizing inside with
  | nil =>
      cases inside with
      | false => exact hw
      | true => simp [whole] at hv
  | cons c cs ih =>
      simp only [whole, Bool.and_eq_true, List.cons_append] at hv ⊢
      exact ⟨hv.1, ih hv.2⟩

/-- A text without quotes is whole unless it holds the separator. -/
theorem whole_of_forall {w : List Char} (clear : ∀ c ∈ w, c ≠ sep ∧ c ≠ '"') :
    whole sep false w = true := by
  induction w with
  | nil => rfl
  | cons c cs ih =>
      obtain ⟨hsep, hquote⟩ := clear c (by simp)
      have rest := ih fun d member => clear d (by simp [member])
      simp [whole, hsep, beq_eq_false_iff_ne.2 hquote, rest]

/-- Behind the closing quote of a quoted name the reader is outside again. -/
theorem whole_doubled (notQuote : sep ≠ '"') (name : List Char) :
    whole sep true (Ident.doubled name ++ ['"']) = true := by
  induction name with
  | nil => simp [Ident.doubled, whole]
  | cons c cs ih =>
      by_cases hc : c = '"'
      · subst hc
        simpa [Ident.doubled, whole, notQuote.symm] using ih
      · simpa [Ident.doubled, whole, hc, beq_eq_false_iff_ne.2 hc] using ih

/-- Nothing that an identifier names is a separator of the text around it. -/
theorem whole_sql (outside : Ident.isPart sep = false) (notQuote : sep ≠ '"') {i : Ident}
    (formed : i.WellFormed) : whole sep false i.sql.toList = true := by
  cases i with
  | plain name =>
      apply whole_of_forall
      intro c member
      have part := Ident.isPart_of_isPlainName formed c member
      exact ⟨Ident.ne_of_isPart part outside, Ident.ne_of_isPart part (by decide)⟩
  | quoted name =>
      rw [Ident.toList_sql_quoted]
      simpa [whole, notQuote.symm] using whole_doubled notQuote name.toList

/-! ## Cutting -/

/-- A character that is quoted or no separator goes to the first piece. -/
theorem pieces_cons {inside : Bool} {c : Char} (uncut : (inside || c != sep) = true)
    (cs : List Char) :
    pieces sep inside (c :: cs) = extend c (pieces sep (inside != (c == '"')) cs) := by
  rw [pieces, if_neg]
  rintro ⟨rfl, rfl⟩
  simp at uncut

theorem pieces_whole_append {inside : Bool} {w : List Char} (hw : whole sep inside w = true)
    (rest : List Char) :
    pieces sep inside (w ++ sep :: rest) = w :: pieces sep false rest := by
  induction w generalizing inside with
  | nil =>
      cases inside with
      | false => simp [pieces]
      | true => simp [whole] at hw
  | cons c cs ih =>
      simp only [whole, Bool.and_eq_true] at hw
      rw [List.cons_append, pieces_cons hw.1, ih hw.2, extend]

theorem pieces_whole {inside : Bool} {w : List Char} (hw : whole sep inside w = true) :
    pieces sep inside w = [w] := by
  induction w generalizing inside with
  | nil => rfl
  | cons c cs ih =>
      simp only [whole, Bool.and_eq_true] at hw
      rw [pieces_cons hw.1, ih hw.2, extend]

/-- **A text put together from whole pieces falls apart into these.** -/
theorem pieces_intercalate {ws : List (List Char)} (nonempty : ws ≠ [])
    (wholes : ∀ w ∈ ws, whole sep false w = true) :
    pieces sep false ([sep].intercalate ws) = ws := by
  induction ws with
  | nil => exact absurd rfl nonempty
  | cons w rest ih =>
      have hw := wholes w (by simp)
      cases rest with
      | nil => rw [List.intercalate_singleton, pieces_whole hw]
      | cons v more =>
          have tail := ih (by simp) fun u member => wholes u (by simp [member])
          rw [List.intercalate_cons_cons, List.append_assoc, List.singleton_append,
            pieces_whole_append hw, tail]

end Amend

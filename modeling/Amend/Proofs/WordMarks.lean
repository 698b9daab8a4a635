/-
# Amend.Proofs.WordMarks — where the words of a name begin

`words` cuts a name into stretches and the stretches into words.  `marks` goes over
the name once, keeps its letters and numbers, and tells of each whether a word begins
at it; all it knows of what it has passed is the case of the last cased letter.  In
ASCII both find the same words (`words_marked`).

A name is spelled from its marks, with an underscore wherever a word begins but in
front of the first, so that spelling keeps the marks and the letters up to their case,
and nothing else (`spelled_eq_iff`).
-/
import Amend.Text.Words
import Mathlib.Data.List.Basic

set_option autoImplicit false

namespace Amend.Text

/-! ## Characters of ASCII -/

def IsAscii (s : List Char) : Prop := ∀ c ∈ s, c.toNat < 0x80

/-- What holds of each code below 128 holds of the characters of ASCII. -/
theorem ascii_induction {p : Char → Prop} (all : ∀ n : Fin 0x80, p (Char.ofNat n)) {c : Char}
    (ascii : c.toNat < 0x80) : p c := by
  simpa using all ⟨c.toNat, ascii⟩

theorem isUpper_of_isLower {c : Char} (ascii : c.toNat < 0x80) (lower : isLower c = true) :
    isUpper c = false := by
  revert lower
  exact ascii_induction (p := fun c => isLower c = true → isUpper c = false) (by decide) ascii

theorem isLower_of_isUpper {c : Char} (ascii : c.toNat < 0x80) (upper : isUpper c = true) :
    isLower c = false := by
  cases lower : isLower c with
  | false => rfl
  | true => rw [isUpper_of_isLower ascii lower] at upper; cases upper

theorem isLower_of_not_isAlphanumeric {c : Char} (ascii : c.toNat < 0x80)
    (mark : isAlphanumeric c = false) : isLower c = false := by
  revert mark
  exact ascii_induction (p := fun c => isAlphanumeric c = false → isLower c = false) (by decide)
    ascii

/-! ## Marks -/

/-- Whether a word begins at `c` with `rest` behind it; `before` is the case of the last cased
letter of the stretch, if it has begun. -/
def begins (before : Option Case) (c : Char) (rest : List Char) : Bool :=
  match before with
  | none => true
  | some .unset => false
  | some .lower => isUpper c
  | some .upper => isUpper c && rest.head?.any isLower

/-- The letters and numbers of a name, each with whether a word begins at it. -/
def marks (before : Option Case) : List Char → List (Bool × Char)
  | [] => []
  | c :: rest =>
    if isAlphanumeric c then
      (begins before c rest, c) :: marks (some ((before.getD .unset).after c)) rest
    else marks none rest

/-- A word begins at its first letter and nowhere else. -/
def marked : List Char → List (Bool × Char)
  | [] => []
  | c :: rest => (true, c) :: rest.map (false, ·)

theorem marks_letter {c : Char} (letter : isAlphanumeric c = true) (before : Option Case)
    (rest : List Char) :
    marks before (c :: rest)
      = (begins before c rest, c) :: marks (some ((before.getD .unset).after c)) rest := by
  rw [marks, if_pos letter]

theorem marks_break {c : Char} (mark : isAlphanumeric c = false) (before : Option Case)
    (rest : List Char) : marks before (c :: rest) = marks none rest := by
  rw [marks, mark]
  rfl

theorem marked_concat (w : List Char) (c : Char) :
    marked (w ++ [c]) = marked w ++ [(w.isEmpty, c)] := by
  cases w <;> simp [marked]

theorem Case.after_of_isLower {c : Char} (lower : isLower c = true) (case : Case) :
    case.after c = .lower := by
  simp [Case.after, lower]

theorem Case.after_of_isUpper {c : Char} (ascii : c.toNat < 0x80) (upper : isUpper c = true)
    (case : Case) : case.after c = .upper := by
  simp [Case.after, isLower_of_isUpper ascii upper, upper]

/-- The passes agree on the next character: that it begins a word when none is being read, and
otherwise only if it is the last of several capital letters. -/
def Agree (case : Case) (current : List Char) (before : Option Case) (s : List Char) : Prop :=
  ∀ c rest, s = c :: rest →
    case.after c = (before.getD .unset).after c
      ∧ begins before c rest
        = (current.isEmpty || (case == .upper && isUpper c && rest.head?.any isLower))

/-- A stretch is cut where a word begins at a mark. -/
theorem humps_marked {case : Case} {current : List Char} {before : Option Case} {s : List Char}
    (ascii : IsAscii s) (letters : ∀ c ∈ s, isAlphanumeric c = true)
    (agree : Agree case current before s) :
    (humps case current s).flatMap marked = marked current ++ marks before s := by
  fun_induction humps case current s generalizing before with
  | case1 case current empty => simp [List.isEmpty_iff.1 empty, marked, marks]
  | case2 case current some => simp [marks]
  | case3 case current c =>
      obtain ⟨-, begun⟩ := agree c [] rfl
      rw [marks_letter (letters c (by simp)), begun]
      simp [marked_concat, marks]
  | case4 case current c d rest cut ih =>
      -- a small letter in front of a capital one: the next word begins behind it
      obtain ⟨lower, upper⟩ := cut
      obtain ⟨same, begun⟩ := agree c (d :: rest) rfl
      have ascii_d := ascii d (by simp)
      have next := @ih (some .lower) (fun x member => ascii x (.tail _ member))
        (fun x member => letters x (.tail _ member)) (by
          rintro _ _ ⟨⟩
          simp [begins, upper, Case.after_of_isUpper ascii_d upper])
      rw [marks_letter (letters c (by simp)), begun, ← same, lower, List.flatMap_cons, next,
        marked_concat]
      simp [isLower_of_isUpper ascii_d upper, marked]
  | case5 case current c d rest whole cut ih =>
      -- a capital letter behind others and in front of a small one: the next word begins at it
      obtain ⟨rfl, upper, lower⟩ := cut
      obtain ⟨same, begun⟩ := agree c (d :: rest) rfl
      have ascii_d := ascii d (by simp)
      have next := @ih (some .upper) (fun x member => ascii x (.tail _ member))
        (fun x member => letters x (.tail _ member)) (by
          rintro _ _ ⟨⟩
          simp [begins, isUpper_of_isLower ascii_d lower, Case.after_of_isLower lower])
      rw [marks_letter (letters c (by simp)), begun, ← same,
        Case.after_of_isUpper (ascii c (by simp)) upper, List.flatMap_cons, next]
      simp [upper, lower, marked]
  | case6 case current c d rest whole uncut ih =>
      obtain ⟨same, begun⟩ := agree c (d :: rest) rfl
      have next := @ih (some (case.after c)) (fun x member => ascii x (.tail _ member))
        (fun x member => letters x (.tail _ member)) (by
          rintro _ _ ⟨⟩
          refine ⟨rfl, ?_⟩
          cases after : case.after c with
          | unset | upper => simp [begins]
          | lower =>
              have small : isUpper d = false := by simpa [after] using whole
              simp [begins, small])
      rw [marks_letter (letters c (by simp)), begun, ← same, next, marked_concat]
      simp_all

/-- A stretch ends at a character that is no letter and no number. -/
theorem marks_append_break {w : List Char} {c : Char} (letters : ∀ d ∈ w, isAlphanumeric d = true)
    (ascii : c.toNat < 0x80) (mark : isAlphanumeric c = false) (before : Option Case)
    (rest : List Char) : marks before (w ++ c :: rest) = marks before w ++ marks none rest := by
  induction w generalizing before with
  | nil => rw [List.nil_append, marks_break mark, marks, List.nil_append]
  | cons d w ih =>
      have front : begins before d (w ++ c :: rest) = begins before d w := by
        cases w with
        | nil => simp [begins, isLower_of_not_isAlphanumeric ascii mark]
        | cons e w => rfl
      rw [List.cons_append, marks_letter (letters d (by simp)), marks_letter (letters d (by simp)),
        front, ih fun x member => letters x (.tail _ member), List.cons_append]

/-- The marks of a name are those of its stretches. -/
theorem segments_flatMap_marks {current s : List Char} (ascii : IsAscii s)
    (letters : ∀ c ∈ current, isAlphanumeric c = true) :
    (segments current s).flatMap (marks none) = marks none (current ++ s) := by
  induction s generalizing current with
  | nil => simp [segments]
  | cons c rest ih =>
      have ascii' : IsAscii rest := fun d member => ascii d (.tail _ member)
      cases letter : isAlphanumeric c with
      | true =>
          have longer : ∀ d ∈ current ++ [c], isAlphanumeric d = true := by
            simpa [or_imp, forall_and, letter] using letters
          rw [segments, if_pos letter, ih ascii' longer, List.append_assoc, List.singleton_append]
      | false =>
          rw [segments, letter, marks_append_break letters (ascii c (by simp)) letter]
          simp [@ih [] ascii' (List.forall_mem_nil _)]

/-- What a stretch holds stands in the name, and is letters and numbers. -/
theorem mem_of_mem_segments {current s : List Char}
    (letters : ∀ c ∈ current, isAlphanumeric c = true) {w : List Char}
    (member : w ∈ segments current s) :
    ∀ c ∈ w, c ∈ current ++ s ∧ isAlphanumeric c = true := by
  induction s generalizing current with
  | nil =>
      obtain rfl := List.mem_singleton.1 member
      exact fun c inside => ⟨by simpa using inside, letters c inside⟩
  | cons d rest ih =>
      rw [segments] at member
      split at member
      · rename_i letter
        have longer : ∀ c ∈ current ++ [d], isAlphanumeric c = true := by
          simpa [or_imp, forall_and, letter] using letters
        simpa using ih longer member
      · intro c inside
        rcases List.mem_cons.1 member with rfl | later
        · exact ⟨List.mem_append_left _ inside, letters c inside⟩
        · obtain ⟨within, letter⟩ := ih (List.forall_mem_nil _) later c inside
          exact ⟨List.mem_append_right _ (.tail _ within), letter⟩

/-- **The words of a name begin where its marks say.** -/
theorem words_marked {s : List Char} (ascii : IsAscii s) :
    (words s).flatMap marked = marks none s := by
  have cut : ∀ w ∈ segments [] s, (humps .unset [] w).flatMap marked = marks none w := by
    intro w member
    have inside := mem_of_mem_segments (List.forall_mem_nil _) member
    refine humps_marked (fun c here => ascii c (inside c here).1) (fun c here => (inside c here).2)
      ?_
    rintro c rest -
    exact ⟨rfl, rfl⟩
  rw [words, List.flatMap_assoc, List.flatMap_congr cut,
    segments_flatMap_marks ascii (List.forall_mem_nil _), List.nil_append]

/-- The marks of a name are at its own letters and numbers. -/
theorem mem_of_mem_marks {before : Option Case} {s : List Char} {m : Bool × Char}
    (member : m ∈ marks before s) : m.2 ∈ s ∧ isAlphanumeric m.2 = true := by
  induction s generalizing before with
  | nil => cases member
  | cons c rest ih =>
      rw [marks] at member
      split at member
      · rename_i letter
        rcases List.mem_cons.1 member with rfl | later
        · exact ⟨.head _, letter⟩
        · exact ⟨.tail _ (ih later).1, (ih later).2⟩
      · exact ⟨.tail _ (ih member).1, (ih member).2⟩

/-- The first mark is at the first letter or number, where a word begins. -/
theorem head?_marks (s : List Char) :
    (marks none s).head? = (s.find? isAlphanumeric).map (true, ·) := by
  induction s with
  | nil => rfl
  | cons c rest ih =>
      cases letter : isAlphanumeric c with
      | true => simp [marks_letter letter, letter, begins]
      | false => simp [marks_break letter, letter, ih]

/-! ## Names spelled from their marks -/

theorem ne_nil_of_mem_humps {case : Case} {current s : List Char}
    (begun : case = .upper → current ≠ []) : ∀ w ∈ humps case current s, w ≠ [] := by
  fun_induction humps case current s with
  | case1 => exact List.forall_mem_nil _
  | case2 case current some => simpa using some
  | case3 => simp
  | case4 case current c d rest cut ih => simpa using ih nofun
  | case5 case current c d rest whole cut ih => simpa using ⟨begun cut.1, ih nofun⟩
  | case6 case current c d rest whole uncut ih => exact ih fun _ => by simp

/-- No word of a name is empty. -/
theorem ne_nil_of_mem_words {s w : List Char} (member : w ∈ words s) : w ≠ [] := by
  obtain ⟨stretch, -, inside⟩ := List.mem_flatMap.1 member
  refine ne_nil_of_mem_humps (fun begun => ?_) w inside
  cases begun

/-- A letter, behind an underscore where a word begins. -/
def spell : Bool × Char → List Char
  | (true, c) => ['_', c]
  | (false, c) => [c]

/-- The marks of a name, its letters in one form. -/
def formed (form : Char → Char) (s : String) : List (Bool × Char) :=
  (marks none s.toList).map (Prod.map id form)

/-- A name spelled from its marks; no underscore stands in front of the first word. -/
def spelled (form : Char → Char) (s : String) : List Char :=
  ((formed form s).flatMap spell).tail

theorem intercalate_eq_tail (ws : List (List Char)) :
    ['_'].intercalate ws = (ws.flatMap ('_' :: ·)).tail := by
  cases ws with
  | nil => rfl
  | cons w rest =>
      induction rest generalizing w with
      | nil => simp
      | cons w' rest ih => simpa using ih w'

/-- Words in one form are joined as they are spelled. -/
theorem intercalate_words {s : String} (ascii : IsAscii s.toList) (form : Char → Char) :
    ['_'].intercalate ((words s.toList).map (List.map form)) = spelled form s := by
  have each : ∀ w ∈ words s.toList,
      ((marked w).map (Prod.map id form)).flatMap spell = '_' :: w.map form := by
    intro w member
    obtain ⟨c, w, rfl⟩ := List.exists_cons_of_ne_nil (ne_nil_of_mem_words member)
    simp only [marked, List.map_cons, List.map_map, List.flatMap_cons, List.flatMap_map]
    simp [spell, List.map_eq_flatMap]
  rw [intercalate_eq_tail, spelled, formed, ← words_marked ascii, List.map_flatMap,
    List.flatMap_assoc, List.flatMap_congr each, List.flatMap_map]

theorem smallWord_eq_map {w : List Char} (ascii : IsAscii w) :
    smallWord w = w.map Char.toLower := by
  fun_induction smallWord w with
  | case1 => rfl
  | case2 => exact absurd (ascii 'Σ' (.head _)) (by decide)
  | case3 c rest _ ih =>
      rw [lowered, if_pos (ascii c (.head _)), ih fun d member => ascii d (.tail _ member)]
      rfl

theorem capitalWord_eq_map {w : List Char} (ascii : IsAscii w) :
    capitalWord w = w.map Char.toUpper := by
  have each : ∀ c ∈ w, raised c = [c.toUpper] := fun c member => by
    rw [raised, if_pos (ascii c member)]
  rw [capitalWord, List.flatMap_congr each, List.map_eq_flatMap]

theorem isAscii_of_mem_words {s w : List Char} (ascii : IsAscii s) (member : w ∈ words s) :
    IsAscii w := by
  intro c inside
  have letters : (marked w).map Prod.snd = w := by cases w <;> simp [marked, Function.comp_def]
  rw [← letters] at inside
  obtain ⟨m, mark, rfl⟩ := List.mem_map.1 inside
  have within : m ∈ marks none s := words_marked ascii ▸ List.mem_flatMap.2 ⟨w, member, mark⟩
  exact ascii _ (mem_of_mem_marks within).1

theorem snake_eq {s : String} (ascii : IsAscii s.toList) :
    (snake s).toList = spelled Char.toLower s := by
  rw [snake, String.toList_ofList, ← intercalate_words ascii]
  congr 1
  exact List.map_congr_left fun w member => smallWord_eq_map (isAscii_of_mem_words ascii member)

theorem capitalSnake_eq {s : String} (ascii : IsAscii s.toList) :
    (capitalSnake s).toList = spelled Char.toUpper s := by
  rw [capitalSnake, String.toList_ofList, ← intercalate_words ascii]
  congr 1
  exact List.map_congr_left fun w member => capitalWord_eq_map (isAscii_of_mem_words ascii member)

/-! ## What a spelling keeps -/

/-- Letters that are no underscores are read back from what they spell. -/
theorem flatMap_spell_inj {l l' : List (Bool × Char)} (letters : ∀ m ∈ l, m.2 ≠ '_')
    (letters' : ∀ m ∈ l', m.2 ≠ '_') (same : l.flatMap spell = l'.flatMap spell) : l = l' := by
  induction l generalizing l' with
  | nil =>
      cases l' with
      | nil => rfl
      | cons m' rest' => obtain ⟨_ | _, c⟩ := m' <;> simp [spell] at same
  | cons m rest ih =>
      cases l' with
      | nil => obtain ⟨_ | _, c⟩ := m <;> simp [spell] at same
      | cons m' rest' =>
          obtain ⟨letter, letters⟩ := List.forall_mem_cons.1 letters
          obtain ⟨letter', letters'⟩ := List.forall_mem_cons.1 letters'
          have apart := letter'.symm
          have first : m = m' ∧ rest.flatMap spell = rest'.flatMap spell := by
            obtain ⟨_ | _, c⟩ := m <;> obtain ⟨_ | _, c'⟩ := m' <;> simp_all [spell]
          rw [first.1, ih letters letters' first.2]

/-- A name without letters and numbers has no marks, and any other begins a word at the first. -/
theorem formed_cases (form : Char → Char) (s : String) :
    (s.toList.find? isAlphanumeric = none ∧ formed form s = [])
      ∨ ∃ c rest, s.toList.find? isAlphanumeric = some c
        ∧ formed form s = (true, form c) :: rest := by
  have first := head?_marks s.toList
  unfold formed
  cases found : s.toList.find? isAlphanumeric with
  | none =>
      rw [found, Option.map_none, List.head?_eq_none_iff] at first
      exact .inl ⟨rfl, by rw [first]; rfl⟩
  | some c =>
      rw [found, Option.map_some, List.head?_eq_some_iff] at first
      obtain ⟨rest, marked⟩ := first
      exact .inr ⟨c, rest.map (Prod.map id form), rfl, by rw [marked]; rfl⟩

/-- A form that makes no underscore of a letter or number. -/
theorem ne_underscore_of_mem_formed {form : Char → Char} {s : String} (ascii : IsAscii s.toList)
    (kept : ∀ n : Fin 0x80, isAlphanumeric (Char.ofNat n) = true → form (Char.ofNat n) ≠ '_') :
    ∀ m ∈ formed form s, m.2 ≠ '_' := by
  intro m member
  obtain ⟨m, mark, rfl⟩ := List.mem_map.1 member
  obtain ⟨inside, letter⟩ := mem_of_mem_marks mark
  revert letter
  exact ascii_induction (p := fun c => isAlphanumeric c = true → form c ≠ '_') kept
    (ascii _ inside)

/-- **Names are spelled alike just when their marks are alike in that form.** -/
theorem spelled_eq_iff {form : Char → Char} {s s' : String}
    (letters : ∀ m ∈ formed form s, m.2 ≠ '_') (letters' : ∀ m ∈ formed form s', m.2 ≠ '_') :
    spelled form s = spelled form s' ↔ formed form s = formed form s' := by
  refine ⟨fun same => ?_, fun same => by rw [spelled, spelled, same]⟩
  refine flatMap_spell_inj letters letters' ?_
  unfold spelled at same
  obtain ⟨-, first⟩ | ⟨c, rest, -, first⟩ := formed_cases form s <;>
    obtain ⟨-, first'⟩ | ⟨c', rest', -, first'⟩ := formed_cases form s' <;>
    rw [first, first'] at same ⊢ <;> simp_all [spell]

/-- Names are of the same words: their letters and numbers are the same but for the case, and words
begin at the same of them. -/
def SameWords (s s' : String) : Prop := formed Char.toUpper s = formed Char.toUpper s'

instance (s s' : String) : Decidable (SameWords s s') :=
  inferInstanceAs (Decidable (formed Char.toUpper s = formed Char.toUpper s'))

/-- **In capital letters names are spelled alike just when they are of the same words.** -/
theorem capitalSnake_eq_iff {s s' : String} (ascii : IsAscii s.toList)
    (ascii' : IsAscii s'.toList) :
    capitalSnake s = capitalSnake s' ↔ SameWords s s' := by
  have kept : ∀ n : Fin 0x80, isAlphanumeric (Char.ofNat n) = true →
      (Char.ofNat n).toUpper ≠ '_' := by decide
  rw [← String.toList_inj, capitalSnake_eq ascii, capitalSnake_eq ascii']
  exact spelled_eq_iff (ne_underscore_of_mem_formed ascii kept)
    (ne_underscore_of_mem_formed ascii' kept)

/-- Names of the same words are the same in small letters. -/
theorem snake_eq_of_sameWords {s s' : String} (ascii : IsAscii s.toList)
    (ascii' : IsAscii s'.toList) (same : SameWords s s') : snake s = snake s' := by
  have refold : ∀ {s : String}, IsAscii s.toList →
      (formed Char.toUpper s).map (Prod.map id Char.toLower) = formed Char.toLower s := by
    intro s ascii
    rw [formed, List.map_map]
    refine List.map_congr_left fun m mark => ?_
    have back : m.2.toUpper.toLower = m.2.toLower :=
      ascii_induction (p := fun c => c.toUpper.toLower = c.toLower) (by decide)
        (ascii _ (mem_of_mem_marks mark).1)
    simp [Prod.map, back]
  rw [← String.toList_inj, snake_eq ascii, snake_eq ascii', spelled, spelled, ← refold ascii,
    ← refold ascii', same]

/-- What is spelled is underscores and the letters and numbers of the name in their form. -/
theorem mem_spelled {form : Char → Char} {s : String} {c : Char} (member : c ∈ spelled form s) :
    c = '_' ∨ ∃ d ∈ s.toList, isAlphanumeric d = true ∧ c = form d := by
  obtain ⟨m, inside, letter⟩ := List.mem_flatMap.1 (List.mem_of_mem_tail member)
  obtain ⟨⟨begins, d⟩, mark, rfl⟩ := List.mem_map.1 inside
  obtain ⟨within, alphanumeric⟩ := mem_of_mem_marks mark
  cases begins with
  | false => exact .inr ⟨d, within, alphanumeric, by simpa [spell] using letter⟩
  | true =>
      obtain rfl | rfl : c = '_' ∨ c = form d := by simpa [spell] using letter
      · exact .inl rfl
      · exact .inr ⟨d, within, alphanumeric, rfl⟩

/-- What is spelled begins with the first letter or number of the name. -/
theorem head?_spelled (form : Char → Char) (s : String) :
    (spelled form s).head? = (s.toList.find? isAlphanumeric).map form := by
  unfold spelled
  obtain ⟨found, first⟩ | ⟨c, rest, found, first⟩ := formed_cases form s
  · rw [found, first]
    rfl
  · rw [found, first]
    rfl

end Amend.Text

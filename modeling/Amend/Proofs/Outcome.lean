/-
# Amend.Proofs.Outcome — how a computation that may fail succeeds

A computation in steps succeeds just when each of its steps does.  The lemmas of
this module take such a computation apart, so that a proof about a successful
run names the result of each step and never opens a `do` block.

`FailsBy` is the other side: it says which errors a computation can end in, and
a computation in steps ends in no other errors than its steps.
-/
import Amend.Error
import Mathlib.Data.List.Forall2

set_option autoImplicit false

namespace Amend

variable {ε ε' α β γ : Type}

theorem bind_eq_ok {x : Except ε α} {f : α → Except ε β} {b : β} :
    x >>= f = .ok b ↔ ∃ a, x = .ok a ∧ f a = .ok b := by
  cases x with
  | error e => simp [bind, Except.bind]
  | ok a => simp [bind, Except.bind]

theorem pure_eq_ok {a b : α} : (pure a : Except ε α) = .ok b ↔ a = b := by
  simp [pure, Except.pure]

/-- Steps that differ in the last result alone, which is the image of the other one. -/
theorem bind_eq_map_bind {x : Except ε α} {f : α → Except ε β} {f' : α → Except ε γ} {g : β → γ}
    (each : ∀ a, f' a = (f a).map g) : x >>= f' = (x >>= f).map g := by
  cases x with
  | error e => rfl
  | ok a => exact each a

/-- Steps differ only in what they do with a result that is there. -/
theorem bind_congr_of_ok {x : Except ε α} {f g : α → Except ε β}
    (same : ∀ a, x = .ok a → f a = g a) : x >>= f = x >>= g := by
  cases x with
  | error e => rfl
  | ok a => exact same a rfl

/-- Another wording of its errors does not make a computation succeed. -/
theorem mapError_eq_ok {x : Except ε α} (reword : ε → ε') {a : α} :
    x.mapError reword = .ok a ↔ x = .ok a := by
  cases x with
  | error e => simp [Except.mapError]
  | ok b => simp [Except.mapError]

/-- Steps over a list succeed just when each of them does, with the results in order. -/
theorem mapM_eq_ok {f : α → Except ε β} {l : List α} {l' : List β} :
    l.mapM f = .ok l' ↔ List.Forall₂ (fun a b => f a = .ok b) l l' := by
  induction l generalizing l' with
  | nil => simp [pure, Except.pure, eq_comm]
  | cons a l ih =>
      rw [List.mapM_cons, List.forall₂_cons_left_iff]
      constructor
      · intro h
        obtain ⟨b, hb, h⟩ := bind_eq_ok.1 h
        obtain ⟨bs, hbs, h⟩ := bind_eq_ok.1 h
        exact ⟨b, bs, hb, ih.1 hbs, (pure_eq_ok.1 h).symm⟩
      · rintro ⟨b, bs, hb, hbs, rfl⟩
        exact bind_eq_ok.2 ⟨b, hb, bind_eq_ok.2 ⟨bs, ih.2 hbs, rfl⟩⟩

/-- Steps over a list that end in nothing succeed just when each of them does. -/
theorem forM_eq_ok {f : α → Except ε Unit} {l : List α} :
    l.forM f = .ok () ↔ ∀ a ∈ l, f a = .ok () := by
  induction l with
  | nil => simp [pure, Except.pure]
  | cons a l ih =>
      simp only [List.forM_eq_forM, List.forM_cons] at ih ⊢
      rw [bind_eq_ok, List.forall_mem_cons, ← ih]
      exact ⟨fun ⟨_, head, tail⟩ => ⟨head, tail⟩, fun ⟨head, tail⟩ => ⟨(), head, tail⟩⟩

/-- Steps over a list have results just when each of them has one. -/
theorem exists_mapM_eq_ok {f : α → Except ε β} {l : List α} :
    (∃ l', l.mapM f = .ok l') ↔ ∀ a ∈ l, ∃ b, f a = .ok b := by
  induction l with
  | nil => simp [pure, Except.pure]
  | cons a l ih =>
      rw [List.forall_mem_cons, ← ih]
      constructor
      · rintro ⟨l', made⟩
        obtain ⟨b, bs, head, tail, rfl⟩ := List.forall₂_cons_left_iff.1 (mapM_eq_ok.1 made)
        exact ⟨⟨b, head⟩, bs, mapM_eq_ok.2 tail⟩
      · rintro ⟨⟨b, head⟩, bs, tail⟩
        exact ⟨b :: bs, mapM_eq_ok.2 (.cons head (mapM_eq_ok.1 tail))⟩

/-- Steps over a list that do not all succeed end with the first one that fails. -/
theorem exists_of_mapM_eq_error {f : α → Except ε β} {l : List α} {e : ε}
    (failed : l.mapM f = .error e) : ∃ before a after, l = before ++ a :: after
      ∧ (∀ b ∈ before, ∃ r, f b = .ok r) ∧ f a = .error e := by
  induction l with
  | nil => cases failed
  | cons a l ih =>
      rw [List.mapM_cons] at failed
      cases first : f a with
      | error e' =>
          rw [first] at failed
          cases failed
          exact ⟨[], a, l, rfl, nofun, first⟩
      | ok r =>
          rw [first] at failed
          cases rest : l.mapM f with
          | ok rs => simp [bind, Except.bind, rest, pure, Except.pure] at failed
          | error e' =>
              simp only [bind, Except.bind, rest] at failed
              cases failed
              obtain ⟨before, a', after, rfl, each, stop⟩ := ih rest
              exact ⟨a :: before, a', after, rfl, List.forall_mem_cons.2 ⟨⟨r, first⟩, each⟩, stop⟩

/-- Each result in order has its step. -/
theorem exists_of_forall₂_right {R : α → β → Prop} {l : List α} {l' : List β}
    (related : List.Forall₂ R l l') {b : β} (member : b ∈ l') : ∃ a ∈ l, R a b := by
  induction related with
  | nil => cases member
  | @cons a b' l l' head tail ih =>
      rcases List.mem_cons.1 member with rfl | member
      · exact ⟨a, by simp, head⟩
      · obtain ⟨c, here, holds⟩ := ih member
        exact ⟨c, by simp [here], holds⟩

/-- What each result has in common with its step, the lists have in common. -/
theorem map_eq_of_forall₂ {R : α → β → Prop} {f : α → γ} {g : β → γ} {l : List α} {l' : List β}
    (related : List.Forall₂ R l l') (common : ∀ {a b}, R a b → g b = f a) :
    l'.map g = l.map f := by
  induction related with
  | nil => rfl
  | cons head tail ih => rw [List.map_cons, List.map_cons, common head, ih]

theorem Ident.read_eq_ok {written : String} {i : Ident} :
    Ident.read written = .ok i ↔ Ident.parse written = .ok i :=
  mapError_eq_ok Error.ident

/-! ## Errors -/

/-- A computation that ends in no other errors. -/
def FailsBy (P : ε → Prop) (x : Except ε α) : Prop := ∀ e, x = .error e → P e

namespace FailsBy

variable {P Q : ε → Prop}

theorem ok (a : α) : FailsBy P (.ok a : Except ε α) := nofun

theorem error {e : ε} (holds : P e) : FailsBy P (.error e : Except ε α) := by
  rintro _ ⟨⟩
  exact holds

theorem imp {x : Except ε α} (fails : FailsBy P x) (weaker : ∀ e, P e → Q e) : FailsBy Q x :=
  fun e failed => weaker e (fails e failed)

theorem bind {x : Except ε α} {f : α → Except ε β} (first : FailsBy P x)
    (rest : ∀ a, x = .ok a → FailsBy P (f a)) : FailsBy P (x >>= f) := by
  cases x with
  | error e => exact error (first e rfl)
  | ok a => exact rest a rfl

theorem mapError {x : Except ε' α} {reword : ε' → ε} (holds : ∀ e, P (reword e)) :
    FailsBy P (x.mapError reword) := by
  cases x with
  | error e => exact error (holds e)
  | ok a => exact ok a

theorem mapM {f : α → Except ε β} {l : List α} (each : ∀ a ∈ l, FailsBy P (f a)) :
    FailsBy P (l.mapM f) := by
  induction l with
  | nil => exact ok []
  | cons a l ih =>
      rw [List.mapM_cons]
      refine (each a (by simp)).bind fun b _ => ?_
      exact (ih fun c later => each c (by simp [later])).bind fun bs _ => ok _

theorem forM {f : α → Except ε Unit} {l : List α} (each : ∀ a ∈ l, FailsBy P (f a)) :
    FailsBy P (l.forM f) := by
  induction l with
  | nil => exact ok ()
  | cons a l ih =>
      rw [List.forM_eq_forM, List.forM_cons]
      exact (each a (by simp)).bind fun _ _ => ih fun b later => each b (by simp [later])

end FailsBy

end Amend

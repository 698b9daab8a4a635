/-
# Amend.Proofs.Steady — clients that have closed stay closed

What clients do is anybody's guess, apart from one thing: a client that has closed
stays closed, whatever is done next (`Steady`).

The clients of the scripted server are steady (`backend_steady`).  It ends
connections while it plays a scene and takes nothing back: whatever is asked of
it, those that it has ended are among those that it has ended afterwards (`Goes`).
-/
import Amend.Rehearsal.Exchange

set_option autoImplicit false

namespace Amend

namespace Link.Backend

variable {ω κ : Type}

/-- Clients that have closed in one world have closed in another. -/
def Keeps (b : Backend ω κ) (world after : ω) : Prop :=
  ∀ id, b.isClosed world id = true → b.isClosed after id = true

/-- Whatever is done, a client that has closed stays closed. -/
structure Steady (b : Backend ω κ) : Prop where
  connect : ∀ settings world, b.Keeps world (b.connect settings world).2
  execute : ∀ id sql values world, b.Keeps world (b.execute id sql values world).2
  executeWithin : ∀ limit id sql values world,
    b.Keeps world (b.executeWithin limit id sql values world).2
  cancel : ∀ id world, b.Keeps world (b.cancel id world).2

theorem Keeps.trans {b : Backend ω κ} {world between after : ω} (first : b.Keeps world between)
    (later : b.Keeps between after) : b.Keeps world after :=
  fun id closed => later id (first id closed)

end Link.Backend

namespace Rehearsal.Server

open Link (Settings Place)

/-- The server goes on, and has taken back none of the connections that it ended. -/
def Goes (s s' : Server) : Prop := ∀ id ∈ s.ended, id ∈ s'.ended

variable {s s' s'' : Server}

theorem Goes.trans (first : s.Goes s') (later : s'.Goes s'') : s.Goes s'' :=
  fun id member => later id (first id member)

/-- The server goes on where it has ended the same connections. -/
theorem Goes.of_eq (same : s'.ended = s.ended) : s.Goes s' := fun id member => by
  rw [same]
  exact member

theorem Goes.refl (s : Server) : s.Goes s := .of_eq rfl

/-! ## Connections -/

theorem goes_meetQuestion (s : Server) : s.Goes s.meetQuestion.2 := by
  unfold meetQuestion nextStartup sees
  rcases s.startups.head? with _ | _ | _ <;> exact .of_eq rfl

theorem goes_meetStartup (settings : Settings) (first : Link.Greeting) (s : Server) :
    s.Goes (s.meetStartup settings first).2 := by
  unfold meetStartup nextStartup sees
  rcases s.startups.head? with _ | _ | _
  · dsimp only
    split <;> exact .of_eq rfl
  · exact .of_eq rfl
  · exact .of_eq rfl

theorem goes_meet (settings : Settings) (s : Server) : s.Goes (s.meet settings).2 := by
  unfold meet
  split
  · exact .refl s
  · exact goes_meetQuestion s
  · exact goes_meetStartup settings _ s

theorem goes_reach (settings : Settings) (place : Place) (s : Server) :
    s.Goes (s.reach settings place).2 := by
  unfold reach
  split
  · exact .refl s
  · exact goes_meet settings s

theorem goes_tryEach (settings : Settings) (s : Server) (places : List Place) :
    s.Goes (s.tryEach settings places).2 := by
  induction places generalizing s with
  | nil => exact .refl s
  | cons place rest ih =>
      -- `tryEach` answers for the last place as `reach` does, so that it is a case of its own.
      cases rest with
      | nil => exact goes_reach settings place s
      | cons next later =>
          have first := goes_reach settings place s
          rw [tryEach]
          split
          · rename_i reached
            rw [reached] at first
            exact first
          · rename_i reached
            rw [reached] at first
            exact first.trans (ih _)

theorem goes_connect (settings : Settings) (s : Server) : s.Goes (s.connect settings).2 := by
  unfold connect
  split
  · exact .refl s
  · exact goes_tryEach settings s _

/-! ## Statements -/

theorem goes_trouble (id : Nat) (t : Trouble) (s : Server) : s.Goes (s.trouble id t).2 := by
  cases t with
  | hangUp => exact fun _ member => List.mem_cons_of_mem _ member
  | _ => exact .of_eq rfl

theorem goes_parse (id : Nat) (sql : String) (s : Server) : s.Goes (s.parse id sql).2 := by
  have seen : s.Goes (s.nextScene.sees (.parse sql)) := .of_eq rfl
  unfold parse
  dsimp only
  split
  · exact seen.trans (goes_trouble id _ _)
  · exact seen

theorem goes_perform (id : Nat) (params : Except Link.Fault (List (Option Text.Bytes)))
    (s : Server) : s.Goes (s.perform id params).2 := by
  unfold perform
  split
  · exact .refl s
  · rename_i params
    have seen : s.Goes (s.sees (.bind params)) := .of_eq rfl
    dsimp only
    split
    · exact seen.trans (goes_trouble id _ _)
    · exact seen

theorem goes_askCatalog (id : Nat) (types : List WireType) (s : Server) :
    s.Goes (s.askCatalog id types).2 := by
  have performed := goes_perform id (Link.bindNumber extensionNumber types) s
  unfold askCatalog
  split <;> rename_i same <;> rw [same] at performed <;> exact performed

/-- To look up the catalogue ends no connection but by the statements that are prepared for it. -/
theorem goes_catalog {prepare : String → Server → Except Setback (List WireType) × Server}
    (prepares : ∀ (sql : String) (s : Server), s.Goes (prepare sql s).2) (id : Nat) (s : Server) :
    s.Goes (s.catalog id prepare).2 := by
  have kept : ∀ {s' : Server} (types : List WireType), s.Goes s' →
      s.Goes { s' with catalogs := (id, types) :: s'.catalogs } :=
    fun _ goes => goes.trans (.of_eq rfl)
  have first := prepares Link.catalogQuery s
  unfold catalog
  split
  · exact .refl s
  · rcases asked : prepare Link.catalogQuery s with ⟨(fault | _) | types, after⟩ <;>
      rw [asked] at first <;> dsimp only
    -- Only an unknown table makes it prepare a second statement.
    · by_cases code : fault.code? = some Link.undefinedTable
      · have second := first.trans (prepares Link.rangelessQuery after)
        rw [if_pos code]
        rcases again : prepare Link.rangelessQuery after with ⟨_ | types, later⟩ <;>
          rw [again] at second
        · exact second
        · exact kept types second
      · rw [if_neg code]
        exact first
    · exact first
    · exact kept types first

theorem goes_prepareWithin (id depth : Nat) (sql : String) (s : Server) :
    s.Goes (s.prepareWithin id depth sql).2 := by
  -- What the catalogue prepares is less deep, so that `goes_catalog` applies to the hypothesis.
  induction depth generalizing sql s with
  | zero => exact .refl s
  | succ depth ih =>
      have parsed := goes_parse id sql s
      rw [prepareWithin]
      split
      · rename_i same
        rw [same] at parsed
        exact parsed
      · rename_i same
        rw [same] at parsed
        refine parsed.trans ?_
        split
        · exact .refl _
        · rename_i after _
          have asked := goes_catalog ih id after
          split <;> rename_i found <;> rw [found] at asked
          · exact asked
          · exact asked.trans (goes_askCatalog id _ _)

theorem goes_run (id : Nat) (sql : String) (values : List Value) (s : Server) :
    s.Goes (s.run id sql values).2 := by
  have prepared := goes_prepareWithin id (s.scenes.length + 1) sql s
  unfold run
  split
  · exact .refl s
  · split
    · exact .refl s
    · split
      · exact .refl s
      · unfold prepare
        split <;> rename_i same <;> rw [same] at prepared
        · exact prepared
        · exact prepared.trans (goes_perform id _ _)

theorem goes_cancel (s : Server) : s.Goes s.cancel.2 := by
  unfold cancel
  split <;> exact .of_eq rfl

/-! ## Clients -/

theorem keeps_of_goes (goes : s.Goes s') : backend.Keeps s s' := by
  intro id closed
  have ended : id ∈ s.ended := by simpa [backend] using closed
  simpa [backend] using goes id ended

/-- **Clients of the scripted server are steady.** -/
theorem backend_steady : backend.Steady where
  connect settings s := keeps_of_goes (goes_connect settings s)
  execute id sql values s := keeps_of_goes (goes_run id sql values s)
  executeWithin _ id sql values s := keeps_of_goes (goes_run id sql values s)
  cancel _ s := keeps_of_goes (goes_cancel s)

end Rehearsal.Server

end Amend

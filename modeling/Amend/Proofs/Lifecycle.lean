/-
# Amend.Proofs.Lifecycle — when a handle is open, and whom it contacts

A handle goes through a run of actions, and connections end in between.  A recorded
backend keeps the contacts that are made through it, so that it shows how often
there was one and that there was none.

A handle starts without a client or with the one that it was made for (`Starts`).
At any point of a run it opens as `Connects` says, or without a contact when it is
open; it executes as `Sends` says; and to close it takes its client away (`Closes`).
Once a handle that was made for a client is closed there is no way back (`Gone`): if
the connection ended it is `Lost`, if somebody closed it it is `Ended`, and every
call keeps either (`kept_lost`, `kept_ended`).  `Lives` puts it together
(`lifecycle_of_run`).  Of the clients it is used that those that have closed stay
closed, and nothing else: a client may have closed by the time it is handed out.
-/
import Amend.Proofs.Protocol
import Amend.Proofs.Steady

set_option autoImplicit false

namespace Amend.Link

variable {ω κ : Type}

/-! ## Backends -/

/-- A contact that a handle makes. -/
inductive Contact (κ : Type) where
  | connect (settings : Settings)
  | execute (id : κ) (sql : String) (values : List Value) (limit : Option Duration)
  | cancel (id : κ)

namespace Backend

/-- A backend that keeps the contacts made through it. -/
def recorded (b : Backend ω κ) : Backend (ω × List (Contact κ)) κ where
  connect settings world :=
    let (outcome, after) := b.connect settings world.1
    (outcome, after, world.2 ++ [.connect settings])
  isClosed world id := b.isClosed world.1 id
  execute id sql values world :=
    let (outcome, after) := b.execute id sql values world.1
    (outcome, after, world.2 ++ [.execute id sql values none])
  executeWithin limit id sql values world :=
    let (outcome, after) := b.executeWithin limit id sql values world.1
    (outcome, after, world.2 ++ [.execute id sql values (some limit)])
  cancel id world :=
    let (outcome, after) := b.cancel id world.1
    (outcome, after, world.2 ++ [.cancel id])

section Recorded

variable (b : Backend ω κ) (world : ω × List (Contact κ))

@[simp] theorem connect_recorded (settings : Settings) :
    b.recorded.connect settings world = ((b.connect settings world.1).1,
      (b.connect settings world.1).2, world.2 ++ [.connect settings]) := rfl

@[simp] theorem isClosed_recorded (id : κ) :
    b.recorded.isClosed world id = b.isClosed world.1 id := rfl

@[simp] theorem execute_recorded (id : κ) (sql : String) (values : List Value) :
    b.recorded.execute id sql values world = ((b.execute id sql values world.1).1,
      (b.execute id sql values world.1).2, world.2 ++ [.execute id sql values none]) := rfl

@[simp] theorem executeWithin_recorded (limit : Duration) (id : κ) (sql : String)
    (values : List Value) :
    b.recorded.executeWithin limit id sql values world
      = ((b.executeWithin limit id sql values world.1).1,
        (b.executeWithin limit id sql values world.1).2,
        world.2 ++ [.execute id sql values (some limit)]) := rfl

@[simp] theorem cancel_recorded (id : κ) :
    b.recorded.cancel id world
      = ((b.cancel id world.1).1, (b.cancel id world.1).2, world.2 ++ [.cancel id]) := rfl

end Recorded

end Backend

/-! ## Runs -/

/-- What is done with a handle, or happens to its world meanwhile. -/
inductive Action (ω : Type) where
  | opens
  | closes
  | executes (sql : String) (values : List Value) (timeout : Option Duration)
  | commits (q : Query)
  /-- Something that is not the handle's doing, such as the end of a connection. -/
  | happens (change : ω → ω)

/-- A session whose contacts are recorded. -/
abbrev Watched (ω κ : Type) := Session (ω × List (Contact κ)) κ

namespace Session

def contacts (s : Watched ω κ) : List (Contact κ) := s.world.2

/-- The session after an action. -/
def act (b : Backend ω κ) (s : Watched ω κ) : Action ω → Watched ω κ
  | .opens => (s.opened b.recorded).state
  | .closes => s.close
  | .executes sql values timeout => (s.execute b.recorded sql values timeout).state
  | .commits q => ((q.commitInPlace (connection b.recorded)).reply s).state
  | .happens change => { s with world := (change s.world.1, s.world.2) }

def acts (b : Backend ω κ) (s : Watched ω κ) (actions : List (Action ω)) : Watched ω κ :=
  actions.foldl (act b) s

end Session

/-- What happens beside the actions opens no client that has closed. -/
def Undisturbed (b : Backend ω κ) (actions : List (Action ω)) : Prop :=
  ∀ change, .happens change ∈ actions → ∀ world, b.Keeps world (change world)

namespace Session

/-! ## Opening -/

/-- An attempt to connect, the only one. -/
structure Connects (b : Backend ω κ) (settings : Settings) (s : Watched ω κ)
    (r : Reply (Watched ω κ) Unit) : Prop where
  once : contacts r.state = contacts s ++ [.connect settings]
  /-- Nothing but the attempt happens to the world. -/
  world : r.state.world.1 = (b.connect settings s.world.1).2
  /-- The handle has the new client, and from now on is open until that has closed. -/
  success : ∀ id, (b.connect settings s.world.1).1 = .ok id →
    r.outcome = .ok () ∧ r.state.handle = { s.handle with client := some ⟨id, true⟩ }
      ∧ ∀ world, isOpen b.recorded ⟨r.state.handle, world⟩ = !b.isClosed world.1 id
  /-- The handle stays as it was, and closed. -/
  failure : ∀ fault, (b.connect settings s.world.1).1 = .error fault →
    r.outcome = .error (.connection fault) ∧ r.state.handle = s.handle
      ∧ r.state.isOpen b.recorded = false

theorem opened_of_open {b : Backend ω κ} {s : Session ω κ} (isOpen : s.isOpen b = true) :
    s.opened b = ⟨.ok (), s, []⟩ := by
  rw [opened, if_pos isOpen]

theorem opened_of_lost {b : Backend ω κ} {s : Session ω κ} (closed : s.isOpen b = false)
    (none_ : s.handle.settings = none) : s.opened b = ⟨.error .closed, s, []⟩ := by
  simp [opened, closed, none_]

/-- A handle whose client is the same is closed as long as that stays closed. -/
theorem isOpen_of_keeps {b : Backend ω κ} {s s' : Watched ω κ} (same : s'.handle = s.handle)
    (keeps : b.Keeps s.world.1 s'.world.1) (closed : s.isOpen b.recorded = false) :
    s'.isOpen b.recorded = false := by
  unfold isOpen at closed ⊢
  rw [same]
  cases there : s.handle.client with
  | none => rfl
  | some client =>
      rw [there] at closed
      have gone : b.isClosed s.world.1 client.id = true := by simpa using closed
      simpa using keeps client.id gone

theorem connects_opened {b : Backend ω κ} (steady : b.Steady) {s : Watched ω κ}
    {settings : Settings} (there : s.handle.settings = some settings)
    (closed : s.isOpen b.recorded = false) : Connects b settings s (s.opened b.recorded) := by
  have keeps := steady.connect settings s.world.1
  cases made : b.connect settings s.world.1 with
  | mk outcome after =>
      -- An attempt that fails may let time pass, in which an old client does not come back.
      rw [made] at keeps
      cases outcome with
      | error fault =>
          have opened_ : s.opened b.recorded = ⟨.error (.connection fault),
              { s with world := (after, s.world.2 ++ [.connect settings]) },
              [.opening s.handle.database]⟩ := by
            simp [opened, closed, there, made]
          rw [opened_]
          exact {
            once := rfl
            world := by rw [made]
            success := fun id succeeded => by simp [made] at succeeded
            failure := fun fault' failed => by
              obtain rfl : fault = fault' := by simpa [made] using failed
              exact ⟨rfl, rfl, isOpen_of_keeps (s := s) rfl keeps closed⟩ }
      | ok id =>
          have opened_ : s.opened b.recorded = ⟨.ok (),
              ⟨{ s.handle with client := some ⟨id, true⟩ },
                (after, s.world.2 ++ [.connect settings])⟩, [.opening s.handle.database]⟩ := by
            simp [opened, closed, there, made]
          rw [opened_]
          exact {
            once := rfl
            world := by rw [made]
            success := fun id' succeeded => by
              obtain rfl : id = id' := by simpa [made] using succeeded
              exact ⟨rfl, rfl, fun _ => rfl⟩
            failure := fun fault failed => by simp [made] at failed }

/-! ## Executing -/

/-- A statement is sent once on a client, and when the time has passed, one request to cancel. -/
structure Sends (b : Backend ω κ) (client : Client κ) (sql : String) (values : List Value)
    (timeout : Option Duration) (s : Watched ω κ) (r : Reply (Watched ω κ) Nat) : Prop where
  handle : r.state.handle = s.handle
  unlimited : timeout = none →
    r.outcome = (b.execute client.id sql values s.world.1).1.mapError Error.query
      ∧ contacts r.state = contacts s ++ [.execute client.id sql values none]
  answered : ∀ limit outcome, timeout = some limit →
    (b.executeWithin limit client.id sql values s.world.1).1 = some outcome →
    r.outcome = outcome.mapError Error.query
      ∧ contacts r.state = contacts s ++ [.execute client.id sql values (some limit)]
  late : ∀ limit, timeout = some limit →
    (b.executeWithin limit client.id sql values s.world.1).1 = none →
    r.outcome = .error (.timeout limit)
      ∧ contacts r.state = contacts s
        ++ [.execute client.id sql values (some limit), .cancel client.id]
  keeps : b.Steady → b.Keeps s.world.1 r.state.world.1

section Execution

variable (b : Backend ω κ) (s : Watched ω κ) (client : Client κ) (sql : String)
  (values : List Value)

theorem execute_unlimited (there : s.handle.client = some client) :
    let (outcome, after) := b.execute client.id sql values s.world.1
    let r := s.execute b.recorded sql values none
    r.outcome = outcome.mapError Error.query ∧ r.state
      = { s with world := (after, s.world.2 ++ [.execute client.id sql values none]) } := by
  simp [execute, there]

theorem execute_answered (there : s.handle.client = some client) {limit : Duration}
    {outcome : Except Fault Nat} {after : ω}
    (answered : b.executeWithin limit client.id sql values s.world.1 = (some outcome, after)) :
    let r := s.execute b.recorded sql values (some limit)
    r.outcome = outcome.mapError Error.query ∧ r.state
      = { s with world := (after, s.world.2 ++ [.execute client.id sql values (some limit)]) } := by
  simp [execute, there, executeWithin, answered]

/-- What comes of the request to cancel shows in the log alone. -/
theorem execute_late (there : s.handle.client = some client) {limit : Duration} {after : ω}
    (late : b.executeWithin limit client.id sql values s.world.1 = (none, after)) :
    let r := s.execute b.recorded sql values (some limit)
    r.outcome = .error (.timeout limit) ∧ r.state = { s with world := ((b.cancel client.id after).2,
      s.world.2 ++ [.execute client.id sql values (some limit), .cancel client.id]) } := by
  rcases cancelled : b.cancel client.id after with ⟨_ | _, later⟩ <;>
    simp [execute, there, executeWithin, late, cancelled]

end Execution

theorem sends_execute (b : Backend ω κ) {client : Client κ} {s : Watched ω κ}
    (there : s.handle.client = some client) (sql : String) (values : List Value)
    (timeout : Option Duration) :
    Sends b client sql values timeout s (s.execute b.recorded sql values timeout) := by
  cases timeout with
  | none =>
      obtain ⟨outcome, state⟩ := execute_unlimited b s client sql values there
      exact {
        handle := by rw [state]
        unlimited := fun _ => ⟨outcome, by rw [contacts, state]; rfl⟩
        answered := nofun
        late := nofun
        keeps := fun steady => by
          rw [state]
          exact steady.execute client.id sql values s.world.1 }
  | some limit =>
      have within := fun steady : b.Steady =>
        steady.executeWithin limit client.id sql values s.world.1
      rcases answer : b.executeWithin limit client.id sql values s.world.1
        with ⟨_ | result, after⟩
      · obtain ⟨outcome, state⟩ := execute_late b s client sql values there answer
        exact {
          handle := by rw [state]
          unlimited := nofun
          answered := fun limit' result same answered => by
            cases same
            simp [answer] at answered
          late := fun limit' same _ => by
            cases same
            exact ⟨outcome, by rw [contacts, state]; rfl⟩
          keeps := fun steady => by
            rw [state]
            have first := within steady
            rw [answer] at first
            exact first.trans (steady.cancel client.id after) }
      · obtain ⟨outcome, state⟩ := execute_answered b s client sql values there answer
        exact {
          handle := by rw [state]
          unlimited := nofun
          answered := fun limit' result' same answered => by
            cases same
            obtain rfl : result = result' := by simpa [answer] using answered
            exact ⟨outcome, by rw [contacts, state]; rfl⟩
          late := fun limit' same late => by
            cases same
            simp [answer] at late
          keeps := fun steady => by
            rw [state]
            have first := within steady
            rw [answer] at first
            exact first }

theorem execute_of_none {b : Backend ω κ} {s : Session ω κ} (none_ : s.handle.client = none)
    (sql : String) (values : List Value) (timeout : Option Duration) :
    s.execute b sql values timeout = ⟨.error .closed, s, []⟩ := by
  simp [execute, none_]

theorem handle_execute (b : Backend ω κ) (s : Watched ω κ) (sql : String) (values : List Value)
    (timeout : Option Duration) :
    (s.execute b.recorded sql values timeout).state.handle = s.handle := by
  cases there : s.handle.client with
  | none => rw [execute_of_none there]
  | some client => exact (sends_execute b there sql values timeout).handle

theorem keeps_execute {b : Backend ω κ} (steady : b.Steady) (s : Watched ω κ) (sql : String)
    (values : List Value) (timeout : Option Duration) :
    b.Keeps s.world.1 (s.execute b.recorded sql values timeout).state.world.1 := by
  cases there : s.handle.client with
  | none =>
      rw [execute_of_none there]
      exact fun _ closed => closed
  | some client => exact (sends_execute b there sql values timeout).keeps steady

/-! ## Closing -/

/-- The client is taken away: nobody is contacted, then or by what is executed afterwards. -/
structure Closes (b : Backend ω κ) (s s' : Watched ω κ) : Prop where
  world : s'.world = s.world
  handle : s'.handle = { s.handle with client := none }
  /-- Nothing that happens to the world opens it again. -/
  closed : ∀ world, isOpen b.recorded ⟨s'.handle, world⟩ = false
  idle : ∀ sql values timeout,
    s'.execute b.recorded sql values timeout = ⟨.error .closed, s', []⟩

theorem closes_close (b : Backend ω κ) (s : Watched ω κ) : Closes b s s.close where
  world := rfl
  handle := rfl
  closed _ := rfl
  idle := execute_of_none rfl

/-! ## Actions -/

/-- A commit keeps what opening and executing keep. -/
theorem commit_preserves {σ : Type} {P : σ → Prop} {c : Connection σ}
    (opens : ∀ state, P state → P (c.opened state).state)
    (executes : ∀ state sql params timeout, P state →
      P (c.execute state sql params timeout).state)
    (q : Query) {state : σ} (holds : P state) : P ((q.commitInPlace c).reply state).state := by
  rw [Query.reply_commitInPlace]
  unfold Query.commit Query.send
  split
  · exact holds
  · exact holds
  · split
    · exact executes state _ _ _ holds
    · dsimp only
      split
      · exact opens state holds
      · exact executes _ _ _ _ (opens state holds)

/-- What each call keeps. -/
structure Kept (b : Backend ω κ) (P : Watched ω κ → Prop) : Prop where
  opens : ∀ s, P s → P (s.opened b.recorded).state
  closes : ∀ s, P s → P s.close
  executes : ∀ s sql values timeout, P s → P (s.execute b.recorded sql values timeout).state

section Kept

variable {b : Backend ω κ} {P : Watched ω κ → Prop}

/-- An action keeps what each call keeps, and what happens beside it. -/
theorem Kept.act (kept : Kept b P) {action : Action ω}
    (happens : ∀ change, action = .happens change → ∀ s, P s →
      P { s with world := (change s.world.1, s.world.2) })
    {s : Watched ω κ} (holds : P s) : P (s.act b action) := by
  cases action with
  | opens => exact kept.opens s holds
  | closes => exact kept.closes s holds
  | executes sql values timeout => exact kept.executes s sql values timeout holds
  | commits q => exact commit_preserves kept.opens (fun s _ _ _ => kept.executes s _ _ _) q holds
  | happens change => exact happens change rfl s holds

/-- So does a run. -/
theorem Kept.acts (kept : Kept b P) {actions : List (Action ω)}
    (happens : ∀ change, .happens change ∈ actions → ∀ s, P s →
      P { s with world := (change s.world.1, s.world.2) })
    {s : Watched ω κ} (holds : P s) : P (s.acts b actions) := by
  induction actions generalizing s with
  | nil => exact holds
  | cons action rest ih =>
      have step : P (s.act b action) :=
        kept.act (fun change same => happens change (by simp [same])) holds
      exact ih (fun change later => happens change (List.mem_cons_of_mem _ later)) step

end Kept

/-- Opening sets at most the client. -/
theorem made_opened (b : Backend ω κ) (s : Session ω κ) :
    (s.opened b).state.handle.settings = s.handle.settings
      ∧ (s.opened b).state.handle.database = s.handle.database := by
  unfold opened
  split
  · exact ⟨rfl, rfl⟩
  · split
    · exact ⟨rfl, rfl⟩
    · split <;> exact ⟨rfl, rfl⟩

theorem kept_made (b : Backend ω κ) (settings : Option Settings) (database : String) :
    Kept b fun s => s.handle.settings = settings ∧ s.handle.database = database where
  opens s same := by
    obtain ⟨settings_, database_⟩ := made_opened b.recorded s
    exact ⟨settings_.trans same.1, database_.trans same.2⟩
  closes _ same := same
  executes s sql values timeout same := by
    rw [handle_execute]
    exact same

/-- A handle's settings and its database are those that it was made with. -/
theorem made_acts (b : Backend ω κ) (s : Watched ω κ) (actions : List (Action ω)) :
    (s.acts b actions).handle.settings = s.handle.settings
      ∧ (s.acts b actions).handle.database = s.handle.database :=
  (kept_made b s.handle.settings s.handle.database).acts (fun _ _ _ same => same) ⟨rfl, rfl⟩

/-! ## Lost handles -/

/-- A closed handle that has nothing to connect with. -/
structure Lost (b : Backend ω κ) (s : Watched ω κ) : Prop where
  settings : s.handle.settings = none
  closed : s.isOpen b.recorded = false

/-- Only a successful open sets a client, and a lost handle has nothing to open with. -/
theorem kept_lost {b : Backend ω κ} (steady : b.Steady) : Kept b (Lost b) where
  opens s lost := by
    rw [opened_of_lost lost.closed lost.settings]
    exact lost
  closes _ lost := ⟨lost.settings, rfl⟩
  executes s sql values timeout lost := by
    have same := handle_execute b s sql values timeout
    exact ⟨(congrArg Handle.settings same).trans lost.settings,
      isOpen_of_keeps same (keeps_execute steady s sql values timeout) lost.closed⟩

/-- **A lost handle stays lost.** -/
theorem Lost.acts {b : Backend ω κ} (steady : b.Steady) {s : Watched ω κ} (lost : Lost b s)
    {actions : List (Action ω)} (undisturbed : Undisturbed b actions) :
    Lost b (s.acts b actions) :=
  (kept_lost steady).acts (fun change happens s lost =>
    ⟨lost.settings, isOpen_of_keeps (s := s) rfl (undisturbed change happens s.world.1)
      lost.closed⟩) lost

/-- A handle that somebody closed, with nothing to connect with. -/
structure Ended (s : Watched ω κ) : Prop where
  settings : s.handle.settings = none
  client : s.handle.client = none

theorem Ended.lost {s : Watched ω κ} (ended : Ended s) (b : Backend ω κ) : Lost b s :=
  ⟨ended.settings, by simp [isOpen, ended.client]⟩

/-- Without a client there is none that the world could open again. -/
theorem kept_ended (b : Backend ω κ) : Kept b Ended where
  opens s ended := by
    rw [opened_of_lost (ended.lost b).closed ended.settings]
    exact ended
  closes _ ended := ⟨ended.settings, rfl⟩
  executes s sql values timeout ended := by
    rw [execute_of_none ended.client]
    exact ended

theorem Ended.acts (b : Backend ω κ) {s : Watched ω κ} (ended : Ended s)
    (actions : List (Action ω)) : Ended (s.acts b actions) :=
  (kept_ended b).acts (fun _ _ _ ended => ⟨ended.settings, ended.client⟩) ended

/-- On a lost handle a commit announces its statement and goes no further. -/
theorem Lost.commit {b : Backend ω κ} {s : Watched ω κ} (lost : Lost b s) {q : Query}
    {statement : Statement} (built : q.build s.handle.database = .ok statement) :
    (q.commitInPlace (connection b.recorded)).reply s
      = ⟨.error .closed, s, q.announcement statement⟩ := by
  have closed : (connection b.recorded).isOpen s = false := lost.closed
  have opened_ : (connection b.recorded).opened s = ⟨.error .closed, s, []⟩ :=
    opened_of_lost lost.closed lost.settings
  have built_ : q.build ((connection b.recorded).database s) = .ok statement := built
  obtain ⟨row, _, _, present, -⟩ := Query.plan_of_build built
  rw [Course.reply, Query.run_commitInPlace]
  simp [present, built_, closed, opened_, Course.ended, Query.flatMap_logged, Deed.events]

/-- The handle is closed, and neither to open it nor to commit a statement on it makes a contact. -/
structure Gone (b : Backend ω κ) (s : Watched ω κ) : Prop where
  closed : s.isOpen b.recorded = false
  opens : s.opened b.recorded = ⟨.error .closed, s, []⟩
  commits : ∀ (q : Query) statement, q.build s.handle.database = .ok statement →
    (q.commitInPlace (connection b.recorded)).reply s
      = ⟨.error .closed, s, q.announcement statement⟩

theorem Lost.gone {b : Backend ω κ} {s : Watched ω κ} (lost : Lost b s) : Gone b s where
  closed := lost.closed
  opens := opened_of_lost lost.closed lost.settings
  commits _ _ built := lost.commit built

/-! ## The wrapper -/

/-- A blocking handle is called as the handle inside it is, once answers are waited for. -/
theorem wrapped_eq (b : Backend ω κ) (polls : Session ω κ → Nat) :
    wrapped b polls = connection b :=
  Connection.blocking_awaited (connection b) polls

end Session

/-! ## A life -/

open Session in
/-- What a handle is that was just made as `h`. -/
structure Starts (b : Backend ω κ) (h : Handle κ) (s : Watched ω κ) : Prop where
  /-- With settings it is closed: nothing has been opened yet. -/
  ofSettings : ∀ settings, h = .ofSettings settings →
    s.handle = ⟨some settings, settings.databaseName, none⟩ ∧ s.isOpen b.recorded = false
  /-- For a client it has that client and no settings, and is open unless the client has closed. -/
  ofClient : ∀ id database, h = .ofClient id database →
    s.handle = ⟨none, database, some ⟨id, false⟩⟩
      ∧ s.isOpen b.recorded = !b.isClosed s.world.1 id

theorem starts (b : Backend ω κ) (h : Handle κ) (world : ω × List (Contact κ)) :
    Starts b h ⟨h, world⟩ where
  ofSettings _ made := by
    subst made
    exact ⟨rfl, rfl⟩
  ofClient _ _ made := by
    subst made
    exact ⟨rfl, rfl⟩

open Session in
/-- What a handle that was made as `h` does at some point of its life. -/
structure Lives (b : Backend ω κ) (h : Handle κ) (s : Watched ω κ) : Prop where
  /-- It has the settings and the database that it was made with. -/
  made : s.handle.settings = h.settings ∧ s.handle.database = h.database
  /-- An open handle opens without a contact. -/
  opens : s.isOpen b.recorded = true → s.opened b.recorded = ⟨.ok (), s, []⟩
  /-- A closed one with settings tries once to connect with them. -/
  connects : ∀ settings, h = .ofSettings settings → s.isOpen b.recorded = false →
    Connects b settings s (s.opened b.recorded)
  /-- A closed one that was made for a client is gone for good. -/
  lost : ∀ id database, h = .ofClient id database → s.isOpen b.recorded = false →
    ∀ later, Undisturbed b later → Gone b (s.acts b later)
  /-- To close a handle leaves it without its client. -/
  closes : Closes b s s.close
  /-- After that, one with settings connects again when it is opened. -/
  reopens : ∀ settings, h = .ofSettings settings →
    Connects b settings s.close (s.close.opened b.recorded)
  /-- One that was made for a client is gone, and executes nothing ever after. -/
  ends : ∀ id database, h = .ofClient id database → ∀ later,
    let s' := s.close.acts b later
    Gone b s' ∧ ∀ sql values timeout,
      s'.execute b.recorded sql values timeout = ⟨.error .closed, s', []⟩
  /-- Without a client nothing is sent. -/
  idle : s.handle.client = none → ∀ sql values timeout,
    s.execute b.recorded sql values timeout = ⟨.error .closed, s, []⟩
  sends : ∀ client, s.handle.client = some client → ∀ sql values timeout,
    Sends b client sql values timeout s (s.execute b.recorded sql values timeout)
  /-- A blocking handle does the same, and so do commits in either way. -/
  blocking : ∀ polls, wrapped b.recorded polls = connection b.recorded
    ∧ ∀ q : Query, (q.commitAsync (awaiting b.recorded polls)).wait
      = q.commitInPlace (wrapped b.recorded polls)

/-- **A handle starts as it was made and lives by its rules**, whatever was done with it before and
whatever happened to its connections.  Clients may answer anything, as long as those that have
closed stay closed. -/
theorem lifecycle_of_run {b : Backend ω κ} (steady : b.Steady) (h : Handle κ) (world : ω)
    (actions : List (Action ω)) :
    Starts b h ⟨h, world, []⟩ ∧ Lives b h (Session.acts b ⟨h, world, []⟩ actions) := by
  let s : Watched ω κ := Session.acts b ⟨h, world, []⟩ actions
  have made_ : s.handle.settings = h.settings ∧ s.handle.database = h.database :=
    Session.made_acts b _ actions
  have settings_ : ∀ settings, h = .ofSettings settings → s.handle.settings = some settings :=
    fun settings made => by rw [made_.1, made, Handle.ofSettings]
  have none_ : ∀ id database, h = .ofClient id database → s.handle.settings = none :=
    fun id database made => by rw [made_.1, made, Handle.ofClient]
  exact ⟨starts b h _, {
    made := made_
    opens := Session.opened_of_open
    connects := fun settings made => Session.connects_opened steady (settings_ settings made)
    lost := fun id database made closed later undisturbed =>
      have lost : Session.Lost b s := ⟨none_ id database made, closed⟩
      (lost.acts steady undisturbed).gone
    closes := Session.closes_close b s
    reopens := fun settings made =>
      Session.connects_opened (s := s.close) steady (settings_ settings made) rfl
    ends := fun id database made later => by
      have closed : Session.Ended s.close := ⟨none_ id database made, rfl⟩
      have ended : Session.Ended (s.close.acts b later) := closed.acts b later
      exact ⟨(ended.lost b).gone, Session.execute_of_none ended.client⟩
    idle := Session.execute_of_none
    sends := fun client there => Session.sends_execute b there
    blocking := fun polls => ⟨Session.wrapped_eq b.recorded polls, fun q => q.wait_commitAsync _⟩ }⟩

/-- Settings that lead to a socket. -/
def harborSettings : Settings :=
  { user := some "app", hosts := [.directory (Text.utf8 "/run")], encryption := .disable }

/-- A server that hangs up once, and later hangs in a statement. -/
def harbor : Rehearsal.Server :=
  { socket := some (socketPath (Text.utf8 "/run") 5432), startups := [.hangUp],
    scenes := [{ trouble := some (.execute, .hang) }] }

def firstEnds : Action Rehearsal.Server := .happens fun s => { s with ended := 0 :: s.ended }

/-- A handle that tries twice to connect, waits for a second, and loses its connection; it connects
again, and is closed. -/
def harborRun : Watched Rehearsal.Server Nat :=
  Session.acts Rehearsal.Server.backend ⟨.ofSettings harborSettings, harbor, []⟩
    [.opens, .opens, .opens, .executes "a" [] (some (.ofSeconds 1)), firstEnds, .opens, .closes]

/-- A handle that was made for the first client. -/
def harborGuest : Watched Rehearsal.Server Nat := ⟨.ofClient 0 "db", harbor, []⟩

open Rehearsal.Server (backend) in
theorem harbor_lifecycle :
    -- Closed by hand, the first handle sends nothing, and opens again.
    (Session.contacts harborRun = [.connect harborSettings, .connect harborSettings,
        .execute 0 "a" [] (some (.ofSeconds 1)), .cancel 0, .connect harborSettings]
        ∧ harborRun.handle.client = none
        ∧ harborRun.execute backend.recorded "a" [] none = ⟨.error .closed, harborRun, []⟩
        ∧ Session.Connects backend harborSettings harborRun (harborRun.opened backend.recorded)
        ∧ (harborRun.opened backend.recorded).state.isOpen backend.recorded = true)
      -- The second starts open; once its connection ends, or it is closed, it is gone.
      ∧ (harborGuest.handle = ⟨none, "db", some ⟨0, false⟩⟩
        ∧ harborGuest.isOpen backend.recorded = true)
      ∧ Session.Gone backend ((harborGuest.acts backend [.opens, firstEnds]).acts backend
        [.opens, firstEnds, .commits totals])
      ∧ Session.Gone backend ((harborGuest.acts backend [.opens]).close.acts backend
        [.opens, .commits totals]) := by
  have steady := Rehearsal.Server.backend_steady
  obtain ⟨-, lives⟩ := lifecycle_of_run steady (.ofSettings harborSettings) harbor
    [.opens, .opens, .opens, .executes "a" [] (some (.ofSeconds 1)), firstEnds, .opens]
  obtain ⟨starts, ended⟩ := lifecycle_of_run steady (.ofClient 0 "db") harbor [.opens, firstEnds]
  obtain ⟨-, closed⟩ := lifecycle_of_run steady (.ofClient 0 "db") harbor [.opens]
  have connects := lives.reopens harborSettings rfl
  have client_ : harborRun.handle.client = none := congrArg Handle.client lives.closes.handle
  refine ⟨⟨rfl, client_, lives.closes.idle "a" [] none, connects, ?_⟩,
    starts.ofClient 0 "db" rfl, ended.lost 0 "db" rfl rfl _ fun change member => ?_,
    (closed.ends 0 "db" rfl _).1⟩
  · exact (connects.success 2 rfl).2.2 _
  · have same : change = fun s => { s with ended := 0 :: s.ended } := by
      simpa [firstEnds] using member
    rw [same]
    exact fun s => Rehearsal.Server.keeps_of_goes fun _ member => List.mem_cons_of_mem _ member

end Amend.Link

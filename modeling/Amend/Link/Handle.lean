/-
# Amend.Link.Handle — a connection that opens when it is needed

A `Handle` holds the settings to connect with, if it has any, and the client of an
open connection.  What a client does is left to a `Backend`: it connects, says
whether a client's connection has closed, executes, and asks for a running
statement to be cancelled.

Opening an open handle contacts nobody.  A handle without settings cannot be
opened again.  When a time limit passes, one request to cancel is made, and the
answer is the time limit whatever comes of it.
-/
import Amend.Course
import Amend.Link.Settings.Reader
import Amend.Text.Quoted

set_option autoImplicit false

namespace Amend.Link

/-- What clients `κ` do in a world `ω`. -/
structure Backend (ω κ : Type) where
  connect : Settings → ω → Except Fault κ × ω
  isClosed : ω → κ → Bool
  /-- Execute a statement and wait for the answer. -/
  execute : κ → String → List Value → ω → Except Fault Nat × ω
  /-- Execute a statement; nothing if the time passes before the answer. -/
  executeWithin : Duration → κ → String → List Value → ω → Option (Except Fault Nat) × ω
  /-- Ask the server to give up what the client's connection is doing. -/
  cancel : κ → ω → Except Fault Unit × ω

/-- A client, and whether the end of its connection is logged. -/
structure Client (κ : Type) where
  id : κ
  watched : Bool
  deriving DecidableEq, Repr

/-- A connection to one database. -/
structure Handle (κ : Type) where
  settings : Option Settings
  database : String
  client : Option (Client κ)
  deriving DecidableEq, Repr

structure Session (ω κ : Type) where
  handle : Handle κ
  world : ω

namespace Handle

variable {κ : Type}

/-- A closed handle that opens with these settings. -/
def ofSettings (settings : Settings) : Handle κ :=
  ⟨some settings, settings.databaseName, none⟩

def ofString (s : String) : Except Error (Handle κ) :=
  ((Settings.parse s).mapError fun fault => Error.connection (.badString fault)).map ofSettings

/-- A handle for a client that is connected already; it cannot be opened again. -/
def ofClient (id : κ) (database : String) : Handle κ :=
  ⟨none, database, some ⟨id, false⟩⟩

def close (h : Handle κ) : Handle κ := { h with client := none }

def describe (h : Handle κ) (isOpen : Bool) : String :=
  "PgConnection \x7b database: " ++ Text.quoted h.database ++ ", open: "
    ++ (if isOpen then "true" else "false") ++ " \x7d"

end Handle

namespace Session

variable {ω κ : Type} (b : Backend ω κ)

/-- Whether there is a client whose connection has not closed. -/
def isOpen (s : Session ω κ) : Bool :=
  match s.handle.client with
  | some client => !b.isClosed s.world client.id
  | none => false

/-- Connect, unless the handle is open. -/
def opened (s : Session ω κ) : Reply (Session ω κ) Unit :=
  if s.isOpen b then ⟨.ok (), s, []⟩
  else
    match s.handle.settings with
    | none => ⟨.error .closed, s, []⟩
    | some settings =>
      match b.connect settings s.world with
      | (.error fault, world) =>
        ⟨.error (.connection fault), { s with world }, [.opening s.handle.database]⟩
      | (.ok id, world) =>
        ⟨.ok (), ⟨{ s.handle with client := some ⟨id, true⟩ }, world⟩,
          [.opening s.handle.database]⟩

/-- The end of a watched connection between two worlds. -/
def ending (client : Client κ) (before after : ω) : List Event :=
  if client.watched && !b.isClosed before client.id && b.isClosed after client.id then
    [.connectionEnded .closed]
  else []

def executeWithin (s : Session ω κ) (client : Client κ) (limit : Duration) (sql : String)
    (values : List Value) : Reply (Session ω κ) Nat :=
  match b.executeWithin limit client.id sql values s.world with
  | (some outcome, world) =>
    ⟨outcome.mapError Error.query, { s with world }, ending b client s.world world⟩
  | (none, world) =>
    match b.cancel client.id world with
    | (.ok (), world) => ⟨.error (.timeout limit), { s with world }, [.timedOut limit]⟩
    | (.error fault, world) =>
      ⟨.error (.timeout limit), { s with world }, [.timedOut limit, .cancelFailed fault]⟩

/-- Execute a statement once; the number of rows written. -/
def execute (s : Session ω κ) (sql : String) (values : List Value) (timeout : Option Duration) :
    Reply (Session ω κ) Nat :=
  match s.handle.client, timeout with
  | none, _ => ⟨.error .closed, s, []⟩
  | some client, some limit => s.executeWithin b client limit sql values
  | some client, none =>
    let (outcome, world) := b.execute client.id sql values s.world
    ⟨outcome.mapError Error.query, { s with world }, ending b client s.world world⟩

def close (s : Session ω κ) : Session ω κ := { s with handle := s.handle.close }

/-- A session as a connection that updates are committed on. -/
def connection : Connection (Session ω κ) where
  database s := s.handle.database
  isOpen s := s.isOpen b
  opened s := s.opened b
  execute s sql params timeout := s.execute b sql (params.map Param.value) timeout

/-- A handle whose answers take some polls, which its caller waits for. -/
def awaiting (polls : Session ω κ → Nat) : AsyncConnection (Session ω κ) :=
  (connection b).awaited polls

/-- A blocking handle around it, which waits for its answers on the spot. -/
def wrapped (polls : Session ω κ → Nat) : Connection (Session ω κ) := (awaiting b polls).blocking

end Session

end Amend.Link

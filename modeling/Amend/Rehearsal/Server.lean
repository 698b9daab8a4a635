/-
# Amend.Rehearsal.Server — a server that follows a script

The script says how the server meets each connection and each statement, in
order; where it ends, everything succeeds.  The server keeps what it saw: the
first message of a connection, a statement to parse, its parameters, and a
request to cancel.  It never encrypts, and asks nobody for a password.
-/
import Amend.Rehearsal.Network

set_option autoImplicit false

namespace Amend.Rehearsal

open Link (Greeting Obstacle Place Settings)
open Text (Bytes)

/-- How a new connection is met when it is not let in. -/
inductive Startup where
  | hangUp
  | refuse (severity code message : String)
  deriving DecidableEq, Repr

/-- The part of a statement in which trouble comes. -/
inductive Phase where
  | parse
  | execute
  deriving DecidableEq, Repr

/-- What happens to a statement in place of success. -/
inductive Trouble where
  | fail (severity code message : String)
  | hangUp
  /-- No answer until a request to cancel. -/
  | hang
  /-- No answer, and nobody gets through to the server any more. -/
  | vanish
  deriving DecidableEq, Repr

/-- What happens to one statement. -/
structure Scene where
  types : List WireType := []
  /-- The end of the answer, whose last word is the number of rows. -/
  tag : String := "UPDATE 1"
  trouble : Option (Phase × Trouble) := none
  deriving DecidableEq, Repr

/-- What the server sees. -/
inductive Sight where
  | greeting (first : Greeting)
  | parse (sql : String)
  | bind (params : List (Option Bytes))
  | cancel (key : Bytes)
  deriving DecidableEq, Repr

/-- A server and what is left of its script. -/
structure Server where
  /-- The path of its socket, if it runs. -/
  socket : Option Bytes := none
  startups : List Startup := []
  scenes : List Scene := []
  /-- The number of connections so far, which names the next one. -/
  connections : Nat := 0
  /-- The scene that is played: that of the statement parsed last, whichever is run. -/
  scene : Scene := {}
  /-- The types of the statement by which a connection asks about types, if it has one. -/
  catalogs : List (Nat × List WireType) := []
  /-- The connections that the server ended. -/
  ended : List Nat := []
  /-- The connections that get no answer any more. -/
  stuck : List Nat := []
  /-- What the server saw, in order. -/
  seen : List Sight := []
  deriving Repr

namespace Server

def account : String := "root"

def sees (s : Server) (sight : Sight) : Server := { s with seen := s.seen ++ [sight] }

/-- Take the next entry of the script for connections. -/
def nextStartup (s : Server) : Option Startup × Server :=
  (s.startups.head?, { s with startups := s.startups.tail })

/-- Meet a client that asks whether the server can encrypt; no answer says so. -/
def meetQuestion (s : Server) : Link.Fault × Server :=
  match (s.sees (.greeting .question)).nextStartup with
  | (some .hangUp, s) => (.interrupted, s)
  | (_, s) => (.unencrypted .unsupported, s)

/-- Meet a client that says whom it connects as. -/
def meetStartup (settings : Settings) (first : Greeting) (s : Server) :
    Except Link.Fault Nat × Server :=
  match (s.sees (.greeting first)).nextStartup with
  | (some .hangUp, s) => (.error .closed, s)
  | (some (.refuse severity code message), s) =>
    (.error (Link.Fault.ofServer severity code message), s)
  | (none, s) =>
    if settings.binding = .require then (.error .unbound, s)
    else (.ok s.connections, { s with connections := s.connections + 1 })

def meet (settings : Settings) (s : Server) : Except Link.Fault Nat × Server :=
  match settings.greeting account with
  | .error fault => (.error fault, s)
  | .ok .question => let (fault, s) := s.meetQuestion; (.error fault, s)
  | .ok first => s.meetStartup settings first

/-- What keeps a client from a place; only the server's own socket leads anywhere. -/
def obstacle? (place : Place) (s : Server) : Option Obstacle :=
  match place.site with
  | .name name => some (nameObstacle name)
  | .address address => some (addressObstacle address)
  | .directory path =>
    let socket := Link.socketPath path place.port
    (Link.pathObstacle? socket).or (if s.socket = some socket then none else some .missing)

def reach (settings : Settings) (place : Place) (s : Server) : Except Link.Fault Nat × Server :=
  match s.obstacle? place with
  | some obstacle => (.error (.unreachable obstacle), s)
  | none => s.meet settings

/-- Try places in order until one lets the client in; the last failure counts. -/
def tryEach (settings : Settings) (s : Server) : List Place → Except Link.Fault Nat × Server
  | [] => (.error (.badSettings .nowhere), s)
  | [place] => s.reach settings place
  | place :: next :: rest =>
    match s.reach settings place with
    | (.ok id, s) => (.ok id, s)
    | (.error _, s) => s.tryEach settings (next :: rest)

def connect (settings : Settings) (s : Server) : Except Link.Fault Nat × Server :=
  match settings.places with
  | .error misfit => (.error (.badSettings misfit), s)
  | .ok places => s.tryEach settings places

end Server

end Amend.Rehearsal

/-
# Amend.Rehearsal.Exchange — how a statement goes to and fro

A statement is parsed first.  Where one of its types is not built in, the client
asks the catalogue about it, by a statement that it prepares once on a connection.
The server knows of no such type, so the client gives the first statement up.
Otherwise it checks its parameters against the types, and sends them only if all
fit.  A statement is prepared once its types are known; the script's scene changes
with each statement that is parsed, so a statement that was prepared earlier is run
in the scene of a later one.

`Server.backend` gathers what a client does with the server.
-/
import Amend.Link.Binding
import Amend.Link.Handle
import Amend.Rehearsal.Server

set_option autoImplicit false

namespace Amend.Rehearsal

open Text (Bytes)

/-- Why a statement comes to nothing. -/
inductive Setback where
  | fault (fault : Link.Fault)
  /-- No answer comes. -/
  | silence
  deriving DecidableEq, Repr

namespace Server

/-- The process and the key that a request to cancel names. -/
def cancelKey : Bytes := Text.bigEndian 4 7 ++ Text.bigEndian 4 9

/-- The number by which the server names every type that is not built in. -/
def extensionNumber : Nat := 90000

def trouble (id : Nat) (t : Trouble) (s : Server) : Setback × Server :=
  match t with
  | .fail severity code message => (.fault (Link.Fault.ofServer severity code message), s)
  | .hangUp => (.fault .closed, { s with ended := id :: s.ended })
  | .hang => (.silence, s)
  | .vanish => (.silence, { s with socket := none, stuck := id :: s.stuck })

def nextScene (s : Server) : Server :=
  { s with scene := s.scenes.head?.getD {}, scenes := s.scenes.tail }

/-- Parse a statement; the types of its parameters. -/
def parse (id : Nat) (sql : String) (s : Server) : Except Setback (List WireType) × Server :=
  let s := s.nextScene.sees (.parse sql)
  match s.scene.trouble with
  | some (.parse, t) => let (setback, s) := s.trouble id t; (.error setback, s)
  | _ => (.ok s.scene.types, s)

/-- The number of rows at the end of a tag, zero if it is no number. -/
def rowsOf (tag : String) : Nat :=
  let word := (tag.toList.reverse.takeWhile (· ≠ ' ')).reverse
  (Text.natural? Text.top64 (String.ofList word)).getD 0

/-- What a client makes of a tag, which a NUL would end. -/
def completed (tag : String) : Except Setback Nat :=
  if Link.isSendable tag then .ok (rowsOf tag) else .error (.fault (.garbled .rest))

/-- Run a prepared statement with its parameters; the number of rows. -/
def perform (id : Nat) (params : Except Link.Fault (List (Option Bytes))) (s : Server) :
    Except Setback Nat × Server :=
  match params with
  | .error fault => (.error (.fault fault), s)
  | .ok params =>
    let s := s.sees (.bind params)
    match s.scene.trouble with
    | some (.execute, t) => let (setback, s) := s.trouble id t; (.error setback, s)
    | _ => (completed s.scene.tag, s)

/-! ## Types that are not built in -/

/-- The types of the statement by which a connection asks about types: the one that it has, or one
that it prepares now. -/
def catalog (id : Nat)
    (prepare : String → Server → Except Setback (List WireType) × Server) (s : Server) :
    Except Setback (List WireType) × Server :=
  match s.catalogs.lookup id with
  | some types => (.ok types, s)
  | none =>
    let (outcome, s) :=
      match prepare Link.catalogQuery s with
      | (.error (.fault fault), s) =>
        if fault.code? = some Link.undefinedTable then prepare Link.rangelessQuery s
        else (.error (.fault fault), s)
      | other => other
    match outcome with
    | .ok types => (.ok types, { s with catalogs := (id, types) :: s.catalogs })
    | .error setback => (.error setback, s)

/-- Ask about a type that is not built in; the answer has no rows. -/
def askCatalog (id : Nat) (types : List WireType) (s : Server) : Setback × Server :=
  match s.perform id (Link.bindNumber extensionNumber types) with
  | (.error setback, s) => (setback, s)
  | (.ok _, s) => (.fault .unexpected, s)

/-- Prepare a statement.  A question about its types is a statement too, and each has a scene of the
script that names such types, so that `depth` can be the length of the script. -/
def prepareWithin (id : Nat) :
    Nat → String → Server → Except Setback (List WireType) × Server
  | 0, _, s => (.error .silence, s)
  | depth + 1, sql, s =>
    match s.parse id sql with
    | (.error setback, s) => (.error setback, s)
    | (.ok types, s) =>
      if types.all WireType.isBuiltin then (.ok types, s)
      else
        match s.catalog id (prepareWithin id depth) with
        | (.error setback, s) => (.error setback, s)
        | (.ok asked, s) => let (setback, s) := s.askCatalog id asked; (.error setback, s)

def prepare (id : Nat) (sql : String) (s : Server) :
    Except Setback (List WireType) × Server :=
  s.prepareWithin id (s.scenes.length + 1) sql

/-! ## Clients -/

def run (id : Nat) (sql : String) (values : List Value) (s : Server) :
    Except Setback Nat × Server :=
  if !Link.isSendable sql then (.error (.fault .unsendable), s)
  else if s.ended.contains id then (.error (.fault .closed), s)
  else if s.stuck.contains id then (.error .silence, s)
  else
    match s.prepare id sql with
    | (.error setback, s) => (.error setback, s)
    | (.ok types, s) => s.perform id (Link.bindAll types values)

def cancel (s : Server) : Except Link.Fault Unit × Server :=
  if s.socket.isSome then (.ok (), s.sees (.cancel cancelKey))
  else (.error (.unreachable .missing), s)

/-- What comes of a statement for a client that waits for the answer.  To wait for one that never
comes ends with the connection. -/
def waited : Except Setback Nat → Except Link.Fault Nat
  | .ok rows => .ok rows
  | .error (.fault fault) => .error fault
  | .error .silence => .error .closed

/-- What comes of a statement for a client that waits for some time. -/
def waitedWithin : Except Setback Nat → Option (Except Link.Fault Nat)
  | .error .silence => none
  | outcome => some (waited outcome)

def backend : Link.Backend Server Nat where
  connect := connect
  isClosed s id := s.ended.contains id
  execute id sql values s :=
    let (outcome, s) := s.run id sql values
    (waited outcome, s)
  executeWithin _ id sql values s :=
    let (outcome, s) := s.run id sql values
    (waitedWithin outcome, s)
  cancel _ s := s.cancel

end Server

end Amend.Rehearsal

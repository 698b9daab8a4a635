/-
# Amend.Rehearsal.Recorder — a connection that follows a script

The script has the answers to the calls of open and execute, in order; where it
ends, a call succeeds and a statement writes one row.  The recorder keeps the
calls it received, and is open after an open that succeeds.
-/
import Amend.Course

set_option autoImplicit false

namespace Amend.Rehearsal

/-- A call that a recorder received. -/
inductive Received where
  | opened (mode : Mode)
  | execute (mode : Mode) (sql : String) (paramCount : Nat) (timeout : Option Duration)
  deriving DecidableEq, Repr

/-- A scripted connection and what is left of its script. -/
structure Recorder where
  database : String
  isOpen : Bool
  openResults : List (Except Error Nat)
  executeResults : List (Except Error Nat)
  received : List Received := []

namespace Recorder

/-- Open, with the next answer of the script. -/
def opened (mode : Mode) (r : Recorder) : Reply Recorder Unit :=
  let r := { r with received := r.received ++ [Received.opened mode] }
  match r.openResults with
  | .error e :: rest => ⟨.error e, { r with openResults := rest }, []⟩
  | .ok _ :: rest => ⟨.ok (), { r with openResults := rest, isOpen := true }, []⟩
  | [] => ⟨.ok (), { r with isOpen := true }, []⟩

def execute (mode : Mode) (r : Recorder) (sql : String) (params : List Param)
    (timeout : Option Duration) : Reply Recorder Nat :=
  let r := { r with received := r.received ++ [Received.execute mode sql params.length timeout] }
  match r.executeResults with
  | result :: rest => ⟨result, { r with executeResults := rest }, []⟩
  | [] => ⟨.ok 1, r, []⟩

/-- A recorder as a connection that updates are committed on. -/
def connection (mode : Mode) : Connection Recorder where
  database := Recorder.database
  isOpen := Recorder.isOpen
  opened := opened mode
  execute := execute mode

end Recorder

end Amend.Rehearsal

/-
# Amend.Link.Fault — what can go wrong between client and server

A fault has a message, and may have a cause below it with a message of its own.
`causes` lists both, the outermost first.
-/
import Amend.Link.Place
import Amend.Link.Report
import Amend.Wire

set_option autoImplicit false

namespace Amend.Link

/-- Why a connection is not encrypted. -/
inductive EncryptionFault where
  /-- The server answers that it cannot. -/
  | unsupported
  /-- There is no name of a host that the server could prove. -/
  | nameless
  deriving DecidableEq, Repr

def EncryptionFault.message : EncryptionFault → String
  | .unsupported => "server does not support TLS"
  | .nameless => "no hostname provided for TLS handshake"

inductive Fault where
  | badString (fault : Settings.Fault)
  /-- Settings that name no places. -/
  | badSettings (misfit : Misfit)
  | unreachable (obstacle : Obstacle)
  | unencrypted (fault : EncryptionFault)
  /-- The proof of who the user is was not bound to an encrypted channel. -/
  | unbound
  /-- The connection ends inside a message. -/
  | interrupted
  /-- The connection ends between messages. -/
  | closed
  /-- An error that the server answered. -/
  | server (report : Report)
  | garbled (garbling : Garbling)
  /-- A message of the server that has no place in the exchange. -/
  | unexpected
  | parameterCount (expected given : Nat)
  | parameter (index : Nat) (mismatch : WireMismatch)
  /-- A text with a NUL, which would end it inside a message. -/
  | unsendable
  deriving DecidableEq, Repr

namespace Fault

/-- The wording of a fault without its cause. -/
def message : Fault → String
  | .badString _ => "invalid connection string"
  | .badSettings _ => "invalid configuration"
  | .unreachable _ => "error connecting to server"
  | .unencrypted _ => "error performing TLS handshake"
  | .unbound => "authentication error"
  | .interrupted => "error communicating with the server"
  | .closed => "connection closed"
  | .server _ => "db error"
  | .garbled _ => "error parsing response from server"
  | .unexpected => "unexpected message from server"
  | .parameterCount expected given => s!"expected {expected} parameters but got {given}"
  | .parameter index _ => s!"error serializing parameter {index}"
  | .unsendable => "error encoding message to server"

/-- The message of what lies below a fault. -/
def reason? : Fault → Option String
  | .badString fault => some fault.message
  | .badSettings misfit => some misfit.message
  | .unreachable obstacle => some obstacle.message
  | .unencrypted fault => some fault.message
  | .unbound => some "server did not use channel binding"
  | .interrupted => some "early eof"
  | .server report => some report.text
  | .garbled garbling => some garbling.message
  | .parameter _ mismatch => some mismatch.message
  | .unsendable => some "string contains embedded null"
  | .closed | .unexpected | .parameterCount _ _ => none

/-- The messages of a fault and of what lies below it. -/
def causes (f : Fault) : List String :=
  f.message :: f.reason?.toList

def code? : Fault → Option String
  | .server report => some report.code
  | _ => none

/-- The fault that a client hears of where a server sends these texts as an error. -/
def ofServer (severity code message : String) : Fault :=
  match Report.ofTexts severity code message with
  | .ok report => .server report
  | .error garbling => .garbled garbling

end Fault

end Amend.Link

/-
# Amend.Link.Greeting — what a client sends first

A client that cannot encrypt goes on without where its settings allow it.  Where
they require encryption it asks the server first, or gives up if it should begin
to encrypt at once.  Otherwise it says whom it connects as, and to which database.
-/
import Amend.Link.Fault

set_option autoImplicit false

namespace Amend.Link

inductive Greeting where
  /-- The question whether the server can encrypt. -/
  | question
  | startup (user : String) (database : Option String)
  deriving DecidableEq, Repr

/-- Whether a text can stand in a message, where it ends at a NUL. -/
def isSendable (s : String) : Bool :=
  !s.toList.contains '\x00'

namespace Settings

/-- The message that says whom to connect as: the user of the settings, or else `account`. -/
def startup (s : Settings) (account : String) : Except Link.Fault Greeting :=
  let user := s.user.getD account
  let others := s.database.toList ++ s.options.toList ++ s.application.toList
  if (user :: others).all isSendable then .ok (.startup user s.database) else .error .unsendable

/-- The first message on a socket, which has no name of a host. -/
def greeting (s : Settings) (account : String) : Except Link.Fault Greeting :=
  match s.encryption, s.negotiation with
  | .require, .ask => .ok .question
  | .require, .direct => .error (.unencrypted .nameless)
  | _, _ => s.startup account

end Settings

end Amend.Link

/-
# Amend.Link.Report — how a server reports an error

A report is sent as fields, each a letter and a text that ends at a NUL; a NUL in
place of a letter ends the report.  So a NUL inside a text cuts it there, and what
follows is taken for further fields.  Of two fields with one letter the later
counts.

A client checks each field as it comes: positions and lines are numbers, and a
severity that is not translated is one of eight.  A position inside a query of the
server's own comes with that query, unless there is one in the client's statement.
-/
import Amend.Text.Numeral
import Amend.Text.Split

set_option autoImplicit false

namespace Amend.Link

open Text (natural? parts)

/-- Why an answer of the server cannot be read. -/
inductive Garbling where
  /-- A report goes on behind its end. -/
  | fields
  /-- A field that has to be a number is none. -/
  | number (letter : Char)
  | severity
  /-- A position in a query that is not there. -/
  | query
  /-- A message goes on behind its end. -/
  | rest
  deriving DecidableEq, Repr

def Garbling.message : Garbling → String
  | .fields => "invalid message length: error fields is not drained"
  | .number letter => "`" ++ letter.toString ++ "` field did not contain an integer"
  | .severity => "`V` field contained an invalid value"
  | .query => "`q` field missing but `p` field present"
  | .rest => "invalid message length: expected buffer to be empty"

/-- What a client keeps of a report. -/
structure Report where
  severity : String
  code : String
  message : String
  detail : Option String
  hint : Option String
  deriving DecidableEq, Repr

namespace Report

def text (r : Report) : String :=
  r.severity ++ ": " ++ r.message ++ (r.detail.map ("\nDETAIL: " ++ ·)).getD ""
    ++ (r.hint.map ("\nHINT: " ++ ·)).getD ""

/-- The severities that are not translated. -/
def severities : List String :=
  ["PANIC", "FATAL", "ERROR", "WARNING", "NOTICE", "DEBUG", "INFO", "LOG"]

/-- The letter and the text of a field that is sent as both in one. -/
def fieldOf : List Char → Except Garbling (Char × String)
  | [] => .error .fields
  | letter :: text =>
    let text := String.ofList text
    if ['P', 'p', 'L'].contains letter && (natural? Text.top32 text).isNone then
      .error (.number letter)
    else if letter = 'V' ∧ text ∉ severities then .error .severity
    else .ok (letter, text)

/-- A letter and a text as they are sent, cut at each NUL. -/
def sent (letter : Char) (text : String) : List (List Char) :=
  parts '\x00' (letter :: text.toList)

/-- The text of the last field with a letter. -/
def last? (letter : Char) (fields : List (Char × String)) : Option String :=
  fields.reverse.lookup letter

/-- The report that a client reads where these three texts are sent. -/
def ofTexts (severity code message : String) : Except Garbling Report := do
  let fields ← (sent 'S' severity ++ sent 'C' code ++ sent 'M' message).mapM fieldOf
  if (last? 'P' fields).isNone && (last? 'p' fields).isSome && (last? 'q' fields).isNone then
    .error .query
  else
    .ok
      { severity := (last? 'S' fields).getD severity
        code := (last? 'C' fields).getD code
        message := (last? 'M' fields).getD message
        detail := last? 'D' fields
        hint := last? 'H' fields }

end Report

end Amend.Link

/-
# Amend.Ident — SQL identifiers

Table, schema and column names become part of a statement's text, so each is
read into an `Ident` first.  A plain identifier begins with an ASCII letter or an
underscore and goes on with letters, digits, underscores and dollar signs; a
quoted one stands between double quotes, holds any characters but NUL, and
writes a quote inside it twice.

`parse` reads the written form and `sql` writes it; `name` is what the
identifier names, without quotes and escapes.  A dot is nothing special inside
an identifier: qualified names are built from identifiers by `QualifiedTable`.
-/
set_option autoImplicit false

namespace Amend

/-- An identifier, by the way it is written. -/
inductive Ident where
  | plain (name : String)
  | quoted (name : String)
  deriving DecidableEq, Repr

namespace Ident

/-- Why a text is no identifier. -/
inductive Fault where
  | empty
  | nul
  /-- A quoted identifier without its closing quote. -/
  | unclosed
  /-- Text behind the closing quote. -/
  | trailing (written : String)
  | emptyQuoted
  | badStart (c : Char)
  | badPart (written : String) (c : Char)
  deriving DecidableEq, Repr

def Fault.message : Fault → String
  | .empty => "Identifier cannot be empty"
  | .nul => "Identifier cannot contain NUL character"
  | .unclosed => "Unclosed quoted identifier"
  | .trailing written => s!"Unexpected text after quoted identifier: {written}"
  | .emptyQuoted => "Empty quoted identifier"
  | .badStart c => s!"Invalid identifier start character: '{c}'"
  | .badPart written c => s!"Invalid character in identifier '{written}': '{c}'"

/-- Whether a plain identifier may begin with `c`. -/
def isStart (c : Char) : Bool :=
  c == '_' || c.isAlpha

/-- Whether a plain identifier may go on with `c`. -/
def isPart (c : Char) : Bool :=
  c == '_' || c == '$' || c.isAlphanum

/-- The name up to the closing quote and the text behind that quote, or `none` without one. -/
def unquote : List Char → Option (List Char × List Char)
  | [] => none
  | '"' :: '"' :: rest => (unquote rest).map fun (name, after) => ('"' :: name, after)
  | '"' :: rest => some ([], rest)
  | c :: rest => (unquote rest).map fun (name, after) => (c :: name, after)

/-- Each quote written twice. -/
def doubled : List Char → List Char
  | [] => []
  | '"' :: rest => '"' :: '"' :: doubled rest
  | c :: rest => c :: doubled rest

/-- What is written with its quotes doubled is read back up to a closing quote that no other
follows. -/
theorem unquote_doubled (name rest : List Char) (h : rest.head? ≠ some '"') :
    unquote (doubled name ++ '"' :: rest) = some (name, rest) := by
  induction name with
  | nil => cases rest <;> simp_all [doubled, unquote]
  | cons c cs ih => by_cases hc : c = '"' <;> simp_all [doubled, unquote]

/-- The quoted identifier of a name. -/
def quote (name : String) : Except Fault Ident :=
  if name = "" then .error .emptyQuoted
  else if name.toList.contains '\x00' then .error .nul
  else .ok (.quoted name)

/-- The identifier written between the opening quote and the end of `written`. -/
def parseQuoted (written : String) (inner : List Char) : Except Fault Ident :=
  match unquote inner with
  | none => .error .unclosed
  | some (name, []) => quote (String.ofList name)
  | some (_, _ :: _) => .error (.trailing written)

/-- The plain identifier whose first character is `c`. -/
def parsePlain (written : String) (c : Char) (rest : List Char) : Except Fault Ident :=
  if !isStart c then .error (.badStart c)
  else
    match rest.find? fun c => !isPart c with
    | some c => .error (.badPart written c)
    | none => .ok (.plain written)

/-- The identifier that a text writes. -/
def parse (written : String) : Except Fault Ident :=
  if written.toList.contains '\x00' then .error .nul
  else
    match written.toList with
    | [] => .error .empty
    | '"' :: inner => parseQuoted written inner
    | c :: rest => parsePlain written c rest

/-- The identifier of a name that is not the caller's to choose: plain where it can be. -/
def quoteIfNeeded (name : String) : Except Fault Ident :=
  match parse name with
  | .ok (.plain name) => .ok (.plain name)
  | _ => quote name

/-- What the identifier names. -/
def name : Ident → String
  | .plain name | .quoted name => name

def sql : Ident → String
  | .plain name => name
  | .quoted name => "\"" ++ String.ofList (doubled name.toList) ++ "\""

end Ident

/-- A table by its database, schema and own name. -/
structure QualifiedTable where
  database : Ident
  schema : Ident
  table : Ident
  deriving DecidableEq, Repr

def QualifiedTable.sql (t : QualifiedTable) : String :=
  t.database.sql ++ "." ++ t.schema.sql ++ "." ++ t.table.sql

end Amend

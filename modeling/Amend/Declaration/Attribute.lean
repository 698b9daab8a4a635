/-
# Amend.Declaration.Attribute — the attributes of a declared entity

An entity is declared by an item whose `orm` attributes carry settings: those on
the item name its table and schema, those on a field mark the key, leave the
field out, or name its column.  An attribute holds settings separated by commas,
with one more comma allowed at the end.

`settings` reads such a list from tokens with any reader of one setting.  What an
attribute says is what comes of its settings when they are taken in one by one, and
of two for the same thing the later one counts.  Several attributes are read each by
itself, and what a later one says is merged into what was said before; attributes of
other paths are passed over.
-/
set_option autoImplicit false

namespace Amend.Declaration

inductive Token where
  /-- A name, with `r#` in front if it is written raw. -/
  | name (s : String)
  | punct (c : Char)
  | text (s : String)
  | number (n : Int)
  /-- Another literal, a lifetime, or tokens in brackets. -/
  | other (written : String)
  deriving DecidableEq, Repr

/-- How an attribute writes its tokens: in parentheses, behind an equals sign, or not at all. -/
inductive Style where
  | list
  | value
  | bare
  deriving DecidableEq, Repr

/-- An attribute of an item or a field, named by its path. -/
structure Attribute where
  path : String
  style : Style
  tokens : List Token
  deriving DecidableEq, Repr

/-- Why an attribute cannot be read. -/
inductive SyntaxFault where
  | noName
  | keyword (s : String)
  | noPunct (c : Char)
  /-- A text is missing, at the end of the tokens or in front of another token. -/
  | noText (atEnd : Bool)
  | unknownTableKey
  | unknownFieldKey
  | noArguments
  | noParentheses
  deriving DecidableEq, Repr

/-- The wording of a fault; only a missing text tells the end of the tokens apart. -/
def SyntaxFault.message : SyntaxFault → String
  | .noName => "expected identifier"
  | .keyword s => "expected identifier, found keyword `" ++ s ++ "`"
  | .noPunct c => "expected `" ++ c.toString ++ "`"
  | .noText false => "expected string literal"
  | .noText true => "unexpected end of input, expected string literal"
  | .unknownTableKey => "expected `table` or `schema`"
  | .unknownFieldKey => "expected `id`, `skip` or `column`"
  | .noArguments => "expected attribute arguments in parentheses: #[orm(...)]"
  | .noParentheses => "expected parentheses: #[orm(...)]"

/-- The words that are no names. -/
def keywords : List String :=
  [ "_", "abstract", "as", "async", "await", "become", "box", "break", "const", "continue",
    "crate", "do", "dyn", "else", "enum", "extern", "false", "final", "fn", "for", "if", "impl",
    "in", "let", "loop", "macro", "match", "mod", "move", "mut", "override", "priv", "pub", "ref",
    "return", "Self", "self", "static", "struct", "super", "trait", "true", "try", "type",
    "typeof", "unsafe", "unsized", "use", "virtual", "where", "while", "yield" ]

/-! ## Reading from the front -/

/-- A reader of a value at the front of some tokens; it leaves the tokens behind it. -/
abbrev Reader (α : Type) := List Token → Except SyntaxFault (α × List Token)

/-- A name that is no keyword; a raw name never is one. -/
def readName : Reader String
  | .name s :: rest => if keywords.contains s then .error (.keyword s) else .ok (s, rest)
  | _ => .error .noName

def readPunct (c : Char) : List Token → Except SyntaxFault (List Token)
  | .punct d :: rest => if d = c then .ok rest else .error (.noPunct c)
  | _ => .error (.noPunct c)

def readText : Reader String
  | .text s :: rest => .ok (s, rest)
  | [] => .error (.noText true)
  | _ => .error (.noText false)

/-- An equals sign and a text. -/
def readAssigned : Reader String := fun tokens => do
  readText (← readPunct '=' tokens)

/-- Settings separated by commas, `fuel` of them at most. -/
def settingsWithin {α : Type} (read : Reader α) :
    Nat → List Token → Except SyntaxFault (List α)
  | _, [] => .ok []
  | 0, _ => .ok []
  | fuel + 1, tokens => do
    let (setting, rest) ← read tokens
    match rest with
    | [] => return [setting]
    | rest => return setting :: (← settingsWithin read fuel (← readPunct ',' rest))

/-- Settings separated by commas; each takes one token at least. -/
def settings {α : Type} (read : Reader α) (tokens : List Token) :
    Except SyntaxFault (List α) :=
  settingsWithin read tokens.length tokens

/-- The settings of one attribute, which stand in parentheses. -/
def Attribute.settings {α : Type} (read : Reader α) (a : Attribute) :
    Except SyntaxFault (List α) :=
  match a.style with
  | .bare => .error .noArguments
  | .value => .error .noParentheses
  | .list => Declaration.settings read a.tokens

/-- What one attribute says: its settings, taken in one by one. -/
def Attribute.said {α β : Type} (read : Reader α) (take : β → α → β) (nothing : β)
    (a : Attribute) : Except SyntaxFault β := do
  return (← a.settings read).foldl take nothing

/-- What the `orm` attributes say together, where `merge` adds what a later one says. -/
def allSaid {α β : Type} (read : Reader α) (take : β → α → β) (merge : β → β → β) (nothing : β)
    (attributes : List Attribute) : Except SyntaxFault β :=
  (attributes.filter fun a => a.path == "orm").foldlM
    (fun before a => return merge before (← a.said read take nothing)) nothing

/-! ## Settings of an item -/

inductive TableSetting where
  | table (name : String)
  | schema (name : String)
  deriving DecidableEq, Repr

/-- The key is looked at after its value was read. -/
def readTableSetting : Reader TableSetting := fun tokens => do
  let (key, rest) ← readName tokens
  let (value, rest) ← readAssigned rest
  if key = "table" then return (.table value, rest)
  else if key = "schema" then return (.schema value, rest)
  else .error .unknownTableKey

/-- Table and schema, as far as they are named. -/
structure TableNames where
  table : Option String := none
  schema : Option String := none
  deriving DecidableEq, Repr

/-- Take in one setting, in place of an earlier one for the same thing. -/
def TableNames.take (n : TableNames) : TableSetting → TableNames
  | .table name => { n with table := some name }
  | .schema name => { n with schema := some name }

/-- The names of a later attribute, and where it names nothing those from before. -/
def TableNames.merge (n later : TableNames) : TableNames where
  table := later.table.or n.table
  schema := later.schema.or n.schema

def tableNames (attributes : List Attribute) : Except SyntaxFault TableNames :=
  allSaid readTableSetting TableNames.take TableNames.merge {} attributes

/-! ## Settings of a field -/

inductive FieldSetting where
  | id
  | skip
  | column (name : String)
  deriving DecidableEq, Repr

/-- One setting of a field; only a column has a value. -/
def readFieldSetting : Reader FieldSetting := fun tokens => do
  let (key, rest) ← readName tokens
  if key = "id" then return (.id, rest)
  else if key = "skip" then return (.skip, rest)
  else if key = "column" then do
    let (value, rest) ← readAssigned rest
    return (.column value, rest)
  else .error .unknownFieldKey

/-- What a field is to its entity. -/
structure FieldRole where
  isId : Bool := false
  skip : Bool := false
  column : Option String := none
  deriving DecidableEq, Repr

/-- Take in one setting; a mark once set stays. -/
def FieldRole.take (r : FieldRole) : FieldSetting → FieldRole
  | .id => { r with isId := true }
  | .skip => { r with skip := true }
  | .column name => { r with column := some name }

/-- The marks of both, and the column of the later one if it names any. -/
def FieldRole.merge (r later : FieldRole) : FieldRole where
  isId := r.isId || later.isId
  skip := r.skip || later.skip
  column := later.column.or r.column

def fieldRole (attributes : List Attribute) : Except SyntaxFault FieldRole :=
  allSaid readFieldSetting FieldRole.take FieldRole.merge {} attributes

end Amend.Declaration

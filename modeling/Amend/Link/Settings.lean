/-
# Amend.Link.Settings — what a connection depends on

Settings say where a server is, whom to connect as, and what the client insists
on before it sends a statement.  They are built option by option: `Settings.set`
takes one option by its name and checks its value, also where the option only
tunes the network and is not kept.
-/
import Amend.Link.Address

set_option autoImplicit false

namespace Amend.Link

open Text (Bytes natural? integer? parts utf8 Utf8Fault)

inductive Host where
  /-- A directory that holds the server's socket; its path may be any bytes. -/
  | directory (path : Bytes)
  | network (name : String)
  deriving DecidableEq, Repr

/-- How much a client insists on something. -/
inductive Demand where
  | disable
  | prefer
  | require
  deriving DecidableEq, Repr

inductive Negotiation where
  /-- It asks first whether the server can encrypt. -/
  | ask
  /-- It encrypts from the first byte on. -/
  | direct
  deriving DecidableEq, Repr

/-- What a connection string says. -/
structure Settings where
  user : Option String := none
  database : Option String := none
  hosts : List Host := []
  addresses : List Address := []
  ports : List Nat := []
  /-- Options for the server's process. -/
  options : Option String := none
  application : Option String := none
  encryption : Demand := .prefer
  negotiation : Negotiation := .ask
  /-- Whether the proof of who the user is has to be bound to an encrypted channel. -/
  binding : Demand := .prefer
  deriving DecidableEq, Repr

namespace Settings

inductive Fault where
  | unknownOption (key : String)
  | badValue (key : String)
  | endOfText
  | unexpected (index : Nat) (wanted found : Char)
  | openQuote
  /-- A parameter of a URL without its equals sign. -/
  | openParameter
  | encoding (fault : Utf8Fault)
  deriving DecidableEq, Repr

def Fault.message : Fault → String
  | .unknownOption key => "unknown option `" ++ key ++ "`"
  | .badValue key => "invalid value for option `" ++ key ++ "`"
  | .endOfText => "unexpected EOF"
  | .unexpected index wanted found =>
    "unexpected character at byte " ++ toString index ++ ": expected `" ++ wanted.toString
      ++ "` but got `" ++ found.toString ++ "`"
  | .openQuote => "unterminated quoted connection parameter value"
  | .openParameter => "unterminated parameter"
  | .encoding fault => fault.message

/-- The database that a connection is to: the one named, else the user's, else the default. -/
def databaseName (s : Settings) : String :=
  (s.database.or s.user).getD "postgres"

/-! ## Options that are kept -/

def demand? (value : String) : Option Demand :=
  [("disable", .disable), ("prefer", .prefer), ("require", .require)].lookup value

def negotiation? (value : String) : Option Negotiation :=
  [("postgres", .ask), ("direct", .direct)].lookup value

def commaParts (s : String) : List String :=
  (parts ',' s.toList).map String.ofList

/-- A host; one that begins with a slash is a directory. -/
def hostOf (name : String) : Host :=
  if name.toList.head? = some '/' then .directory (utf8 name) else .network name

/-- A port, where an empty text means the usual one. -/
def portOf? (s : String) : Option Nat :=
  if s = "" then some 5432 else natural? 65535 s

/-! ## Options that are checked and left to the network -/

/-- What the value of an option has to be. -/
inductive Rule where
  | anything
  | oneOf (choices : List String)
  | whole
  | upTo (top : Nat)

/-- The options that are not kept. -/
def tuning : List (String × Rule) :=
  [ ("password", .anything),
    ("connect_timeout", .whole), ("tcp_user_timeout", .whole),
    ("keepalives", .upTo Text.top64), ("keepalives_idle", .whole),
    ("keepalives_interval", .whole), ("keepalives_retries", .upTo Text.top32),
    ("target_session_attrs", .oneOf ["any", "read-write", "read-only"]),
    ("load_balance_hosts", .oneOf ["disable", "random"]) ]

def Rule.accepts (value : String) : Rule → Bool
  | .anything => true
  | .oneOf choices => choices.contains value
  | .whole => (integer? value).isSome
  | .upTo top => (natural? top value).isSome

/-! ## Taking options -/

/-- The settings that an option with a value leads to, if the value is one for `key`. -/
def orBadValue (key : String) : Option Settings → Except Fault Settings
  | some s => .ok s
  | none => .error (.badValue key)

/-- Take one option into the settings. -/
def set (s : Settings) (key value : String) : Except Fault Settings :=
  match key with
  | "user" => .ok { s with user := some value }
  | "dbname" => .ok { s with database := some value }
  | "options" => .ok { s with options := some value }
  | "application_name" => .ok { s with application := some value }
  | "sslmode" =>
    orBadValue key ((demand? value).map fun demand => { s with encryption := demand })
  | "sslnegotiation" =>
    orBadValue key ((negotiation? value).map fun negotiation => { s with negotiation })
  | "channel_binding" =>
    orBadValue key ((demand? value).map fun demand => { s with binding := demand })
  | "host" => .ok { s with hosts := s.hosts ++ (commaParts value).map hostOf }
  | "hostaddr" =>
    orBadValue key
      (((commaParts value).mapM Address.ofString?).map fun addresses =>
        { s with addresses := s.addresses ++ addresses })
  | "port" =>
    orBadValue key
      (((commaParts value).mapM portOf?).map fun ports => { s with ports := s.ports ++ ports })
  | _ =>
    match tuning.lookup key with
    | some rule => if rule.accepts value then .ok s else .error (.badValue key)
    | none => .error (.unknownOption key)

end Settings

end Amend.Link

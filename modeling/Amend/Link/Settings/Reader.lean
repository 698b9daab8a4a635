/-
# Amend.Link.Settings.Reader — connection strings

A connection string writes settings either as `key = value` pairs separated by
blanks or as a URL.  `Settings.parse` reads both.

In a pair, a value may stand between single quotes, and a backslash takes the
next character as it is.  In a URL every part is percent-decoded.
-/
import Amend.Link.Settings
import Amend.Text.Blank

set_option autoImplicit false

namespace Amend.Link.Settings

open Text (isBlank parts utf8 percentDecoded decodeUtf8)

/-! ## Pairs -/

/-- A value up to the next blank, and what follows it. -/
def bareValue : List Char → List Char × List Char
  | [] => ([], [])
  | ['\\'] => ([], [])
  | '\\' :: c :: rest => let (value, after) := bareValue rest; (c :: value, after)
  | c :: rest =>
    if isBlank c then ([], c :: rest)
    else let (value, after) := bareValue rest; (c :: value, after)

/-- A value up to its closing quote, and what follows that. -/
def quotedValue : List Char → Option (List Char × List Char)
  | [] => none
  | ['\\'] => none
  | '\\' :: c :: rest => (quotedValue rest).map fun (value, after) => (c :: value, after)
  | '\'' :: rest => some ([], rest)
  | c :: rest => (quotedValue rest).map fun (value, after) => (c :: value, after)

/-- A value, quoted or bare; a bare one is not empty. -/
def readPairValue : List Char → Except Fault (String × List Char)
  | '\'' :: rest =>
    match quotedValue rest with
    | some (value, after) => .ok (String.ofList value, after)
    | none => .error .openQuote
  | s =>
    match bareValue s with
    | ([], _) => .error .endOfText
    | (value, after) => .ok (String.ofList value, after)

def byteLength (s : List Char) : Nat :=
  s.foldl (fun n c => n + c.utf8Size) 0

/-- The equals sign of a pair; `length` is the number of bytes of the whole text. -/
def readEquals (length : Nat) : List Char → Except Fault (List Char)
  | [] => .error .endOfText
  | '=' :: rest => .ok rest
  | c :: rest => .error (.unexpected (length - byteLength (c :: rest)) '=' c)

/-- The pairs at the front, taken in order; what begins with an equals sign ends them. -/
def readPairs (length : Nat) : Nat → Settings → List Char → Except Fault Settings
  | 0, settings, _ => .ok settings
  | fuel + 1, settings, s =>
    let s := s.dropWhile isBlank
    let key := s.takeWhile fun c => !isBlank c && c != '='
    if key.isEmpty then .ok settings
    else do
      let rest ← readEquals length ((s.drop key.length).dropWhile isBlank)
      let (value, rest) ← readPairValue (rest.dropWhile isBlank)
      let settings ← settings.set (String.ofList key) value
      readPairs length fuel settings rest

/-- Settings written as pairs; each pair takes one character at least. -/
def ofPairs (s : String) : Except Fault Settings :=
  readPairs s.utf8ByteSize (s.length + 1) {} s.toList

/-! ## URLs -/

def decoded (s : List Char) : Except Fault String :=
  (decodeUtf8 (percentDecoded (utf8 (String.ofList s)))).mapError .encoding

/-- Split at the first character among `ends`, which stays with the second part. -/
def splitAtAny (ends : List Char) (s : List Char) : List Char × List Char :=
  (s.takeWhile fun c => !ends.contains c, s.dropWhile fun c => !ends.contains c)

/-- The user in front of the first at sign; a password behind a colon is left out. -/
def readUser (settings : Settings) (s : List Char) : Except Fault (Settings × List Char) :=
  match splitAtAny ['@'] s with
  | (_, []) => .ok (settings, s)
  | (credentials, _ :: rest) => do
    let user ← decoded (splitAtAny [':'] credentials).1
    .ok ({ settings with user := some user }, rest)

/-- A host of a URL; the path of a directory may be any bytes. -/
def addHost (settings : Settings) (s : List Char) : Except Fault Settings :=
  let bytes := percentDecoded (utf8 (String.ofList s))
  if bytes.head? = some 0x2F then
    .ok { settings with hosts := settings.hosts ++ [.directory bytes] }
  else
    match decodeUtf8 bytes with
    | .ok name => .ok { settings with hosts := settings.hosts ++ [.network name] }
    | .error fault => .error (.encoding fault)

/-- One host and its port, the host in brackets if it has colons. -/
def splitPort (s : List Char) : Except Fault (List Char × Option (List Char)) :=
  match s with
  | '[' :: inner =>
    match splitAtAny [']'] inner with
    | (host, [_]) => .ok (host, none)
    | (host, _ :: ':' :: port) => .ok (host, some port)
    | _ => .error (.badValue "host")
  | _ =>
    match splitAtAny [':'] s with
    | (host, []) => .ok (host, none)
    | (host, _ :: port) => .ok (host, some port)

/-- The hosts between commas; each brings its port. -/
def addHosts (settings : Settings) : List (List Char) → Except Fault Settings
  | [] => .ok settings
  | chunk :: rest => do
    let (host, port) ← splitPort chunk
    let settings ← addHost settings host
    let port ← decoded (port.getD ['5', '4', '3', '2'])
    addHosts (← settings.set "port" port) rest

def readHosts (settings : Settings) (s : List Char) : Except Fault (Settings × List Char) :=
  match splitAtAny ['/', '?'] s with
  | ([], rest) => .ok (settings, rest)
  | (hosts, rest) => do .ok (← addHosts settings (parts ',' hosts), rest)

def readDatabase (settings : Settings) (s : List Char) : Except Fault (Settings × List Char) :=
  match s with
  | '/' :: s =>
    match splitAtAny ['?'] s with
    | ([], rest) => .ok (settings, rest)
    | (name, rest) => do .ok ({ settings with database := some (← decoded name) }, rest)
  | _ => .ok (settings, s)

/-- The parameters behind the question mark; each takes one character at least. -/
def readParameters : Nat → Settings → List Char → Except Fault Settings
  | 0, settings, _ => .ok settings
  | _ + 1, settings, [] => .ok settings
  | fuel + 1, settings, s =>
    match splitAtAny ['='] s with
    | (_, []) => .error .openParameter
    | (key, _ :: rest) => do
      let key ← decoded key
      let (value, rest) := splitAtAny ['&'] rest
      let settings ←
        if key = "host" then addHost settings value
        else do settings.set key (← decoded value)
      readParameters fuel settings (rest.drop 1)

/-- Settings written as a URL, from behind its scheme on. -/
def ofUrl (s : List Char) : Except Fault Settings := do
  let (settings, s) ← readUser {} s
  let (settings, s) ← readHosts settings s
  let (settings, s) ← readDatabase settings s
  match s with
  | '?' :: s => readParameters (s.length + 1) settings s
  | _ => .ok settings

/-- What follows the scheme of a URL, if there is one of the two that are known. -/
def afterScheme? (s : String) : Option (List Char) :=
  ["postgres://", "postgresql://"].findSome? fun scheme =>
    if scheme.toList.isPrefixOf s.toList then some (s.toList.drop scheme.length) else none

def parse (s : String) : Except Fault Settings :=
  match afterScheme? s with
  | some rest => ofUrl rest
  | none => ofPairs s

end Amend.Link.Settings

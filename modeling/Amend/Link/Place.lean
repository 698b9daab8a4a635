/-
# Amend.Link.Place — where a client looks for a server

Hosts, addresses and ports of the settings go together by their positions and
give `places` to try in order.  A server in a directory listens on a socket with
its port in the name; not every path can name a socket.
-/
import Amend.Link.Settings

set_option autoImplicit false

namespace Amend.Link

open Text (Bytes utf8)

/-- What a client connects to: a directory, a name to be resolved, or an address. -/
inductive Site where
  | directory (path : Bytes)
  | name (name : String)
  | address (address : Address)
  deriving DecidableEq, Repr

structure Place where
  site : Site
  port : Nat
  deriving DecidableEq, Repr

/-- Why settings name no places. -/
inductive Misfit where
  | nowhere
  /-- Not as many hosts as addresses. -/
  | unequal (hosts addresses : Nat)
  | ports
  deriving DecidableEq, Repr

def Misfit.message : Misfit → String
  | .nowhere => "both host and hostaddr are missing"
  | .unequal hosts addresses =>
    s!"number of hosts ({hosts}) is different from number of hostaddrs ({addresses})"
  | .ports => "invalid number of ports"

/-- Why a place cannot be reached. -/
inductive Obstacle where
  /-- Nothing has the path of the socket. -/
  | missing
  | nulInPath
  | longPath
  | nulInName
  /-- What should be a name of a host cannot be one. -/
  | unknownName
  /-- Nobody is there to resolve a name. -/
  | unresolved
  /-- No way leads to the address. -/
  | unroutable
  /-- There is no own address to connect from. -/
  | unassigned
  /-- The address does not say on which link it is. -/
  | linkless
  deriving DecidableEq, Repr

def Obstacle.message : Obstacle → String
  | .missing => "No such file or directory (os error 2)"
  | .nulInPath => "paths must not contain interior null bytes"
  | .longPath => "path must be shorter than SUN_LEN"
  | .nulInName => "file name contained an unexpected NUL byte"
  | .unknownName => "failed to lookup address information: Name or service not known"
  | .unresolved => "failed to lookup address information: Temporary failure in name resolution"
  | .unroutable => "Network is unreachable (os error 101)"
  | .unassigned => "Cannot assign requested address (os error 99)"
  | .linkless => "Invalid argument (os error 22)"

def socketPath (directory : Bytes) (port : Nat) : Bytes :=
  let slash := if directory.getLast? = some 0x2F then [] else [0x2F]
  directory ++ slash ++ utf8 (".s.PGSQL." ++ toString port)

/-- The number of bytes that the path of a socket has to stay below. -/
def pathRoom : Nat := 108

/-- What keeps a path from naming a socket. -/
def pathObstacle? (path : Bytes) : Option Obstacle :=
  if path.contains 0 then some .nulInPath
  else if pathRoom ≤ path.length then some .longPath
  else none

def Host.site : Host → Site
  | .directory path => .directory path
  | .network name => .name name

namespace Settings

/-- The port of the place with the given number: its own, or the first. -/
def portAt (s : Settings) (i : Nat) : Nat :=
  (s.ports[i]?.or s.ports.head?).getD 5432

/-- The sites to try; addresses go before names. -/
def sites (s : Settings) : List Site :=
  if s.addresses.isEmpty then s.hosts.map Host.site else s.addresses.map Site.address

/-- The places to try in order, if hosts, addresses and ports go together. -/
def places (s : Settings) : Except Misfit (List Place) :=
  let hosts := s.hosts.length
  let addresses := s.addresses.length
  let ports := s.ports.length
  if hosts = 0 ∧ addresses = 0 then .error .nowhere
  else if hosts ≠ 0 ∧ addresses ≠ 0 ∧ hosts ≠ addresses then .error (.unequal hosts addresses)
  else if 1 < ports ∧ ports ≠ max hosts addresses then .error .ports
  else .ok (s.sites.mapIdx fun i site => ⟨site, s.portAt i⟩)

end Settings

end Amend.Link

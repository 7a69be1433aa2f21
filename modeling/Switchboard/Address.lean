import Switchboard.Path
import Switchboard.QualifiedName
import Switchboard.Query
import Switchboard.Url.Basic

/-!
# Destination addresses and requests

A destination has a scheme, a host, a port and a path. Addresses are compared by their **authority**
and their path segments. How much of the authority counts is the filter's choice: all of it, or the
scheme alone, so that any host will do. Path segments are compared in upper case.

A request names a destination and carries a query and a set of headers.
-/

namespace Switchboard

/-- How the host part of an address takes part in matching. -/
inductive HostMode where
  /-- Scheme, host and port must be equal. -/
  | exact
  /-- The scheme must be equal; any host will do. -/
  | anyHost
deriving DecidableEq, Repr

/-- **A destination address.** -/
structure Address where
  /-- The scheme, in lower case. -/
  scheme : String
  /-- The host, in lower case. -/
  host : String
  /-- The port, if one is known. -/
  port : Option UInt16
  /-- The path, not empty. -/
  path : String
deriving DecidableEq, Repr

/-- The part of an address that must be equal before paths are compared. -/
structure Authority where
  /-- The scheme. -/
  scheme : String
  /-- The host, where it counts. -/
  host : Option String
  /-- The port, where it counts. -/
  port : Option UInt16
deriving DecidableEq, Repr

namespace Address

/-- An address from its parts: scheme and host are put into lower case, and an empty path is the
root path. -/
def ofParts (scheme host : String) (port : Option UInt16) (path : String) : Address where
  scheme := Ascii.lower scheme
  host := Ascii.lower host
  port := port
  path := if path = "" then "/" else path

/-- The address of a web address and its host. -/
def ofUrl (url : Url) (host : String) : Address :=
  ofParts url.scheme host url.portOrDefault? url.path

/-- The segments of the path, as written. -/
def segments (a : Address) : List String :=
  Path.segments a.path

/-- **The segments under which the address is filed**: those of the path, in upper case. -/
def key (a : Address) : List String :=
  a.segments.map Ascii.upper

/-- **The authority under which the address is filed.** -/
def authority (a : Address) : HostMode → Authority
  | .exact => ⟨a.scheme, some a.host, a.port⟩
  | .anyHost => ⟨a.scheme, none, none⟩

/-- The port as it is shown. -/
def portText (a : Address) : String :=
  match a.port with
  | some p => s!":{p.toNat}"
  | none => ""

/-- The written form of an address. -/
def display (a : Address) : String :=
  a.scheme ++ "://" ++ a.host ++ a.portText ++ a.path

end Address

/-- **A request** as the transport hands it over. -/
structure Request where
  /-- Where the message goes. -/
  destination : Address
  /-- The query, in arrival order. -/
  query : Query := []
  /-- The headers on the message. -/
  headers : List QualifiedName := []
deriving Repr

/-- An absolute address with a host, read from a text. -/
def Url.withHost (text : String) : Except DispatchError (Url × String) :=
  match Url.parse text with
  | .error fault => .error (.invalidAddress text fault)
  | .ok url =>
    match url.host with
    | some host => .ok (url, host)
    | none => .error (.invalidAddress text .noHost)

/-- **Reading a destination address.** -/
def Address.parse (text : String) : Except DispatchError Address :=
  (Url.withHost text).map fun p => Address.ofUrl p.1 p.2

namespace Request

/-- **Reading a request** from an address: the query is split off. -/
def parse (text : String) : Except DispatchError Request :=
  (Url.withHost text).map fun p =>
    { destination := Address.ofUrl p.1 p.2, query := (p.1.query.map Query.parse).getD [] }

/-- The request with one more header; a header counts once. -/
def withHeader (r : Request) (name : QualifiedName) : Request :=
  if name ∈ r.headers then r else { r with headers := r.headers ++ [name] }

/-- The request with more headers. -/
def withHeaders (r : Request) (names : List QualifiedName) : Request :=
  names.foldl withHeader r

/-- The headers in their listing order. -/
def sortedHeaders (r : Request) : List QualifiedName :=
  r.headers.mergeSort QualifiedName.atMost

end Request

end Switchboard

import Switchboard.Address
import Switchboard.Distinct

/-!
# Filters

An **address filter** asks for a destination at or below an address and for headers that the message
must carry; the headers are a list without repeats. A **message filter** is a filter of any kind.
Its kind is looked at once, when it is handed to a table: each table serves one kind and refuses the
others.
-/

namespace Switchboard

/-- **A filter on the destination address and the headers of a message.** -/
structure AddressFilter where
  /-- The address at or below which the destination must lie. -/
  address : Address
  /-- How much of the address's authority counts. -/
  mode : HostMode
  /-- The headers a message must carry, in declared order. -/
  required : List QualifiedName
  /-- No header is declared twice. -/
  nodup_required : required.Nodup
deriving DecidableEq, Repr

namespace AddressFilter

/-- The host mode of a filter that does or does not include the host name. -/
def modeOf (includeHost : Bool) : HostMode :=
  if includeHost then .exact else .anyHost

/-- **A filter from its parts**; of a header declared several times the first occurrence counts. -/
def of (address : Address) (includeHost : Bool) (headers : List QualifiedName) : AddressFilter where
  address := address
  mode := modeOf includeHost
  required := distinct headers
  nodup_required := nodup_distinct headers

/-- A filter whose address is given as a text. -/
def parse (text : String) (includeHost : Bool) (headers : List QualifiedName) :
    Except DispatchError AddressFilter :=
  (Address.parse text).map fun a => of a includeHost headers

/-- What is shown after the address of a filter for any host. -/
def hostText (f : AddressFilter) : String :=
  match f.mode with
  | .exact => ""
  | .anyHost => " (any host)"

/-- What is shown of the required headers. -/
def headerText (f : AddressFilter) : String :=
  if f.required.isEmpty then ""
  else " [" ++ String.intercalate ", " (f.required.map QualifiedName.display) ++ "]"

/-- The written form of a filter. -/
def display (f : AddressFilter) : String :=
  f.address.display ++ f.hostText ++ f.headerText

end AddressFilter

/-- **A filter of any kind.** -/
inductive MessageFilter where
  /-- A destination at or below an address. -/
  | prefixAddress (filter : AddressFilter)
  /-- A destination at exactly an address; no table serves it. -/
  | exactAddress (filter : AddressFilter)
  /-- A template for path and query. -/
  | template (text : String)

namespace MessageFilter

/-- What the kind of a filter is called. -/
def kind : MessageFilter → String
  | .prefixAddress _ => "prefix address"
  | .exactAddress _ => "exact address"
  | .template _ => "template"

/-- What the address table is called in refusals. -/
def addressTable : String := "address filter table"

/-- What the template table is called in refusals. -/
def templateTable : String := "template table"

/-- The filter as one for the address table. -/
def forAddresses : MessageFilter → Except DispatchError AddressFilter
  | .prefixAddress filter => .ok filter
  | other => .error (.wrongKind other.kind addressTable)

/-- The filter as one for the template table. -/
def forTemplates : MessageFilter → Except DispatchError String
  | .template text => .ok text
  | other => .error (.wrongKind other.kind templateTable)

end MessageFilter

end Switchboard

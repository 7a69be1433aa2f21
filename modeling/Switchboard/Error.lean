import Switchboard.Template.Piece

/-!
# Refusals

Everything a table can refuse, as causes: a template that cannot be compiled (`TemplateFault`),
templates that the same request could match (`Ambiguity`), an address that cannot be read
(`AddressFault`), and the refusals of the tables themselves (`DispatchError`). The wording stands in
one `message` function for each.

A request that matches nothing is not a refusal: its answer is empty.
-/

namespace Switchboard

/-- **Why a template cannot be compiled.** -/
inductive TemplateFault where
  /-- A part of it cannot be read. -/
  | unreadable (part : String) (fault : PartFault)
  /-- A wildcard marker that holds nothing but its star. -/
  | unnamedWildcard
  /-- Two captures without text between them. -/
  | adjacentCaptures (part : String)
  /-- A wildcard marker with text beside it. -/
  | wildcardInCompound (part : String)
  /-- A wildcard with segments after it. -/
  | wildcardNotLast
  /-- A query key that is empty or holds a brace. -/
  | badKey (key : String)
  /-- A query key that was constrained before. -/
  | repeatedKey (key : String)
  /-- A query value that mixes text and captures, or takes the rest of a path. -/
  | badValue (key : String)
  /-- A name that is bound twice. -/
  | repeatedName (name : String)
deriving DecidableEq, Repr

/-- What is said of a template that cannot be compiled. -/
def TemplateFault.message : TemplateFault → String
  | .unreadable part fault => fault.message part
  | .unnamedWildcard => "empty wildcard variable name"
  | .adjacentCaptures part => s!"adjacent variables in compound segment '{part}'"
  | .wildcardInCompound part => s!"wildcard variable inside compound segment '{part}'"
  | .wildcardNotLast => "wildcard must be the final path segment"
  | .badKey key => s!"query key '{key}' must be a non-empty literal"
  | .repeatedKey key => s!"duplicate query key '{key}'"
  | .badValue key => s!"query value for '{key}' must be a literal or a single variable"
  | .repeatedName name => s!"variable '{name}' declared more than once"

/-- **Why templates of one shape cannot stand side by side.** -/
inductive Ambiguity where
  /-- Two templates without constraints. -/
  | bothPlain
  /-- No key has a fixed value in all of them. -/
  | noCommonKey
  /-- Two templates fix the same values and differ elsewhere. -/
  | sameValues
  /-- Two templates ask the same. -/
  | duplicate
deriving DecidableEq, Repr

/-- What is said of templates that cannot be told apart. -/
def Ambiguity.message : Ambiguity → String
  | .bothPlain => "both templates accept any query string"
  | .noCommonKey => "query strings cannot be told apart by literal values"
  | .sameValues => "query literals are identical but the templates differ"
  | .duplicate => "duplicate template"

/-- **Why an address cannot be read.** -/
inductive AddressFault where
  /-- There is no scheme. -/
  | relative
  /-- A host is called for and there is none. -/
  | emptyHost
  /-- The host is no domain name. -/
  | domain
  /-- The port is no number below 65536. -/
  | port
  /-- The host ends in a number and is no IPv4 address. -/
  | ipv4
  /-- The host is in brackets and is no IPv6 address. -/
  | ipv6
  /-- The host holds a character that no host may hold. -/
  | hostCharacter
  /-- The address is sound and names no host. -/
  | noHost
deriving DecidableEq, Repr

/-- What is said of an address that cannot be read. -/
def AddressFault.message : AddressFault → String
  | .relative => "relative URL without a base"
  | .emptyHost => "empty host"
  | .domain => "invalid international domain name"
  | .port => "invalid port number"
  | .ipv4 => "invalid IPv4 address"
  | .ipv6 => "invalid IPv6 address"
  | .hostCharacter => "invalid domain character"
  | .noHost => "address must be an absolute URI with a host"

/-- **What a table can refuse.** -/
inductive DispatchError where
  /-- The template cannot be compiled. -/
  | format (template : String) (fault : TemplateFault)
  /-- Templates could match the same request; the second one is named where there is one pair. -/
  | conflict (first : String) (second : Option String) (reason : Ambiguity)
  /-- The filter is of a kind that the table does not serve. -/
  | wrongKind (kind table : String)
  /-- The text is no address. -/
  | invalidAddress (address : String) (fault : AddressFault)
  /-- An equal filter is registered. -/
  | duplicateFilter (filter : String)
  /-- A single answer was asked for and there are several. -/
  | multipleMatches (count : Nat)
deriving DecidableEq, Repr

/-- Whether a refusal says that templates cannot be told apart. -/
def DispatchError.isConflict : DispatchError → Bool
  | .conflict _ _ _ => true
  | _ => false

/-- What is said of a refusal. -/
def DispatchError.message : DispatchError → String
  | .format template fault => s!"invalid template '{template}': {fault.message}"
  | .conflict first (some second) reason =>
    s!"templates '{first}' and '{second}' conflict: {reason.message}"
  | .conflict first none reason => s!"template '{first}' conflicts: {reason.message}"
  | .wrongKind kind table => s!"invalid operation: {kind} filter cannot be used with the {table}"
  | .invalidAddress address fault => s!"invalid address '{address}': {fault.message}"
  | .duplicateFilter filter => s!"filter already registered: {filter}"
  | .multipleMatches count => s!"{count} registrations match the request"

end Switchboard

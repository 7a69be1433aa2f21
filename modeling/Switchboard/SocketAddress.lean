import Switchboard.Url.Ipv6

/-!
# Socket addresses

A socket address is an IP address and a port, with a colon between them: a dotted quad as it is, an
IPv6 address in brackets, and inside the brackets possibly a percent sign and the number of a
network interface. The port must be there and be below 65536; leading zeros are let through.
-/

namespace Switchboard.SocketAddress

/-- A decimal number of at least one digit that is below a bound. -/
def number? (bound : Nat) (cs : List Char) : Option Nat :=
  if cs = [] then none else (digits? 10 cs).filter (· < bound)

/-- Whether a text is an IPv6 address, possibly with an interface. -/
def isScopedIpv6 (cs : List Char) : Bool :=
  match Text.cut? '%' cs with
  | none => (Ipv6.parse? cs).isSome
  | some (address, scope) => (Ipv6.parse? address).isSome && (number? 0x100000000 scope).isSome

/-- Whether a text is a colon and a port. -/
def isPort : List Char → Bool
  | ':' :: port => (number? 65536 port).isSome
  | _ => false

/-- **Whether a text is a socket address.** -/
def isWritten (text : String) : Bool :=
  match text.toList with
  | '[' :: rest =>
    match Text.cut? ']' rest with
    | some (address, port) => isScopedIpv6 address && isPort port
    | none => false
  | cs =>
    match Text.cut? ':' cs with
    | some (address, port) => (Ipv4.parseQuad? address).isSome && isPort (':' :: port)
    | none => false

end Switchboard.SocketAddress

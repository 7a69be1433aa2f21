import Switchboard.Error
import Switchboard.Text.Percent
import Switchboard.Url.Domain
import Switchboard.Url.Ipv6

/-!
# Hosts

The host of an address is read in one of two ways. Under a scheme of the web it is an IPv6 address
in brackets, or a domain name: its escapes are undone, it is put into ASCII, and if it ends in a
number it must be an IPv4 address. Under any other scheme it is an IPv6 address in brackets or a
text that is kept, with control characters and everything outside ASCII escaped.

Either way the result is the host's one written form.
-/

namespace Switchboard.Host

/-- An IPv6 address in brackets, given what follows the opening bracket. -/
def bracketed (rest : List Char) : Except AddressFault String :=
  if rest.getLast? = some ']' then
    match Ipv6.parse? rest.dropLast with
    | some a => .ok ("[" ++ a.display ++ "]")
    | none => .error .ipv6
  else .error .ipv6

/-- The host that a domain name in ASCII stands for. -/
def ofDomain (domain : List Char) : Except AddressFault String :=
  if domain = [] then .error .emptyHost
  else if Ipv4.endsInNumber domain then
    match Ipv4.parseLoose? domain with
    | some a => .ok a.display
    | none => .error .ipv4
  else .ok (String.ofList domain)

/-- **Reading a host under a scheme of the web.** -/
def parseWeb (text : List Char) : Except AddressFault String :=
  match text with
  | '[' :: rest => bracketed rest
  | _ =>
    match Domain.toAscii? (Percent.decode text) with
    | some domain => ofDomain domain
    | none => .error .domain

/-- The characters that no host may hold. -/
def forbidden : List Char :=
  ['\x00', '\t', '\n', '\r', ' ', '#', '/', ':', '<', '>', '?', '@', '[', '\\', ']', '^', '|']

/-- **Reading a host under any other scheme.** -/
def parseOther (text : List Char) : Except AddressFault String :=
  match text with
  | '[' :: rest => bracketed rest
  | _ =>
    if text.any forbidden.contains then .error .hostCharacter
    else .ok (String.ofList (Percent.encode (fun c => !Percent.isControl c) text))

end Switchboard.Host

import Switchboard.Text.Ascii
import Switchboard.Url.Host

/-!
# Absolute addresses of the web

An address has a scheme, and after it, as far as dispatch is concerned, a host, a port, a path and a
query. It is read by the rules that browsers follow. They depend on the scheme. Under the schemes of
the web a backslash is a slash, any number of slashes may stand before the host, and there must be a
host; under `file` the host may be missing; under any other scheme a host is there only after two
slashes.

What has one meaning gets one form: the scheme and a domain name are in lower case, a port that is
the scheme's own is left out, dot segments of the path are resolved, and characters that a path may
not hold are escaped. The fragment is dropped. The query is kept as it was typed, since the escapes
it would get are undone when its pairs are read.

Tabs and line ends inside an address mean nothing, but for one place: right behind the colon of a
drive, at the start of a file's path, they set the drive apart. So a file's path is taken apart
before they are dropped.
-/

namespace Switchboard

/-- **An absolute address**, taken apart. -/
structure Url where
  /-- The scheme, in lower case. -/
  scheme : String
  /-- The host in its written form, if there is one. -/
  host : Option String
  /-- The port, if it is not the scheme's own. -/
  port : Option UInt16
  /-- The path. -/
  path : String
  /-- The query as it was typed, if there is one. -/
  query : Option String
deriving DecidableEq, Repr

/-- How an address goes on after its scheme. -/
inductive SchemeKind where
  /-- The schemes that call for a host: those of the web and of file transfer. -/
  | web
  /-- Files. -/
  | file
  /-- All others. -/
  | other
deriving DecidableEq, Repr

namespace Url

/-- The kind of a scheme. -/
def kindOf (scheme : String) : SchemeKind :=
  if scheme = "file" then .file
  else if ["http", "https", "ws", "wss", "ftp"].contains scheme then .web
  else .other

/-- The port that a scheme stands for. -/
def defaultPort? (scheme : String) : Option UInt16 :=
  if scheme = "http" ∨ scheme = "ws" then some 80
  else if scheme = "https" ∨ scheme = "wss" then some 443
  else if scheme = "ftp" then some 21
  else none

/-- Whether a character ends segments of a path. -/
def isSlash (kind : SchemeKind) (c : Char) : Bool :=
  c = '/' || (c = '\\' && kind ≠ .other)

/-- Whether a character ends the part of an address that names the host. -/
def endsAuthority (kind : SchemeKind) (c : Char) : Bool :=
  isSlash kind c || c = '?' || c = '#'

/-- **The text of an address** without the blanks and control characters around it. -/
def trimmed (text : String) : List Char :=
  let outer := fun (c : Char) => c.toNat ≤ 0x20
  ((text.toList.dropWhile outer).reverse.dropWhile outer).reverse

/-- Whether a character is one that an address may be broken with: a tab or the end of a line. -/
def isBreak (c : Char) : Bool :=
  c = '\t' || c = '\n' || c = '\r'

/-- The text without breaks. -/
def joined (cs : List Char) : List Char :=
  cs.filter fun c => !isBreak c

/-- Whether a character may stand in a scheme after its first letter. -/
def isSchemeChar (c : Char) : Bool :=
  c.isAlphanum || c = '+' || c = '-' || c = '.'

/-- **The scheme of an address**, in lower case, and the text after its colon, breaks and all. -/
def scheme? (cs : List Char) : Option (String × List Char) :=
  match Text.cut? ':' cs with
  | some (text, rest) =>
    let name := joined text
    if name.head?.any Char.isAlpha && name.all isSchemeChar then
      some (Ascii.lower (String.ofList name), rest)
    else none
  | none => none

/-! ## Paths -/

/-- A segment that stands for its parent, escaped or not. -/
def isDoubleDot (segment : List Char) : Bool :=
  ["..", ".%2e", "%2e.", "%2e%2e"].contains (Ascii.lower (String.ofList segment))

/-- A segment that stands for itself, escaped or not. -/
def isSingleDot (segment : List Char) : Bool :=
  [".", "%2e"].contains (Ascii.lower (String.ofList segment))

/-- A drive of a file system: a letter and a colon or bar. -/
def isDrive : List Char → Bool
  | [c, d] => c.isAlpha && (d = ':' || d = '|')
  | _ => false

/-- The segments between slashes, and always a last one. -/
def rawSegments (kind : SchemeKind) (cs : List Char) : List (List Char) :=
  Text.fields '/' (cs.map fun c => if isSlash kind c then '/' else c)

/-- A path without its last segment; a drive is never left. -/
def parent (done : List (List Char)) : List (List Char) :=
  match done.getLast? with
  | some segment => if isDrive segment then done else done.dropLast
  | none => []

/-- A path after one more segment, its last one or not. A dot segment at the end leaves the path
with a slash at its end. -/
def enter (done : List (List Char)) (segment : List Char) (last : Bool) : List (List Char) :=
  let closing := if last then [[]] else []
  if isDoubleDot segment then parent done ++ closing
  else if isSingleDot segment then done ++ closing
  else done ++ [segment]

/-- **Resolving dot segments**, after the segments of `done`. -/
def resolveFrom (done : List (List Char)) : List (List Char) → List (List Char)
  | [] => done
  | s :: segments => resolveFrom (enter done s segments.isEmpty) segments

/-- Whether a path may hold a character unescaped. -/
def isPathChar (c : Char) : Bool :=
  !Percent.isControl c && !" \"<>`#?\x7b\x7d".toList.contains c

/-- The written form of segments. -/
def renderPath (segments : List (List Char)) : List Char :=
  segments.flatMap fun s => '/' :: Percent.encode isPathChar s

/-- The text after the slash that a path starts with, if it starts with one. -/
def afterSlash (kind : SchemeKind) : List Char → List Char
  | [] => []
  | c :: cs => if isSlash kind c then cs else c :: cs

/-- **The path of an address with a host.** -/
def pathOf (kind : SchemeKind) (cs : List Char) : List Char :=
  if cs = [] ∧ kind = .other then []
  else renderPath (resolveFrom [] (rawSegments kind (afterSlash kind cs)))

/-- A drive and the text behind it, in one segment that is broken right behind the colon. -/
def cutDrive? (segment : List Char) : Option (List Char × List Char) :=
  match Text.cut? ':' segment with
  | some (name, rest) =>
    let drive := joined name ++ [':']
    if isDrive drive ∧ rest.head?.any isBreak ∧ joined rest ≠ [] then some (drive, joined rest)
    else none
  | none => none

/-- **Resolving dot segments of a file's path**, after the segments of `done`; those to come have
their breaks. At the start of the path a drive that is broken off is a segment by itself, and what
is behind it is one too, dots or not. Nothing if a drive makes up a whole segment there, since it
then belongs to this machine and to no host. -/
def resolveFile? (done : List (List Char)) : List (List Char) → Option (List (List Char))
  | [] => some done
  | s :: segments =>
    if done = [] ∧ isDrive (joined s) then none
    else
      match done, cutDrive? s with
      | [], some (drive, rest) => some (resolveFrom [drive, rest] (segments.map joined))
      | _, _ => resolveFile? (enter done (joined s) segments.isEmpty) segments

/-- The path of a file on a host, given with its breaks, unless a drive takes the host away. It does
not start with an empty segment. -/
def filePath? (cs : List Char) : Option (List Char) :=
  (resolveFile? [] (rawSegments .file (afterSlash .file cs))).map fun segments =>
    '/' :: (renderPath segments).dropWhile (· = '/')

/-! ## Hosts and ports -/

/-- The text without user and password, and whether there were any. Nothing if no host follows an
empty user. -/
def hostPart? (authority rest : List Char) : Except AddressFault (Bool × List Char) :=
  if '@' ∈ authority then
    let host := (authority.reverse.takeWhile (· ≠ '@')).reverse
    let user := authority.take (authority.length - host.length - 1)
    if user = [] ∧ host = [] ∧ rest ≠ [] then .error .emptyHost
    else .ok (user ≠ [] && user ≠ [':'], host)
  else .ok (false, authority)

/-- The text up to the first colon outside brackets, and the rest. -/
def cutPort (inside : Bool) : List Char → List Char × List Char
  | [] => ([], [])
  | c :: cs =>
    if c = ':' ∧ !inside then ([], c :: cs)
    else
      let (host, port) := cutPort (if c = '[' then true else if c = ']' then false else inside) cs
      (c :: host, port)

/-- **Reading a port**: decimal digits of a number below 65536, or nothing at all. -/
def port? (cs : List Char) : Except AddressFault (Option UInt16) :=
  if cs = [] then .ok none
  else
    match digits? 10 cs with
    | some n => if n < 65536 then .ok (some (UInt16.ofNat n)) else .error .port
    | none => .error .port

/-- What stands behind the host and port: the text of the path and the query, the fragment
dropped. -/
def cutTail (cs : List Char) : List Char × Option String :=
  let path := cs.takeWhile fun c => c ≠ '?' && c ≠ '#'
  match cs.drop path.length with
  | '?' :: query => (path, some (String.ofList (query.takeWhile (· ≠ '#'))))
  | _ => (path, none)

/-- A host that may be empty, which counts as none. -/
def optionalHost (host : String) : Option String :=
  if host = "" then none else some host

/-- **The address after its scheme and slashes**, where a host stands. -/
def afterSlashes (scheme : String) (kind : SchemeKind) (cs : List Char) :
    Except AddressFault Url := do
  let authority := cs.takeWhile fun c => !endsAuthority kind c
  let rest := cs.drop authority.length
  let (hasUser, part) ← hostPart? authority rest
  let (hostText, portText) := cutPort false part
  if hostText = [] ∧ (kind = .web ∨ portText ≠ []) then throw .emptyHost
  let host ← if kind = .web then Host.parseWeb hostText else Host.parseOther hostText
  let digits := (portText.drop 1).takeWhile (· ≠ '\\')
  let port ← port? digits
  if hostText = [] ∧ hasUser then throw .emptyHost
  let (pathText, query) := cutTail (portText.drop (1 + digits.length) ++ rest)
  return {
    scheme, host := optionalHost host
    port := if port = defaultPort? scheme then none else port
    path := String.ofList (pathOf kind pathText), query }

/-- An address that names no host. -/
def hostless (scheme : String) : Url :=
  { scheme, host := none, port := none, path := "/", query := none }

/-- A file's address with the text of its host, after two slashes, and what stands behind it, breaks
and all. The host `localhost` is none, and neither is one before a drive. -/
def onHost (hostText tail : List Char) : Except AddressFault Url := do
  let host ← Host.parseWeb hostText
  match filePath? (cutTail tail).1 with
  | some path =>
    if host = "localhost" then return hostless "file"
    return {
      scheme := "file", host := some host, port := none
      path := String.ofList path, query := (cutTail (joined tail)).2 }
  | none => return hostless "file"

/-- The text after a slash and breaks before it, if it starts with them. -/
def dropSlash? : List Char → Option (List Char)
  | [] => none
  | c :: cs => if isBreak c then dropSlash? cs else if isSlash .file c then some cs else none

/-- **A file's address after its scheme**, breaks and all. -/
def afterFile (cs : List Char) : Except AddressFault Url :=
  match (dropSlash? cs).bind dropSlash? with
  | some rest =>
    let text := rest.takeWhile fun c => !endsAuthority .file c
    let hostText := joined text
    if hostText.isEmpty || isDrive hostText then .ok (hostless "file")
    else onHost hostText (rest.drop text.length)
  | none => .ok (hostless "file")

/-- **Reading an absolute address.** -/
def parse (text : String) : Except AddressFault Url :=
  match scheme? (trimmed text) with
  | none => .error .relative
  | some (scheme, rest) =>
    match kindOf scheme with
    | .web => afterSlashes scheme .web ((joined rest).dropWhile (isSlash .web))
    | .file => afterFile rest
    | .other =>
      match joined rest with
      | '/' :: '/' :: rest => afterSlashes scheme .other rest
      | _ => .ok (hostless scheme)

/-- The port of an address, or else the scheme's own. -/
def portOrDefault? (url : Url) : Option UInt16 :=
  url.port.or (defaultPort? url.scheme)

end Url

end Switchboard

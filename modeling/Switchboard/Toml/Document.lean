import Switchboard.Toml.Number
import Switchboard.Toml.Value

/-!
# TOML documents

A document is a sequence of **statements**: headers that open a table or one more table of an array,
and keys with their values. Reading takes statement after statement and lets the document grow by
each at once; a key belongs to the table of the header before it. The first statement that cannot be
read, or that writes something twice, is reported with its line.

Arrays and inline tables nest, at most `maxDepth` deep, and a key has at most `maxDepth` parts.
-/

namespace Switchboard.Toml

/-- How deep arrays and inline tables may nest, and how many parts a key may have. -/
def maxDepth : Nat := 79

/-- Reads the parts of a dotted key, with at most `room` of them; blanks may stand around each. -/
def keyParts : (room : Nat) → List Char → Option (List String × List Char)
  | 0, _ => none
  | room + 1, cs => do
    let (part, rest) ← keyPart (skipBlanks cs)
    let part := String.ofList part
    match skipBlanks rest with
    | '.' :: rest =>
      let (parts, rest) ← keyParts room rest
      return (part :: parts, rest)
    | rest => return ([part], rest)

/-- A dotted key: the parts before the last one, and the last one. -/
def splitKey (parts : List String) : List String × String :=
  (parts.dropLast, parts.getLastD "")

/-- Reads a value that is neither an array nor an inline table. -/
def scalar (cs : List Char) : Read Value :=
  match cs with
  | '"' :: _ => (quoted cs).map fun p => (.string (String.ofList p.1), p.2)
  | '\'' :: _ => (quoted cs).map fun p => (.string (String.ofList p.1), p.2)
  | 't' :: 'r' :: 'u' :: 'e' :: rest => some (.boolean true, rest)
  | 'f' :: 'a' :: 'l' :: 's' :: 'e' :: rest => some (.boolean false, rest)
  | _ =>
    ((moment cs).map fun p => (Value.moment p.1, p.2)).or <|
      ((float cs).map fun p => (Value.float p.1, p.2)).or <|
        (integer cs).map fun p => (Value.integer p.1, p.2)

mutual

/-- **Reading a value**, with arrays and inline tables at most `depth` deep. -/
def value (depth : Nat) (cs : List Char) : Read Value :=
  match depth, cs with
  | 0, '[' :: _ => none
  | 0, '{' :: _ => none
  | depth + 1, '[' :: rest => (arrayItems depth rest).map fun p => (.array false p.1, p.2)
  | depth + 1, '{' :: rest =>
    match skipBlanks rest with
    | '}' :: rest => some (.table .inline [], rest)
    | rest => inlineEntries depth [] rest
  | _, cs => scalar cs
termination_by (depth, 0, cs.length)

/-- Reads the items of an array up to its end. -/
def arrayItems (depth : Nat) (cs : List Char) : Read (List Value) :=
  match skipFiller false cs with
  | none => none
  | some (']' :: rest) => some ([], rest)
  | some start =>
    match value depth start with
    | none => none
    | some (v, rest) =>
      match skipFiller false rest with
      | some (']' :: rest) => some ([v], rest)
      | some (',' :: rest) =>
        if rest.length < cs.length then
          (arrayItems depth rest).map fun p => (v :: p.1, p.2)
        else none
      | _ => none
termination_by (depth, 1, cs.length)

/-- Reads the keys and values of an inline table up to its end, after those read before. -/
def inlineEntries (depth : Nat) (entries : Entries) (cs : List Char) : Read Value :=
  match keyParts maxDepth cs with
  | some (parts, '=' :: rest) =>
    match value depth (skipBlanks rest) with
    | none => none
    | some (v, rest) =>
      let (path, key) := splitKey parts
      match Entries.assign .header path key v entries with
      | .error _ => none
      | .ok entries =>
        match skipBlanks rest with
        | '}' :: rest => some (.table .inline entries, rest)
        | ',' :: rest =>
          if rest.length < cs.length then inlineEntries depth entries rest else none
        | _ => none
  | _ => none
termination_by (depth, 1, cs.length)

end

/-- **A statement of a document.** -/
inductive Statement where
  /-- A header that opens a table. -/
  | table (path : List String)
  /-- A header that opens one more table of an array. -/
  | nextTable (path : List String)
  /-- A key with its value. -/
  | entry (path : List String) (value : Value)

/-- **Reading a statement** with the end of its line. -/
def statement (cs : List Char) : Read Statement :=
  match cs with
  | '[' :: '[' :: rest =>
    match keyParts maxDepth rest with
    | some (path, ']' :: ']' :: rest) => (lineEnd rest).map (.nextTable path, ·)
    | _ => none
  | '[' :: rest =>
    match keyParts maxDepth rest with
    | some (path, ']' :: rest) => (lineEnd rest).map (.table path, ·)
    | _ => none
  | cs =>
    match keyParts maxDepth cs with
    | some (path, '=' :: rest) =>
      (value maxDepth (skipBlanks rest)).bind fun p =>
        (lineEnd p.2).map (.entry path p.1, ·)
    | _ => none

/-- **A document that is being read**: what was read so far, and the path of the table that keys
belong to. -/
structure Draft where
  /-- The document so far. -/
  entries : Entries := []
  /-- The table of the last header. -/
  current : List String := []

/-- The document after one more statement. -/
def Draft.apply (d : Draft) : Statement → Except Refusal Draft
  | .table path => do
    let (parents, key) := splitKey path
    return ⟨← Entries.openTable parents key d.entries, path⟩
  | .nextTable path => do
    let (parents, key) := splitKey path
    return ⟨← Entries.openNext parents key d.entries, path⟩
  | .entry path value => do
    let (parents, key) := splitKey path
    let change := fun origin => Entries.assign origin parents key value
    return { d with entries := ← Entries.within false change .header d.current d.entries }

/-- **Why a text is no document.** -/
inductive Fault where
  /-- A statement cannot be read; `left` characters of the document follow its start. -/
  | malformed (left : Nat)
  /-- A statement cannot stand beside those before it. -/
  | refused (left : Nat) (reason : Refusal)
deriving Repr

/-- Reads the statements of a document. -/
def statements (d : Draft) (cs : List Char) : Except Fault Entries :=
  match skipBlanks cs with
  | [] => .ok d.entries
  | start =>
    let next : Except Fault (Draft × List Char) :=
      match lineEnd start with
      | some rest => .ok (d, rest)
      | none =>
        match statement start with
        | none => .error (.malformed start.length)
        | some (s, rest) =>
          match d.apply s with
          | .ok d => .ok (d, rest)
          | .error reason => .error (.refused start.length reason)
    match next with
    | .error fault => .error fault
    | .ok (d, rest) =>
      if rest.length < cs.length then statements d rest else .error (.malformed start.length)
termination_by cs.length

/-- The text without a byte order mark at its start. -/
def dropMark : List Char → List Char
  | '\uFEFF' :: cs => cs
  | cs => cs

/-- **Reading a document.** -/
def parse (text : String) : Except Fault Entries :=
  statements {} (dropMark text.toList)

/-- The line on which the last `left` characters of a text start. -/
def lineOf (text : String) (left : Nat) : Nat :=
  1 + (text.toList.take (text.length - left)).count '\n'

/-- What is said of keys that are written twice or in the wrong place. -/
def Refusal.message : Refusal → String
  | .repeated key => s!"duplicate key '{key}'"
  | .notATable key => s!"key '{key}' is not a table"

/-- What is said of a text that is no document. -/
def Fault.message (text : String) : Fault → String
  | .malformed left => s!"malformed statement in line {lineOf text left}"
  | .refused left reason => s!"{reason.message} in line {lineOf text left}"

end Switchboard.Toml

import Switchboard.Assoc

/-!
# TOML values

A document is a table of values. How a table was written decides what may still be added to it, so a
table keeps its **origin**: one with a header of its own takes keys under that header only; one that
is merely implied by the header of a table inside it may get a header later; one that dotted keys
made takes further dotted keys; and one written inline is finished. An array made by `[[…]]` headers
takes further tables, any other is finished.

A document grows in two ways: a key is given a value (`Entries.assign`), and a header opens a table
(`Entries.openTable`, `Entries.openNext`). Both refuse to write anything twice.
-/

namespace Switchboard.Toml

/-- **How a table came to be written.** -/
inductive Origin where
  /-- By a header of its own; the document itself counts as such. -/
  | header
  /-- By a header or dotted key for something inside it. -/
  | implied
  /-- By a dotted key. -/
  | dotted
  /-- Between braces. -/
  | inline
deriving DecidableEq, Repr

/-- **A value.** Numbers and moments of time are only checked, so some keep their text. -/
inductive Value where
  /-- A text. -/
  | string (text : String)
  /-- A whole number of 64 bits. -/
  | integer (value : Int)
  /-- A number with a fraction or an exponent, infinity or no number. -/
  | float (text : String)
  /-- A truth value. -/
  | boolean (value : Bool)
  /-- A date, a time of day or both. -/
  | moment (text : String)
  /-- A list of values; an open one grows by headers. -/
  | array (isOpen : Bool) (items : List Value)
  /-- A table by key, in the order written. -/
  | table (origin : Origin) (entries : List (String × Value))

/-- The keys of a table with their values. -/
abbrev Entries := List (String × Value)

/-- Why a document cannot grow as it is told to. -/
inductive Refusal where
  /-- A key is written a second time. -/
  | repeated (key : String)
  /-- A key has a value and is to be a table. -/
  | notATable (key : String)
deriving DecidableEq, Repr

namespace Entries

/-- Changes the table at the end of a path. A table that is not there is made; of an open array the
last table is meant. With `byKeys` the path is a dotted key, which makes tables of its own and does
not lead into tables that have a header. -/
def within (byKeys : Bool) (change : Origin → Entries → Except Refusal Entries) :
    Origin → List String → Entries → Except Refusal Entries
  | origin, [], entries => change origin entries
  | _, key :: path, entries =>
    let fresh := if byKeys then Origin.dotted else Origin.implied
    match Assoc.get? key entries with
    | none => do
      let inner ← within byKeys change fresh path []
      return Assoc.put key (.table fresh inner) entries
    | some (.table origin inner) => do
      if origin = .inline then throw (.notATable key)
      if byKeys ∧ origin = .header then throw (.repeated key)
      let inner ← within byKeys change origin path inner
      return Assoc.put key (.table origin inner) entries
    | some (.array true items) =>
      match items.getLast? with
      | some (.table origin inner) => do
        let inner ← within byKeys change origin path inner
        return Assoc.put key (.array true (items.dropLast ++ [.table origin inner])) entries
      | _ => throw (.notATable key)
    | some _ => throw (.notATable key)

/-- Gives a value to a key of a table. A table that dotted keys made takes its keys by dotted keys
only, and any other takes none by them. -/
def setKey (byKeys : Bool) (key : String) (value : Value) (origin : Origin) (entries : Entries) :
    Except Refusal Entries :=
  if (origin = .dotted) ≠ byKeys then throw (.repeated key)
  else if (Assoc.get? key entries).isSome then throw (.repeated key)
  else return entries ++ [(key, value)]

/-- **Giving a value to a dotted key** of a table with the given origin. -/
def assign (origin : Origin) (path : List String) (key : String) (value : Value)
    (entries : Entries) : Except Refusal Entries :=
  within true (setKey (!path.isEmpty) key value) origin path entries

/-- Opens a table in a table. -/
def openHere (key : String) (_ : Origin) (entries : Entries) : Except Refusal Entries :=
  match Assoc.get? key entries with
  | none => return entries ++ [(key, .table .header [])]
  | some (.table .implied inner) => return Assoc.put key (.table .header inner) entries
  | some _ => throw (.repeated key)

/-- Opens one more table in an array of tables. -/
def openNextHere (key : String) (_ : Origin) (entries : Entries) : Except Refusal Entries :=
  match Assoc.get? key entries with
  | none => return entries ++ [(key, .array true [.table .header []])]
  | some (.array true items) =>
    return Assoc.put key (.array true (items ++ [.table .header []])) entries
  | some _ => throw (.repeated key)

/-- **Opening a table by its header.** -/
def openTable (path : List String) (key : String) (entries : Entries) : Except Refusal Entries :=
  within false (openHere key) .header path entries

/-- **Opening one more table of an array by its header.** -/
def openNext (path : List String) (key : String) (entries : Entries) : Except Refusal Entries :=
  within false (openNextHere key) .header path entries

end Entries

end Switchboard.Toml

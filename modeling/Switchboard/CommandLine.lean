import Switchboard.Dispatcher
import Switchboard.Json

/-!
# The command line

A command names a configuration file and what to do with it: `check` builds the tables and counts
what is in them, `resolve` answers where a destination goes, `route` which operations a path and a
query ask for, and `watch` keeps a dispatcher live while the file changes.

Arguments are the command, then options and the file in any order. An option takes one value, as the
next argument or after an equals sign; a next argument that looks like an option is none. After `--`
every argument is a file. Only `--header` may be given more than once.

Everything but the reading of the file is settled here, down to the texts that are printed.
-/

namespace Switchboard

/-- What to do with a configuration. -/
inductive Task where
  /-- Build the tables and say what is in them. -/
  | check
  /-- Say where a message to a destination with some headers goes. -/
  | resolve (destination : String) (headers : List String)
  /-- Say which operations a path and a query ask for. -/
  | route (path query : String)
  /-- Keep a dispatcher live. -/
  | watch
deriving DecidableEq, Repr

/-- **A command**: a task and the file of its configuration. -/
structure Command where
  /-- What to do. -/
  task : Task
  /-- The file of the configuration. -/
  file : String
deriving DecidableEq, Repr

/-- **What a run prints**, and with which status it ends. -/
structure Printed where
  /-- The status. -/
  status : Nat
  /-- What goes to standard output. -/
  out : String := ""
  /-- What goes to standard error. -/
  err : String := ""
deriving DecidableEq, Repr

/-! ## Arguments -/

/-- **Arguments, sorted**: the values given to each option and the files, in order. -/
structure Arguments where
  /-- The options with their values. -/
  options : List (String × String) := []
  /-- The files. -/
  files : List String := []

/-- Whether an argument looks like an option, so that it cannot be the value of one. -/
def looksLikeOption (arg : String) : Bool :=
  match arg.toList with
  | '-' :: _ :: _ => true
  | _ => false

/-- An argument as an option's name and the value after its equals sign, if it has one. -/
def optionOf? (arg : String) : Option (String × Option String) :=
  match arg.toList with
  | '-' :: '-' :: cs =>
    match Text.cut? '=' cs with
    | some (name, value) => some (String.ofList name, some (String.ofList value))
    | none => some (String.ofList cs, none)
  | _ => none

/-- **Sorting arguments** for a command that knows the given options; nothing if one of them is not
known, lacks its value, or is no option and looks like one. -/
def Arguments.sort? (known : List String) : List String → Option Arguments
  | [] => some {}
  | arg :: args =>
    if arg = "--" then some { files := args }
    else
      match optionOf? arg with
      | some (name, some value) =>
        if known.contains name then
          (sort? known args).map fun a => { a with options := (name, value) :: a.options }
        else none
      | some (name, none) =>
        match args with
        | [] => none
        | value :: rest =>
          if known.contains name ∧ !looksLikeOption value then
            (sort? known rest).map fun a => { a with options := (name, value) :: a.options }
          else none
      | none =>
        if looksLikeOption arg then none
        else (sort? known args).map fun a => { a with files := arg :: a.files }

/-- The values given to an option. -/
def Arguments.values (a : Arguments) (name : String) : List String :=
  (a.options.filter fun o => o.1 = name).map (·.2)

/-- The one file of a command; its name must not be empty. -/
def Arguments.file? (a : Arguments) : Option String :=
  match a.files with
  | [file] => if file = "" then none else some file
  | _ => none

/-- The value of an option that must be given once. -/
def Arguments.once? (a : Arguments) (name : String) : Option String :=
  match a.values name with
  | [value] => some value
  | _ => none

/-- The value of an option that may be given once, and a value in its place. -/
def Arguments.atMostOnce? (a : Arguments) (name default : String) : Option String :=
  match a.values name with
  | [] => some default
  | [value] => some value
  | _ => none

/-- **The command that arguments ask for**; nothing if they are used wrongly. -/
def Command.parse? : List String → Option Command
  | "check" :: args => do
    let a ← Arguments.sort? [] args
    return ⟨.check, ← a.file?⟩
  | "watch" :: args => do
    let a ← Arguments.sort? [] args
    return ⟨.watch, ← a.file?⟩
  | "resolve" :: args => do
    let a ← Arguments.sort? ["to", "header"] args
    return ⟨.resolve (← a.once? "to") (a.values "header"), ← a.file?⟩
  | "route" :: args => do
    let a ← Arguments.sort? ["path", "query"] args
    return ⟨.route (← a.once? "path") (← a.atMostOnce? "query" ""), ← a.file?⟩
  | _ => none

/-! ## Answers -/

/-- **Why a command fails.** -/
inductive CommandError where
  /-- There is no dispatcher for the configuration. -/
  | config (error : ConfigError)
  /-- The destination cannot be read. -/
  | destination (error : DispatchError)
  /-- A header name cannot be read. -/
  | header (error : MalformedName)
deriving DecidableEq, Repr

/-- What is said of a command that fails. -/
def CommandError.message : CommandError → String
  | .config error => error.message
  | .destination error => error.message
  | .header error => error.message

/-- What is printed of a command that fails. -/
def CommandError.printed (e : CommandError) : Printed :=
  { status := 1, err := s!"error: {e.message}\n" }

/-- A list of texts. -/
def Json.texts (xs : List String) : Json :=
  .array (xs.map .string)

/-- An answer of the template table. -/
def TemplateMatch.json (m : TemplateMatch String) : Json :=
  .object [
    ("bindings", .array (m.bindings.map fun b => Json.texts [b.1, b.2])),
    ("payload", .string m.payload),
    ("template", .string m.template)]

/-- What is in the tables of a dispatcher. -/
def Dispatcher.json (d : Dispatcher) : Json :=
  .object [
    ("candidate_sets", .number d.addresses.setCount),
    ("endpoints", .number d.addresses.size),
    ("template_groups", .number d.templates.groupCount),
    ("templates", Json.texts d.templates.texts)]

/-- The request for a destination and headers as written. -/
def Request.written (destination : String) (headers : List String) :
    Except CommandError Request := do
  let request ← (Request.parse destination).mapError .destination
  let names ← (QualifiedName.parseAll headers).mapError .header
  return request.withHeaders names

/-- The answer of a dispatcher to a task; a dispatcher that is to be kept live has none. -/
def Dispatcher.answer (d : Dispatcher) : Task → Except CommandError (Option Json)
  | .check => return some d.json
  | .resolve destination headers => do
    let request ← Request.written destination headers
    return some (.object [
      ("endpoints", Json.texts (d.addresses.matching request)),
      ("to", .string destination)])
  | .route path query =>
    return some (.object [
      ("matches", .array ((d.templates.matching path (Query.parse query)).map TemplateMatch.json)),
      ("path", .string path)])
  | .watch => return none

/-- The dispatcher of a configuration file, from what reading the file gave. -/
def Dispatcher.load (file : Except String String) : Except CommandError Dispatcher := do
  let config ← (Config.load file).mapError .config
  (Dispatcher.ofConfig config {}).1.mapError .config

/-- What is printed of an answer. -/
def Json.printed (answer : Json) : Printed :=
  { status := 0, out := answer.render 0 ++ "\n" }

/-- **Running a command**, from what reading its file gave: what is printed, or the dispatcher that
is to be kept live. -/
def Command.run (command : Command) (file : Except String String) : Printed ⊕ Dispatcher :=
  match Dispatcher.load file with
  | .error e => .inl e.printed
  | .ok d =>
    match d.answer command.task with
    | .error e => .inl e.printed
    | .ok (some json) => .inl json.printed
    | .ok none => .inr d

/-- What is printed when arguments are used wrongly. -/
def usage : Printed where
  status := 2
  err := "usage: switchboard check FILE\n" ++
    "       switchboard resolve FILE --to ADDRESS [--header NAME]...\n" ++
    "       switchboard route FILE --path PATH [--query QUERY]\n" ++
    "       switchboard watch FILE\n"

end Switchboard

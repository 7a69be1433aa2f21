import Switchboard.Config.Read
import Switchboard.Config.Validation

/-!
# Loading configurations

A configuration is loaded from a file: the file is read, its document is read, the configuration is
taken from the document and checked. Each step can fail in its own way; and a configuration that
passed them can still be refused by the tables it is to fill.
-/

namespace Switchboard

/-- **Why there is no dispatcher for a configuration.** -/
inductive ConfigError where
  /-- The file cannot be read. -/
  | unreadable (reason : String)
  /-- The text of the file is no configuration. -/
  | malformed (reason : String)
  /-- The configuration has problems. -/
  | invalid (problems : List Config.Problem)
  /-- A table refused an entry. -/
  | refused (entry : String) (reason : DispatchError)
deriving DecidableEq, Repr

/-- What is said of a configuration without a dispatcher. -/
def ConfigError.message : ConfigError → String
  | .unreadable reason => s!"IO error: {reason}"
  | .malformed reason => s!"Parse error: {reason}"
  | .invalid problems =>
    "Validation failed: " ++ String.intercalate ", " (problems.map Config.Problem.display)
  | .refused entry reason => s!"Registration of '{entry}' failed: {reason.message}"

namespace Config

/-- What is said of a file that is not there. -/
def missingFile : String := "No such file or directory (os error 2)"

/-- **A checked configuration** from the text of a document. -/
def parse (text : String) : Except ConfigError Config :=
  match Toml.parse text with
  | .error fault => .error (.malformed (fault.message text))
  | .ok entries =>
    match ofEntries entries with
    | .error misfit => .error (.malformed misfit.message)
    | .ok config =>
      if config.problems.isEmpty then .ok config else .error (.invalid config.problems)

/-- **A checked configuration** from what reading its file gave: the text, or why there is none. -/
def load (file : Except String String) : Except ConfigError Config :=
  match file with
  | .error reason => .error (.unreadable reason)
  | .ok text => parse text

end Config

end Switchboard

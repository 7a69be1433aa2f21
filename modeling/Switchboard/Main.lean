import Switchboard.CommandLine

/-!
# The program

Reads the configuration file, runs the command and prints. Watching reads the file again every two
seconds and replaces the dispatcher when the text has changed.
-/

namespace Switchboard

/-- The text of a file, or why it cannot be read. -/
def readFile (file : String) : IO (Except String String) := do
  try
    return .ok (← IO.FS.readFile file)
  catch
    | .noFileOrDirectory .. => return .error Config.missingFile
    | e => return .error (toString e)

/-- Prints what a command has to say and gives its status. -/
def Printed.print (p : Printed) : IO UInt32 := do
  IO.print p.out
  IO.eprint p.err
  return UInt32.ofNat p.status

/-- Keeps a dispatcher live, given the text it was built from. -/
partial def keepLive (file : String) (text : Except String String) (d : Dispatcher) :
    IO UInt32 := do
  IO.sleep 2000
  let next ← readFile file
  match next, text with
  | .ok new, .ok old =>
    if new = old then keepLive file text d
    else
      match Config.parse new with
      | .ok config => keepLive file next ((d.replace config).run {}).1.1
      | .error _ => keepLive file next d
  | .ok new, .error _ =>
    match Config.parse new with
    | .ok config => keepLive file next ((d.replace config).run {}).1.1
    | .error _ => keepLive file next d
  | .error _, _ => keepLive file text d

end Switchboard

open Switchboard in
/-- The program. -/
def main (args : List String) : IO UInt32 := do
  match Command.parse? args with
  | none => usage.print
  | some command =>
    let text ← readFile command.file
    match command.run text with
    | .inl printed => printed.print
    | .inr d => keepLive command.file text d

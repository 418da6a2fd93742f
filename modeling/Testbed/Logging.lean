import Testbed.ControlError
import Testbed.Text.Lowercase

/-!
# Log levels

The five levels of detail, how they are read, and the filter that is put in force for them. A level
is written in any case and with blanks around it, and a warning has two spellings.

Events are logged for the parts of the control plane only, so the filter that is made of a level
names these parts one by one (`LogSettings.directive`). A wish for debugging detail overrides the
level, also where that would let through more.
-/

namespace Testbed

/-- A level of detail. They ascend in detail from the first to the last. -/
inductive LogLevel where
  | error
  | warn
  | info
  | debug
  | trace
  deriving DecidableEq, Repr, Inhabited

namespace LogLevel

/-- The word for a level. It is the word in configurations and in filters. -/
def text : LogLevel → String
  | error => "error"
  | warn => "warn"
  | info => "info"
  | debug => "debug"
  | trace => "trace"

/-- The word for a level in a log, which is in capitals. -/
def mark : LogLevel → String
  | error => "ERROR"
  | warn => "WARN"
  | info => "INFO"
  | debug => "DEBUG"
  | trace => "TRACE"

/-- All levels with their words. The words differ, so reading a word of the list gives the level
back. -/
def words : List (String × LogLevel) := [error, warn, info, debug, trace].map (fun l => (l.text, l))

/-- How much detail a level lets through. A filter lets an event through if the event's level has no
more detail than its own. -/
def detail : LogLevel → Nat
  | error => 1
  | warn => 2
  | info => 3
  | debug => 4
  | trace => 5

/-- Reads a level from a configuration. The error has the word as it was understood, trimmed and in
small letters. -/
def ofText (s : String) : Except ControlError LogLevel :=
  let word := Text.lower (Text.trim s)
  if word = "warning" then .ok warn
  else
    match words.find? (·.1 == word) with
    | some (_, l) => .ok l
    | none => .error (.config (.logLevel word))

end LogLevel

/-- What is logged and where. Nothing is written anywhere by them; whoever starts the program looks
at them once. -/
structure LogSettings where
  /-- The level. -/
  level : LogLevel := .info
  /-- The file, if the log does not go to the standard output. -/
  file : Option String := none
  /-- Whether debugging detail is wanted whatever the level. -/
  verbose : Bool := false
  deriving DecidableEq, Inhabited

namespace LogSettings

/-- The level in force. So `verbose` can also lower the detail, from `trace` to `debug`. -/
def effective (s : LogSettings) : LogLevel := if s.verbose then .debug else s.level

/-- The parts of the control plane whose events are logged. Events of all other parts are dropped.
-/
def targets : List String := ["lattice", "lattice_connect", "lattice_core_interface"]

/-- The filter that lets the parts' events through at a level. It is read again by the filter's own
reader. -/
def directive (level : LogLevel) : String :=
  ",".intercalate (targets.map (fun t => t ++ "=" ++ level.text))

end LogSettings

end Testbed

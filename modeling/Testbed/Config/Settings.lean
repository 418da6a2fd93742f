import Testbed.Config.Basic
import Testbed.Settings

/-!
# Settings from a configuration

How the sections of a configuration become settings: `controller` and `logging` hold what there is
once, and every section whose name starts with `compute.` describes an engine. What is absent has a
default; a level that does not exist and an engine that cannot be described are errors, the level's
first.

Numbers pass through two checks. The getter takes those that 64 bits hold and treats all else as
absent (`Section.unsigned?`); the field of the record has less room, and there a number that does
not fit is an error (`below`). Texts are taken as they are.
-/

namespace Testbed.Config

/-- What the names of the engines' sections start with. It ends in the dot that stands between two
names, so a section that is called `compute` is no engine's. -/
def enginePrefix : String := "compute."

/-- The engine that a section's name is about. The rest of the name is the identifier, dots
included, and it may be empty. -/
def engineNamed? (name : String) : Option String :=
  let mark := enginePrefix.toList
  if mark.isPrefixOf name.toList then some (String.ofList (name.toList.drop mark.length)) else none

/-- A number below a bound. The error is given by the caller, as it names the engine and the value.
-/
def below (bound n : Nat) (cause : Misconfigured) : Except ControlError Nat :=
  if n < bound then .ok n else .error (.config cause)

/-- The host of an engine. It is the one thing that has no default. An empty host is a host, until a
client is to be built. -/
def engineHost (id : String) (s : Section) : Except ControlError String :=
  match s.text? "host" with
  | some host => .ok host
  | none => .error (.config (.missingHost id))

/-- The port of an engine. Zero is accepted. -/
def enginePort (id : String) (s : Section) : Except ControlError Nat :=
  let n := (s.unsigned? "port").getD EngineRecord.defaultPort
  below UInt16.size n (.port id n)

/-- The version of an engine's interface, which is the second unless something else is said. Any
number below the bound is taken. -/
def engineVersion (id : String) (s : Section) : Except ControlError Nat :=
  match s.unsigned? "api_version" with
  | some n => below UInt32.size n (.apiVersion id n)
  | none => .ok 2

/-- The record of an engine. A password counts only beside a user, who has an empty one without it.
Host, port and version are tested in this order, so the first that is wrong is reported. The
protocol is not tested here. -/
def engineRecord (id : String) (s : Section) : Except ControlError EngineRecord := do
  let host ← engineHost id s
  let port ← enginePort id s
  let apiVersion ← engineVersion id s
  let user := s.text? "user"
  return {
    id
    protocol := (s.text? "protocol").getD "http"
    host
    port
    apiVersion
    user
    password := user.map (fun _ => (s.text? "password").getD "")
    name := s.text? "name" }

/-- The records of all engines, in the order of their sections' names. Each section is seen with the
fallback under it, so what is common to all engines can be said once. -/
def engineRecords (c : Config) : Except ControlError (List EngineRecord) :=
  c.sectionNames.filterMapM (fun name =>
    match engineNamed? name with
    | some id => (engineRecord id (c.sectionNamed name)).map some
    | none => .ok none)

/-- The log level. What has no text, such as a list, is as good as absent; a number has one, and is
no level. -/
def logLevel (s : Section) : Except ControlError LogLevel :=
  match s.text? "level" with
  | some word => LogLevel.ofText word
  | none => .ok .info

/-- **The settings that a configuration gives.** Projects are kept in a given directory unless one
is set. The directory may be relative and is taken as it is. -/
def settings (projects : OsPath) (c : Config) : Except ControlError Settings := do
  let control := c.sectionNamed "controller"
  let logging := c.sectionNamed "logging"
  let level ← logLevel logging
  let engines ← c.engineRecords
  return {
    projectsPath := ((control.text? "projects_path").map OsPath.ofText).getD projects
    rpcTimeout := (control.seconds? "rpc_timeout_secs").getD ⟨30, 0⟩
    reloadInterval := (control.seconds? "reload_interval_secs").getD ⟨1, 0⟩
    logging := {
      level
      file := logging.text? "file"
      verbose := (logging.flag? "verbose").getD false }
    engines }

end Testbed.Config

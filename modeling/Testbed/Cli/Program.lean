import Testbed.Cli.Arguments
import Testbed.Config.Settings
import Testbed.Config.Watch
import Testbed.LogFile
import Testbed.LogFilter

/-!
# The program

One run of the program from its command line to its end: the configuration is loaded, the log is
opened, the control plane is started and the command performed. What is written on the way –
output, complaints, log events – is collected, and an error ends the run with its text and its
code. A log that cannot be opened is complained about and done without.

The outside is given as values: the files, the environment and the engines' answers.
-/

namespace Testbed.Cli

/-- The version of the program. It is not that of the engines' interface. -/
def version : String := "0.1.0"

/-- What the program finds around it. It is fixed for a run, so nothing that happens meanwhile is
seen by it. -/
structure Environment where
  /-- The files. -/
  disk : Disk
  /-- The user's home. -/
  home : String
  /-- The directory of the user's configurations, if one is named. -/
  configHome : Option String := none
  /-- The log filter, if one is asked for. -/
  logFilter : Option String := none

/-- Something that is logged. It has no time, since nobody looks at that. -/
structure LogEvent where
  /-- The level. -/
  level : LogLevel
  /-- The part of the program. -/
  target : String
  /-- The text. -/
  text : String
  deriving DecidableEq

/-- An event as a line of a log that people read. The level comes first. -/
def LogEvent.line (e : LogEvent) : String := e.level.mark ++ " " ++ e.target ++ ": " ++ e.text

/-- An event as a line of a log file. It is JSON, with the text among the fields. -/
def LogEvent.record (e : LogEvent) : String :=
  (Json.mkObj [("level", .str e.level.mark), ("target", .str e.target),
    ("fields", .mkObj [("message", .str e.text)])]).compact

/-- **How a run ended.** What was logged is kept apart from the output, though without a log file
both go to one place. -/
structure Ending where
  /-- The code. -/
  code : Nat
  /-- What was written to the standard output, log events aside. -/
  output : String := ""
  /-- What was written to the standard error. -/
  complaint : String := ""
  /-- What was logged. -/
  events : List LogEvent := []
  /-- The file that was logged to. -/
  logFile : Option String := none

/-! ## Errors -/

/-- An error and what was being done. The context is known to whoever was doing it, and not to the
error. -/
structure Failure where
  /-- What was being done. -/
  context : Option String := none
  /-- The error. -/
  cause : ControlError

namespace Failure

/-- The error's text, with the causes behind it. A failure of input or output repeats its cause. -/
def causeText : ControlError → String
  | .io text => (ControlError.io text).message ++ ": " ++ text
  | e => e.message

/-- What ends the complaint: a diagnostic would follow a malformed text. A line break does, in all
other cases. -/
def closing : ControlError → String
  | .config (.toml .malformed _) => ""
  | _ => "\n"

/-- The complaint. Only the first failure of a run is told. -/
def text (f : Failure) : String :=
  let context := match f.context with
    | some context => context ++ ": "
    | none => ""
  "Error: " ++ context ++ causeText f.cause ++ closing f.cause

end Failure

/-! ## Logging -/

/-- A log that is open. That there is one means that it could be opened. -/
structure Log where
  /-- What it lets through. -/
  filter : LogFilter
  /-- The file, if it does not go to the standard output. -/
  file : Option String

/-- The events that a log keeps; nothing is kept without one. The filter looks at the level and at
the part, and not at the text. -/
def Log.keep (log : Option Log) (events : List LogEvent) : List LogEvent :=
  match log with
  | some log => events.filter (fun e => log.filter.lets e.level e.target)
  | none => []

/-- The part of the program that runs it. Its name is a prefix of those of all parts. -/
def mainTarget : String := "lattice"

/-- The part that holds the control plane. -/
def controllerTarget : String := "lattice::controller"

/-- The part that holds the registry. -/
def registryTarget : String := "lattice_connect::manager"

/-- The part that talks to engines. -/
def engineTarget : String := "lattice_connect::system"

/-- What is logged when the program starts. The files come in the order of their paths. -/
def startEvents (c : Config) : List LogEvent :=
  ⟨.info, mainTarget, "Lattice " ++ version ++ " starting"⟩
    :: c.loadedFiles.map (fun file =>
      ⟨.info, mainTarget, "Loaded configuration from " ++ file⟩)

/-- What is logged about an engine of the settings. An engine that was there is not mentioned. -/
def engineEvents : EngineRecord × Controller.EngineOutcome → List LogEvent
  | (_, .unchanged) => []
  | (r, .registered) =>
    [⟨.info, registryTarget, "Registering compute: " ++ r.id ++ " (" ++ r.address ++ ")"⟩]
  | (r, .failed cause) =>
    [⟨.warn, controllerTarget, "Could not register compute " ++ r.id ++ ": " ++ cause.message⟩]

/-- What is logged when the control plane is ready. The number is that of the engines in the
settings, registered or not. -/
def readyEvent (s : Settings) : LogEvent :=
  ⟨.info, controllerTarget, "Controller ready: " ++ toString s.engines.length
    ++ " compute(s), projects in " ++ s.projectsPath.lossy⟩

/-- What is logged about a request for an engine's version and the answer to it. An answer that
cannot be read is not worth a warning of its own. -/
def versionEvents (id : String) (answer : Answer) : List LogEvent :=
  let what := "GET /version on compute " ++ id
  ⟨.debug, engineTarget, what⟩
    :: match answer with
      | .error (.refused status text) =>
        [⟨.warn, engineTarget, what ++ " rejected: " ++ (EngineError.refused status text).message⟩]
      | .error (.transport text) => [⟨.warn, engineTarget, what ++ " failed: " ++ text⟩]
      | .error (.timeout after) =>
        [⟨.warn, engineTarget, what ++ " failed: " ++ (EngineError.timeout after).message⟩]
      | .error (.unreadable _) | .ok _ => []

/-- What is logged when an engine is asked for its version. -/
def probeEvents (answer : Call → Answer) (r : Registry) (id : String) : List LogEvent :=
  match r.record? id with
  | none => []
  | some record =>
    ⟨.debug, registryTarget,
        "Building client for compute " ++ id ++ " at " ++ record.baseUrl⟩
      :: match (r.connect id).1 with
        | .ok client =>
          ⟨.info, registryTarget, "Client ready for compute: " ++ id⟩
            :: versionEvents id (answer ⟨client, .get "/version"⟩)
        | .error _ => []

/-- What is logged when the program is interrupted. -/
def stopEvents : List LogEvent :=
  [⟨.info, mainTarget, "Shutting down"⟩,
    ⟨.info, registryTarget, "Disconnecting from all computes"⟩]

/-! ## A run -/

/-- The program with its control plane started. It is what all commands start from. -/
structure Started where
  /-- The configuration. -/
  config : Config
  /-- The settings. -/
  settings : Settings
  /-- The control plane. -/
  controller : Controller
  /-- The log. -/
  log : Option Log
  /-- What it has complained about. -/
  complaint : String
  /-- What was logged. -/
  events : List LogEvent

/-- The files that the configuration is read from. A file that is named is the only one. -/
def Request.files (env : Environment) (r : Request) : List String :=
  match r.config with
  | some file => [file]
  | none => Config.defaultFiles env.home env.configHome

/-- Loads the configuration. The complaint about a file that was named says which one it was. A file
that is not there is no complaint. -/
def load (env : Environment) (r : Request) : Except Failure Config :=
  (Config.fromFiles env.disk (r.files env)).mapError
    (fun e => ⟨r.config.map ("Failed to load " ++ ·), e⟩)

/-- Derives the settings. The wish for debugging detail is one of them. It cannot be taken back by
the configuration. -/
def deriveSettings (env : Environment) (r : Request) (c : Config) : Except Failure Settings :=
  match c.settings (Config.defaultProjects env.home) with
  | .error e => .error ⟨none, e⟩
  | .ok s =>
    .ok { s with logging := { s.logging with verbose := s.logging.verbose || r.debug } }

/-- The log file that the configuration names, if it can be loaded. It is needed before the program
runs, in order to look at the right places. -/
def logFile? (env : Environment) (r : Request) : Option String :=
  match do deriveSettings env r (← load env r) with
  | .ok s => s.logging.file
  | .error _ => none

/-- The run that breaks off, since a rule of the log filter cannot be cut into its pieces. It is no
error of the program's own, so it has a code of its own. -/
def brokenOff : Ending where
  code := 101
  complaint := "a rule of the log filter is cut inside a character\n"

/-- Opens the log, or complains. Only a filter that breaks off ends the run here. -/
def openLog (env : Environment) (s : LogSettings) : Except Ending (Option Log × String) :=
  match LogFilter.inForce env.logFilter s with
  | .error _ => .error brokenOff
  | .ok filter =>
    match LogFile.check env.disk s with
    | .ok () => .ok (some ⟨filter, s.file⟩, "")
    | .error e => .ok (none, "Warning: Failed to initialize logging: " ++ e.message ++ "\n")

/-- The run that ends with an error. What was logged until then is kept. -/
def failed (f : Failure) (log : Option Log) (complaint : String) (events : List LogEvent) :
    Ending where
  code := f.cause.exitCode
  complaint := complaint ++ f.text
  events := Log.keep log events
  logFile := log.bind (·.file)

/-- Starts the program: it is ready for its command, or it has ended. The order matters for which of
two failures is told: the configuration, the settings, the log filter, the engines. A log that
cannot be opened stops nothing. -/
def start (env : Environment) (r : Request) : Except Ending Started := do
  let (config, settings) ← (do
    let config ← load env r
    return (config, ← deriveSettings env r config)).mapError (failed · none "" [])
  let (log, complaint) ← openLog env settings.logging
  let (initial, task) := Controller.start settings
  let (report, controller, _) := task.complete Watch.silence initial ()
  let report := report.getD {}
  let events := startEvents config ++ report.engines.flatMap engineEvents
  match report.result with
  | .error e => throw (failed ⟨none, e⟩ log complaint events)
  | .ok () =>
    return { config, settings, controller, log, complaint, events := events ++ [readyEvent settings] }

/-- The control plane with the configuration that it follows while it runs. Its counts begin with
zero. -/
def Started.watch (env : Environment) (s : Started) : Watch where
  projects := Config.defaultProjects env.home
  config := s.config
  controller := s.controller

/-- A text with blanks after it up to a width. A longer text is not cut. -/
def padded (width : Nat) (s : String) : String :=
  s ++ String.ofList (List.replicate (width - s.length) ' ')

/-- The line about an engine. An engine without a name has a hyphen in its place. -/
def engineLine (r : EngineRecord) : String :=
  padded 16 r.id ++ " " ++ padded 32 r.baseUrl ++ " " ++ r.name.getD "-" ++ "\n"

/-- The run that ends well. What the start has complained about is still told. -/
def succeeded (s : Started) (output : String) (events : List LogEvent) : Ending where
  code := 0
  output := output
  complaint := s.complaint
  events := Log.keep s.log (s.events ++ events)
  logFile := s.log.bind (·.file)

/-- Lists the engines. They are those of the registry, in the order of their identifiers, and no
engine is asked for anything. -/
def list (s : Started) : Ending :=
  succeeded s (String.join (s.controller.registry.records.map engineLine)) []

/-- Asks an engine for its version. Its answer is shown with one member on a line. -/
def probe (answer : Call → Answer) (s : Started) (id : String) : Ending :=
  let events := probeEvents answer s.controller.registry id
  let (result, _) := (Controller.probe id).run.complete (fun call u => (answer call, u))
    s.controller ()
  match result with
  | some (.ok v) => succeeded s (v.pretty ++ "\n") events
  | some (.error e) =>
    failed ⟨some ("Compute " ++ id ++ " did not answer"), e⟩ s.log s.complaint
      (s.events ++ events)
  | none => succeeded s "" events

/-- Shuts the control plane down after an interruption. An error of the closing ends the run with
its code. -/
def stop (answer : Call → Answer) (s : Started) : Ending :=
  let (result, _) := Controller.shutdown.run.complete (fun call u => (answer call, u))
    s.controller ()
  match result with
  | some (.error e) => failed ⟨none, e⟩ s.log s.complaint (s.events ++ stopEvents)
  | _ => succeeded s "" stopEvents

/-- Performs a command. Running lasts until the program is interrupted. The answers are needed by
all but the first. -/
def perform (answer : Call → Answer) (s : Started) : Command → Ending
  | .list => list s
  | .probe id => probe answer s id
  | .run => stop answer s

/-- **Runs the program.** Every run ends with a code. Arguments that cannot be understood end it
with 2, before anything is looked at. -/
def run (env : Environment) (answer : Call → Answer) (args : List String) : Ending :=
  match read args with
  | .wrong => { code := 2, complaint := usageComplaint }
  | .help topic => { code := 0, output := topic.text }
  | .version => { code := 0, output := "lattice " ++ version ++ "\n" }
  | .request r =>
    match start env r with
    | .error ending => ending
    | .ok s => perform answer s r.command

end Testbed.Cli

import Testbed.Cli.Program
import Testbed.Engine.Exchange

/-!
# The outer layer

Gathers what the program finds around it – environment, files, arguments –, hands it over and writes
what comes back. No network is attached to it: engines are out of reach.

Reading a file, looking whether a path can be followed, and writing are all that is done here. What
is to be read is settled by the program itself, from the command line and from the configuration, so
that the run can be a function of what was found.
-/

namespace Testbed.Outer

/-- The code that the system gives for reading a directory as a file. -/
def directoryCode : UInt32 := 21

/-- Whether a path can be followed to what is there. -/
def isSeen (path : String) : IO Bool := do
  try
    let _ ← IO.FS.realPath path
    return true
  catch _ => return false

/-- What a path leads to. The content's digest stands for the time of its last modification. -/
def look (path : String) : IO (Option DiskEntry) := do
  try
    let content ← IO.FS.readBinFile path
    return some (.file content.toList (Int.ofNat (hash content).toNat))
  catch e =>
    match e with
    | .permissionDenied .. =>
      if ← isSeen path then return some (.unreadable "Permission denied (os error 13)" 0)
      else return some .hidden
    | .inappropriateType _ code _ =>
      return if code = directoryCode then some (.directory 0) else none
    | _ => return none

/-- The disk as far as some paths show it. -/
def diskAt (paths : List String) : IO Disk := do
  let seen ← paths.mapM (fun path => return (path, ← look path))
  return fun path => (seen.find? (·.1 == path)).bind (·.2)

/-- What the program finds around it, but for the files. -/
def surroundings : IO Cli.Environment := do
  return {
    disk := fun _ => none
    home := (← IO.getEnv "HOME").getD "."
    configHome := ← IO.getEnv "XDG_CONFIG_HOME"
    logFilter := ← IO.getEnv "RUST_LOG" }

/-- What a request finds around it. The files are those that the configuration is read from, and
what has to do with the log file that it names. -/
def environment (r : Cli.Request) : IO Cli.Environment := do
  let bare ← surroundings
  let env := { bare with disk := ← diskAt (r.files bare) }
  let log := (Cli.logFile? env r).toList
  let steps := log.flatMap (fun path => (LogFile.steps path).map (·.2))
  return { env with disk := ← diskAt (r.files bare ++ log ++ steps) }

/-- Writes down what was logged. -/
def writeEvents (file : Option String) (events : List Cli.LogEvent) : IO Unit := do
  match file with
  | none => events.forM (fun e => IO.println e.line)
  | some path =>
    let log ← IO.FS.Handle.mk path .append
    events.forM (fun e => log.putStrLn e.record)

/-- Writes down how a run ended. -/
def finish (e : Cli.Ending) : IO UInt32 := do
  if e.logFile.isSome || !e.events.isEmpty then writeEvents e.logFile e.events
  IO.print e.output
  IO.eprint e.complaint
  return UInt32.ofNat e.code

/-- The longest sleep. -/
def longestSleep : Nat := 4294967295

/-- Follows the configuration for as long as the process lives. -/
partial def follow (interval : UInt32) (w : Watch) : IO Unit := do
  IO.sleep interval
  let disk ← diskAt w.config.files
  follow interval (w.tick disk)

/-- Runs the control plane. -/
def serve (env : Cli.Environment) (s : Cli.Started) : IO UInt32 := do
  IO.eprint s.complaint
  writeEvents (s.log.bind (·.file)) (Cli.Log.keep s.log s.events)
  follow (UInt32.ofNat (min longestSleep s.settings.reloadInterval.millis)) (s.watch env)
  return 0

/-- Carries out a request. Only running the control plane takes its time. -/
def carryOut (r : Cli.Request) (args : List String) : IO UInt32 := do
  let env ← environment r
  match r.command with
  | .run =>
    match Cli.start env r with
    | .ok s => serve env s
    | .error ending => finish ending
  | .list | .probe _ => finish (Cli.run env Call.unanswered args)

end Testbed.Outer

open Testbed in
/-- **The program.** -/
def main (args : List String) : IO UInt32 := do
  match Cli.read args with
  | .request r => Outer.carryOut r args
  | .help _ | .version | .wrong =>
    Outer.finish (Cli.run (← Outer.surroundings) Call.unanswered args)

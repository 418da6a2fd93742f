import Testbed.Config.Settings
import Testbed.Controller.Engines

/-!
# Following a configuration

While the control plane runs, a watcher looks at the configuration's files again and again and reads
them when they have changed. It counts its successful readings; a follower that sees a count it has
not seen before derives settings from the configuration as it is then and applies them. Settings
that cannot be derived change nothing. Reading and counting are two steps, as are seeing the count
and deriving settings, and either of them may have its turn in between.

The watcher goes on for as long as somebody can see its count.

Neither of the two ever waits for the other, and the count is all that passes between them. So the
follower may miss a count, when there are two readings before it looks, and loses nothing by it: it
derives settings from what is there when it does look.
-/

namespace Testbed

/-- **A control plane that follows a configuration.** The configuration is shared by the two, and
each of its readings replaces it as a whole. -/
structure Watch where
  /-- The directory of the projects unless one is set. -/
  projects : OsPath
  /-- The configuration. -/
  config : Config
  /-- The control plane. -/
  controller : Controller
  /-- How often the watcher has read the files. -/
  count : Nat := 0
  /-- The count that the follower has seen. -/
  seen : Nat := 0
  /-- Whether the watcher is there. -/
  watching : Bool := true
  /-- Whether the follower is there. -/
  following : Bool := true

namespace Watch

/-- Reloads the configuration, and gives what came of it. It is one step: nobody sees the
configuration while it is being read. -/
def reload (disk : Disk) (w : Watch) : Except ControlError Bool × Watch :=
  match w.config.reload disk with
  | .ok (changed, config) => (.ok changed, { w with config })
  | .error e => (.error e, w)

/-- Counts a reload that has read the files. One that found nothing changed, and one that failed, do
not count. -/
def tally : Except ControlError Bool → Process Watch Call (fun _ => Answer) Unit
  | .ok true => Process.change (fun w => { w with count := w.count + 1 })
  | .ok false | .error _ => return

/-- The watcher's look at the files: it reloads the configuration, counts that if anything was read,
and ends if nobody can see the count any more. It gives what came of the reload. A failure is not
the watcher's end; it looks again at its next turn. -/
def poll (disk : Disk) : Process Watch Call (fun _ => Answer) (Except ControlError Bool) := do
  let reloaded ← Process.atomically (reload disk)
  tally reloaded
  Process.change (fun w => { w with watching := w.following })
  return reloaded

/-- Whether there is a count that the follower has not seen. It only matters that the two differ,
and not by how much. -/
def hasNews (w : Watch) : Bool := w.following && w.count != w.seen

/-- Changes the control plane. It is how the operations of the control plane reach the state. -/
def setController (controller : Controller) (w : Watch) : Watch := { w with controller }

/-- What a round of the follower gives: settings with the report on applying them, or why there are
none. The report is kept although nobody waits for it. -/
abbrev Pursued := Except ControlError (Settings × Controller.SettingsReport)

/-- Applies settings, if there are any. A failure leaves the settings that are in force. -/
def pursue : Except ControlError Settings → Process Watch Call (fun _ => Answer) Pursued
  | .error e => return .error e
  | .ok s => do
    let report ← (Controller.applySettings s).zoom (·.controller) setController
    return .ok (s, report)

/-- One round of the follower: it waits for news, derives settings and applies them. The count is
taken for seen before the settings are derived, so a reading in between leads to another round. -/
def round : Process Watch Call (fun _ => Answer) Pursued := do
  Process.whenReady hasNews (fun w => ((), { w with seen := w.count }))
  pursue (← Process.read (fun w => w.config.settings w.projects))

/-- Nobody answers: the follower sends no requests. Registering engines needs no answers, and this
one is never asked for. -/
def silence (_ : Call) (u : Unit) : Answer × Unit :=
  (.error (.transport "error sending request"), u)

/-- Lets the follower do what there is to do. It is alone here, so it never has to wait in the
middle. -/
def follow (w : Watch) : Watch := if w.hasNews then (round.complete silence w ()).2.1 else w

/-- Lets the watcher look at the files, if it is there. A watcher that has ended does not look any
more. -/
def look (disk : Disk) (w : Watch) : Watch :=
  if w.watching then ((poll disk).complete silence w ()).2.1 else w

/-- One interval: the watcher looks at the files, and the follower reacts. Any order of the two, and
of their steps, can occur; this is the one without interference. -/
def tick (disk : Disk) (w : Watch) : Watch := (w.look disk).follow

/-- Ends the follower, so that nobody sees the count any more. The watcher notices at its next look
and ends too. -/
def stopFollowing (w : Watch) : Watch := { w with following := false }

/-- Starts a control plane with the settings of a configuration, which it follows from then on.
Settings that cannot be derived, or an engine that cannot be registered, are an error, and then
there is nothing that would follow anything. -/
def start (projects : OsPath) (config : Config) : Except ControlError Watch := do
  let s ← config.settings projects
  let (initial, task) := Controller.start s
  let (report, controller, _) := task.complete silence initial ()
  (report.getD {}).result
  return { projects, config, controller }

end Watch

end Testbed

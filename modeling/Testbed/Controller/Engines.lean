import Testbed.Controller.Projects

/-!
# Engines of the control plane

The registry follows the settings: engines that came with earlier settings and are no longer wanted
are forgotten, new and changed ones are registered, and those registered by other means are left
alone. Every engine is attempted, so that one that cannot be registered does not keep the others
out; the report tells what became of each.

The list of configured engines has the identifiers that settings named, whether or not it was they
that brought the engine. It is read when the next settings come, and written when their engines have
been tried. Between these two moments `configuring` keeps other settings out, but it does not keep
callers from registering engines.
-/

namespace Testbed.Controller

/-- What became of an engine of the settings. It says what this call has done, and not what holds
now: others may have changed the registry since. -/
inductive EngineOutcome where
  /-- It was registered with the same record before. -/
  | unchanged
  /-- It was registered. -/
  | registered
  /-- It could not be registered. -/
  | failed (cause : RegistryError)
  deriving DecidableEq

/-- What applying settings did to the registry. Nothing in it says which engines were forgotten,
since nobody asks. -/
structure SettingsReport where
  /-- Why engines could not be forgotten. -/
  kept : List RegistryError := []
  /-- What became of the engines of the settings, in their order. -/
  engines : List (EngineRecord × EngineOutcome) := []

namespace SettingsReport

/-- The failures, in order. Those about forgetting come first. -/
def failures (r : SettingsReport) : List RegistryError :=
  r.kept ++ r.engines.filterMap (fun (_, outcome) =>
    match outcome with
    | .failed cause => some cause
    | .unchanged | .registered => none)

/-- The first failure as the result. The report as a whole is kept beside it, so a failure does not
hide what succeeded. -/
def result (r : SettingsReport) : Except ControlError Unit :=
  firstError (r.failures.map ControlError.ofRegistry)

end SettingsReport

/-- Forgets engines one after another. One that is not there is as good as forgotten. Every one of
them is attempted. -/
def forgetEngines : List String → Task (List RegistryError)
  | [] => return []
  | id :: rest => do
    let result ← onRegistry (Registry.unregister id)
    let later ← forgetEngines rest
    match result with
    | .ok () | .error (.unknown _) => return later
    | .error e => return e :: later

/-- Registers an engine unless it is registered with the same record. Between the look and the
registration another call may register the engine, which then is registered again. -/
def ensureEngine (record : EngineRecord) : Task EngineOutcome := do
  if (← onRegistry (Registry.inspect (·.record? record.id))) = some record then
    return .unchanged
  else
    match ← onRegistry (Registry.register record) with
    | .ok () => return .registered
    | .error e => return .failed e

/-- Registers engines one after another. An address that is still taken when its turn comes makes an
engine fail, even if a later one of the list would have freed it. -/
def ensureEngines : List EngineRecord → Task (List (EngineRecord × EngineOutcome))
  | [] => return []
  | record :: rest => do
    let outcome ← ensureEngine record
    let later ← ensureEngines rest
    return (record, outcome) :: later

/-- Marks whether an operation is applying settings. It is a lock like those of nodes, and serves
settings only. -/
def setConfiguring (configuring : Bool) (c : Controller) : Controller := { c with configuring }

/-- **Brings the registry in line with settings.** The time-out is changed first and the settings
are put in force last; in between only one operation at a time works on the registry. The marks of
what came from settings are replaced as a whole, whether or not the engines could be registered.
When the call is abandoned in between, they stay as they were. -/
def applySettings (s : Settings) : Task SettingsReport := do
  onRegistry (Registry.setTimeout s.rpcTimeout)
  Process.whenReady (fun c => !c.configuring) (fun c => ((), c.setConfiguring true))
  let wanted := s.engines.map (·.id)
  let report ← Process.onAbandon (setConfiguring false) do
    let before ← Process.read (·.configured)
    let kept ← forgetEngines (before.filter (fun id => !wanted.contains id))
    let engines ← ensureEngines s.engines
    Process.change (fun c => { c with configured := wanted, configuring := false })
    return { kept, engines }
  Process.change (fun c => { c with settings := s })
  return report

/-- The settings in force. They are the ones whose application has ended last. -/
def currentSettings : Task Settings := Process.read (·.settings)

/-- The way to an engine, for requests other than a node's. A client is built if there is none yet.
-/
def reachEngine (id : String) : Op Client := do
  match ← ExceptT.lift (onRegistry (Registry.client id)) with
  | .ok client => return client
  | .error e => throw (.ofRegistry e)

/-- Asks an engine for its version. It says nothing of the engine beyond what the engine says
itself. -/
def probe (id : String) : Op Json := do
  let client ← reachEngine id
  match ← ExceptT.lift (Process.query (⟨client, .get "/version"⟩ : Call)) with
  | .ok v => return v
  | .error e => throw (.ofEngine e)

/-- **Closes every project, then drops every client**, and gives the result of the closing. The
clients are dropped also when a project could not be closed. -/
def shutdown : Op Unit := ExceptT.mk do
  let closed ← closeAll.run
  onRegistry Registry.disconnectAll
  return closed

/-- Starts a control plane with settings: the state before, and the operation that registers the
engines. An engine that cannot be registered does not keep the control plane from being there; what
becomes of the failure is up to the caller. -/
def start (s : Settings) : Controller × Task SettingsReport := (initial s, applySettings s)

end Testbed.Controller

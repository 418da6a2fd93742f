import Testbed.Controller.Engines
import Testbed.Engine.Exchange
import Testbed.Engine.Scripted

/-!
# Scenarios

A control plane together with scripted engines, and the names by which a scenario's steps refer to
them. Here an operation becomes a run: the engines answer its requests, those that are slow only
after everything else had its turn. Nobody listens at the addresses that built clients use.

A name can be given to another engine later on; requests of clients that lead to the former one
still reach it, so engines are kept under numbers of their own behind the names.

Two operations can be run side by side, turn by turn, and an operation can be given one turn and be
abandoned. So what may happen between the steps of an operation can be tried out, too, and not only
what one operation makes of a state.
-/

namespace Testbed

/-- The scripted engines by number. A number is written as a text, as clients go by names. -/
abbrev Engines := Dict String ScriptedEngine

namespace Engines

/-- The answer to a request, and the engines afterwards. A client of no engine is answered as if
nobody listened. -/
def answer (call : Call) (engines : Engines) : Answer × Engines :=
  match call.client with
  | .built _ _ => (call.unanswered, engines)
  | .supplied number =>
    match engines.get? number with
    | none => (call.unanswered, engines)
    | some e =>
      let (a, e) := e.receive call.request
      (a, engines.insert number e)

/-- Whether the answer to a request comes late. It is asked when the request is sent. -/
def isLate (call : Call) (engines : Engines) : Bool :=
  match call.client with
  | .built _ _ => false
  | .supplied number => (engines.get? number).any (·.slow)

end Engines

/-- **A scenario's world.** Names are kept apart from what they stand for, so a thing can outlive
its name. -/
structure Scenario where
  /-- The control plane. -/
  controller : Controller
  /-- The engines. -/
  engines : Engines := .empty
  /-- The engines' numbers by name. -/
  engineNames : Dict String String := .empty
  /-- The nodes by name. -/
  nodeNames : Dict String NodeHandle := .empty
  /-- The project last created with each identifier. -/
  projects : Dict Uuid ProjectHandle := .empty
  /-- The client last given out for each engine. -/
  lastClients : Dict String Client := .empty

/-- Why a step of a scenario failed. The last two are faults of the scenario and not of what it
tries out. -/
inductive ScenarioFault where
  /-- The control plane said so. -/
  | control (e : ControlError)
  /-- The registry said so. -/
  | registry (e : RegistryError)
  /-- An engine said so. -/
  | engine (e : EngineError)
  /-- The step names something that does not exist. -/
  | unknownName
  /-- An operation waits for something that never happens. -/
  | stuck

namespace Scenario

variable {α β : Type}

/-- What a step's run gives: a failed step leaves what it did behind. Nothing is undone. -/
abbrev Result (α : Type) := Except ScenarioFault α × Scenario

/-- The world before its first step. No engine is registered in it. -/
def new (s : Settings) : Scenario := { controller := .initial s }

/-- Runs an operation to its end. It is alone, so it is stuck where it has to wait for somebody
else. -/
def run (task : Controller.Task α) (w : Scenario) : Result α :=
  match task.complete Engines.answer w.controller w.engines with
  | (some a, controller, engines) => (.ok a, { w with controller, engines })
  | (none, controller, engines) => (.error .stuck, { w with controller, engines })

/-- Runs an operation that can fail. Its errors are told apart from those of the scenario. -/
def runOp (op : Controller.Op α) (w : Scenario) : Result α :=
  match run op.run w with
  | (.ok (.ok a), w) => (.ok a, w)
  | (.ok (.error e), w) => (.error (.control e), w)
  | (.error e, w) => (.error e, w)

/-- Runs an operation of the registry. It works on the registry of the control plane. -/
def runRegistry (p : Process Registry Call (fun _ => Answer) α) (w : Scenario) : Result α :=
  run (Controller.onRegistry p) w

/-- Runs an operation of the registry that can fail. Its error is the registry's. -/
def runRegistryOp (p : Process Registry Call (fun _ => Answer) (Except RegistryError α))
    (w : Scenario) : Result α :=
  match runRegistry p w with
  | (.ok (.ok a), w) => (.ok a, w)
  | (.ok (.error e), w) => (.error (.registry e), w)
  | (.error e, w) => (.error e, w)

/-- The turns that two operations side by side are given: more than they can use. An operation that
is not finished after so many waits for ever. -/
def turns : Nat := 64

/-- Runs two operations side by side. The first of them has the first turn. -/
def runBoth (a b : Controller.Op α) (w : Scenario) :
    Result (Except ControlError α × Except ControlError α) :=
  let ((p, q), controller, engines) :=
    Process.Progress.alternate Engines.answer Engines.isLate turns (Process.waiting a.run)
      (Process.waiting b.run) w.controller w.engines
  let w := { w with controller, engines }
  match p.result?, q.result? with
  | some x, some y => (.ok (x, y), w)
  | _, _ => (.error .stuck, w)

/-- Gives an operation one turn and abandons it if it has to wait. Nothing is the result of an
abandoned one. What abandoning it does to the state is done. -/
def runOnce (op : Controller.Op α) (w : Scenario) : Result (Option (Except ControlError α)) :=
  match op.run.poll Engines.answer Engines.isLate w.controller w.engines with
  | (.finished a, controller, engines) => (.ok (some a), { w with controller, engines })
  | (.waiting _ abandon, controller, engines) =>
    (.ok none, { w with controller := abandon controller, engines })

/-- The requests that the engines received between two moments, by the engines' names. Each engine's
are in the order in which it received them. -/
def callsSince (before after : Scenario) : List (String × Request) :=
  after.engineNames.entries.flatMap (fun (name, number) =>
    let count := ((before.engines.get? number).map (·.calls.length)).getD 0
    match after.engines.get? number with
    | some e => (e.calls.drop count).map (fun r => (name, r))
    | none => [])

end Scenario

end Testbed

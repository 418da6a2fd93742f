import Testbed.Engine.Error
import Testbed.Engine.Request

/-!
# Scripted engines

An engine in memory. It keeps every request it received and answers from a script of routes; a route
that has no entry gets an empty object.

It stands in for an engine where operations are tried out. That it keeps what it has received is
what makes the order of requests visible, and that it can be slow is what brings operations into
each other's way.
-/

namespace Testbed

/-- An engine that answers from a script. Nothing in it fails by itself: a failure is an answer of
the script. -/
structure ScriptedEngine where
  /-- The identifier it gives for itself. -/
  id : String
  /-- The answers by method and path; the first entry of a route counts. -/
  script : List ((Method × String) × Answer) := []
  /-- The requests received, oldest first. -/
  calls : List Request := []
  /-- Whether its answers arrive only after everything else had its turn. -/
  slow : Bool := false

namespace ScriptedEngine

/-- Answers every request of a route alike from now on. The new entry goes in front, so it takes the
place of earlier ones. -/
def answer (e : ScriptedEngine) (method : Method) (path : String) (a : Answer) :
    ScriptedEngine :=
  { e with script := ((method, path), a) :: e.script }

/-- Restores the default answer of a route. All entries of the route are taken out. -/
def reset (e : ScriptedEngine) (method : Method) (path : String) : ScriptedEngine :=
  { e with script := e.script.filter (fun entry => entry.1 != (method, path)) }

/-- Forgets the received requests and keeps the script. Requests that follow are kept again. -/
def clearCalls (e : ScriptedEngine) : ScriptedEngine := { e with calls := [] }

/-- The answer to a request. The body of a request does not matter to it. -/
def answerTo (e : ScriptedEngine) (r : Request) : Answer :=
  match e.script.find? (fun entry => entry.1 == (r.method, r.path)) with
  | some (_, a) => a
  | none => .ok (.obj [])

/-- Receives a request: it is kept and answered. A request that is refused is kept all the same. -/
def receive (e : ScriptedEngine) (r : Request) : Answer × ScriptedEngine :=
  (e.answerTo r, { e with calls := e.calls ++ [r] })

end ScriptedEngine

end Testbed

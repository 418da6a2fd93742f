import Testbed.Node.Capture
import Testbed.Node.Update
import Testbed.Project
import Testbed.Registry.Operations
import Testbed.Settings

/-!
# The control plane

What all operations share: the settings in force, the engine registry, the open projects, and the
nodes behind their locks. Projects and nodes are kept in tables under handles that are never used
twice, so a project or a node that was forgotten remains what it was for whoever still holds its
handle, also when another one with the same identifier has taken its place.

Operations are processes on this state (`Controller.Op`), and those of a node or of the registry
become operations of the control plane by looking at their part of it (`onNode`, `onRegistry`). A
lock is a truth value in the state that an operation waits for, so which operation holds it is known
only from where the operations stand.
-/

namespace Testbed

/-- Where a project is kept. Handles are counted together with those of nodes, and no number is
given twice. -/
abbrev ProjectHandle := Nat

/-- A node behind its lock. The lock belongs to the handle and not to the identifier: another node
under the same identifier has another one. -/
structure NodeCell where
  /-- The node. -/
  node : Node
  /-- Whether an operation holds the lock. -/
  held : Bool := false
  deriving Inhabited

/-- **The state of the control plane.** Tables keep what was ever there, and `openProjects` says
which of the projects are open. -/
structure Controller where
  /-- The settings in force. -/
  settings : Settings
  /-- The engine registry. -/
  registry : Registry
  /-- The identifiers of the engines that came with the settings. -/
  configured : List String := []
  /-- Whether an operation is applying settings to the registry. -/
  configuring : Bool := false
  /-- The directory of the projects. -/
  projectsRoot : OsPath
  /-- The open projects by identifier. -/
  openProjects : Dict Uuid ProjectHandle := .empty
  /-- All projects there have been. -/
  projects : Dict Nat Project := .empty
  /-- All nodes there have been. -/
  cells : Dict Nat NodeCell := .empty
  /-- The handles given out. -/
  allocated : Nat := 0
  deriving Inhabited

namespace Controller

/-- The state before any engine is registered. There are no engines yet, though the settings may
list some: applying the settings registers them. -/
def initial (s : Settings) : Controller where
  settings := s
  registry := .new s.rpcTimeout
  projectsRoot := s.projectsPath

/-- The project under a handle. A handle that was never given out leads to an empty project, so that
no caller has to ask whether there is one. -/
def project (c : Controller) (h : ProjectHandle) : Project := (c.projects.get? h).getD default

/-- Changes the project under a handle. What is open and what is not stays as it is. -/
def setProject (h : ProjectHandle) (p : Project) (c : Controller) : Controller :=
  { c with projects := c.projects.insert h p }

/-- The node and its lock under a handle. As with projects, every handle leads somewhere. -/
def cell (c : Controller) (h : NodeHandle) : NodeCell := (c.cells.get? h).getD default

/-- Changes the node and its lock under a handle. Other cells are not touched. -/
def setCell (h : NodeHandle) (cell : NodeCell) (c : Controller) : Controller :=
  { c with cells := c.cells.insert h cell }

/-- The node under a handle. It can be looked at without its lock. -/
def node (c : Controller) (h : NodeHandle) : Node := (c.cell h).node

/-- Changes the node under a handle and leaves its lock. It is how the operations of a node reach
the state. -/
def setNode (h : NodeHandle) (n : Node) (c : Controller) : Controller :=
  c.setCell h { c.cell h with node := n }

/-- Takes or gives back the lock of a node. The node stays as it is. -/
def setHeld (h : NodeHandle) (held : Bool) (c : Controller) : Controller :=
  c.setCell h { c.cell h with held }

/-- Changes the registry. It is how the operations of the registry reach the state. -/
def setRegistry (r : Registry) (c : Controller) : Controller := { c with registry := r }

/-- A process of the control plane, which asks engines for answers. The only question that is left
is a request to an engine. Clients are found within. -/
abbrev Task (α : Type) := Process Controller Call (fun _ => Answer) α

/-- **An operation of the control plane.** It is a process that may end in an error. When it does,
what it has changed by then remains. -/
abbrev Op (α : Type) := ExceptT ControlError Task α

variable {α : Type}

/-- An operation of the registry. Whoever holds the registry holds it against the whole control
plane. -/
def onRegistry (p : Process Registry Call (fun _ => Answer) α) : Task α :=
  p.zoom (·.registry) setRegistry

/-- How the questions of a node's operation are answered: the registry knows the client, the engine
the answer. Looking for a client takes the registry if one has to be built, and so it may have to
wait. -/
def answerNode : (q : Node.Question) → Task (Node.Question.Reply q)
  | .engine id => onRegistry (Registry.client id)
  | .send call => Process.query call

/-- An operation of the node under a handle. It does not take the node's lock; whoever uses it sees
to that. -/
def onNode (h : NodeHandle) (op : Node.Op α) : Op α :=
  ExceptT.mk ((op.run.zoom (·.node h) (setNode h)).handle answerNode)

/-- Looks at the state. It takes one step, and what was seen may have changed at the next. -/
def look (f : Controller → α) : Op α := ExceptT.lift (Process.read f)

/-- Changes the state. It never fails and never waits. -/
def alter (f : Controller → Controller) : Op Unit := ExceptT.lift (Process.change f)

end Controller

end Testbed

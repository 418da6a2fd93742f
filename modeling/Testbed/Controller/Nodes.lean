import Testbed.Controller.Basic

/-!
# Nodes of a project

Operations on a node hold its lock from their first look to their last change, so that two of them
never mix. A node enters its project in three steps: its identifier is claimed, the engine creates
it, the project takes it in. The claim is given up at the end, whichever way that comes; between
claim and end nobody else gets the identifier, so no engine is asked for the same node twice.

Deleting is the reverse without a claim: the engine deletes the node under the node's lock, and the
project forgets it afterwards.

What is done at the end of an operation in any case – giving back a lock, giving up a claim – is put
around it by `ensuring`, so no operation has to think of it at each of its ends. It is done when the
operation succeeds, when it fails, and when it is abandoned while it waits.
-/

namespace Testbed.Controller

variable {α : Type}

/-- Runs an operation that does something to the state when it ends, also by an error or because it
is abandoned. The result is the operation's, whatever the cleanup does. -/
def ensuring (cleanup : Controller → Controller) (op : Op α) : Op α := ExceptT.mk do
  let result ← op.run.onAbandon cleanup
  (Process.change cleanup).onAbandon cleanup
  return result

/-- Holds the lock of a node while an operation runs. The lock is waited for in line with nobody:
whoever has a turn when it is free takes it. -/
def locked (h : NodeHandle) (op : Op α) : Op α := do
  ExceptT.lift (Process.whenReady (fun c => !(c.cell h).held) (fun c => ((), c.setHeld h true)))
  ensuring (setHeld h false) op

/-- An operation of the node under a handle, with the node's lock held. An error leaves the node as
the operation left it, and gives the lock back all the same. -/
def withNode (h : NodeHandle) (op : Node.Op α) : Op α := locked h (onNode h op)

/-- Changes a project. Other projects, and all nodes, are not touched. -/
def editProject (p : ProjectHandle) (f : Project → Project) (c : Controller) : Controller :=
  c.setProject p (f (c.project p))

/-- Draws up a node for a project, known to nobody yet. It has a handle of its own from here on, so
if it is never taken in it remains in the table and nobody finds it. -/
def draftNode (p : ProjectHandle) (engine : String) (spec : NodeSpec) (c : Controller) :
    NodeHandle × Controller :=
  let project := c.project p
  let node := Node.draft project.id project.captureDir engine spec
  (c.allocated, { c.setCell c.allocated { node } with allocated := c.allocated + 1 })

/-- Claims an identifier in a project, unless it is taken. Testing and claiming are one step; of two
calls that want one identifier only one finds it free. -/
def claimNode (p : ProjectHandle) (id : Uuid) (c : Controller) :
    Except ControlError Unit × Controller :=
  let project := c.project p
  if project.isFree id then (.ok (), c.setProject p (project.claim id))
  else (.error (.conflict (.nodeExists id project.id)), c)

/-- **Creates a node on an engine and takes it into a project.** The node is drawn up before its
identifier is claimed, as nobody can see it until the project takes it in. Its lock is not needed
for the same reason. When the claim fails, no engine has been asked. -/
def addNodeTo (p : ProjectHandle) (engine : String) (spec : NodeSpec) : Op NodeHandle := do
  let h ← ExceptT.lift (Process.atomically (draftNode p engine spec))
  ExceptT.mk (Process.atomically (claimNode p spec.id))
  ensuring (editProject p (·.unclaim spec.id)) do
    onNode h Node.create
    alter (editProject p (·.put spec.id h))
    return h

/-- The handle of a node of a project. A claimed identifier is not found. -/
def findNode (p : ProjectHandle) (id : Uuid) : Op NodeHandle := do
  let project ← look (·.project p)
  match project.nodes.get? id with
  | some h => return h
  | none => throw (.notFound (.node id project.id))

/-- Deletes a node on its engine, then forgets it. The project forgets what stands under the
identifier when the engine has answered, and does not look whether that still is the node it was. -/
def deleteNode (p : ProjectHandle) (id : Uuid) : Op Unit := do
  let h ← findNode p id
  withNode h Node.destroy
  alter (editProject p (·.drop id))

/-- Starts capturing packets on a node of a project. The node is looked up once, and its lock is
waited for afterwards, so it may have been deleted by then; the node's own status says so. -/
def startCapture (p : ProjectHandle) (id : Uuid) (index : Nat) (file : String) : Op OsPath := do
  withNode (← findNode p id) (Node.startCapture index file)

/-- Stops capturing packets on a node of a project. As with starting, the node's status decides and
not the project's entries. -/
def stopCapture (p : ProjectHandle) (id : Uuid) (index : Nat) : Op Unit := do
  withNode (← findNode p id) (Node.stopCapture index)

end Testbed.Controller

import Testbed.Controller.Nodes

/-!
# Projects of the control plane

Opening and closing projects. A project is closed by deleting its nodes in the order of their
identifiers; the first that cannot be deleted ends that, and the project stays open with the nodes
that are left. Closing all projects goes on past a project that cannot be closed and reports the
first error at the end.

The nodes of a project are looked up once, when closing begins. One that is added while it goes on
is not among them, and stays in the project, which is forgotten all the same if the others could be
deleted.
-/

namespace Testbed.Controller

/-- Opens a project, unless its identifier is taken. The directory follows from the root and the
identifier. It is not made on any disk. -/
def openProject (id : Uuid) (name : String) (c : Controller) :
    Except ControlError ProjectHandle × Controller :=
  if c.openProjects.contains id then (.error (.conflict (.projectExists id)), c)
  else
    let h := c.allocated
    (.ok h, { c.setProject h (.new c.projectsRoot id name) with
      openProjects := c.openProjects.insert id h
      allocated := h + 1 })

/-- Opens a project. It is one step, so of two projects with one identifier the first is opened and
the other is refused. -/
def createProject (id : Uuid) (name : String) : Op ProjectHandle :=
  ExceptT.mk (Process.atomically (openProject id name))

/-- The handle of an open project. A project that was closed is not found, though its handle would
still lead to it. -/
def findProject (id : Uuid) : Op ProjectHandle := do
  match ← look (·.openProjects.get? id) with
  | some p => return p
  | none => throw (.notFound (.project id))

/-- Forgets an open project. What the project holds stays where it is, for those who have its
handle. -/
def forgetProject (id : Uuid) (c : Controller) : Controller :=
  { c with openProjects := c.openProjects.erase id }

/-- Deletes nodes of a project one after another, up to the first that cannot be deleted. A node
that somebody else has deleted in the meantime cannot be, and ends the whole. -/
def deleteNodes (p : ProjectHandle) : List Uuid → Op Unit
  | [] => return ()
  | id :: rest => do
    deleteNode p id
    deleteNodes p rest

/-- Deletes all nodes of a project. They are looked up once, in the order of their identifiers. -/
def closeProject (p : ProjectHandle) : Op Unit := do
  deleteNodes p (← look (fun c => (c.project p).nodes.keys))

/-- Closes a project and forgets it. An error of the first part leaves the project open; there is
nothing to undo. -/
def deleteProject (id : Uuid) : Op Unit := do
  closeProject (← findProject id)
  alter (forgetProject id)

/-- Closes projects one after another and keeps the errors. The errors are in the order of the
projects. -/
def deleteProjects : List Uuid → Task (List ControlError)
  | [] => return []
  | id :: rest => do
    let result ← (deleteProject id).run
    let later ← deleteProjects rest
    match result with
    | .ok () => return later
    | .error e => return e :: later

/-- The first of some errors, if there is one. The others are dropped. -/
def firstError (errors : List ControlError) : Except ControlError Unit :=
  match errors with
  | [] => .ok ()
  | e :: _ => .error e

/-- **Closes every project** and reports the first error. A project that is opened while it goes on
is not among them. -/
def closeAll : Op Unit := ExceptT.mk do
  let ids ← Process.read (·.openProjects.keys)
  return firstError (← deleteProjects ids)

/-- Creates a node in an open project on a registered engine. Whether the engine is registered is
looked at once, before anything is claimed; the client is looked for later, and by then the engine
may be gone. -/
def addNode (project : Uuid) (engine : String) (spec : NodeSpec) : Op NodeHandle := do
  let p ← findProject project
  match ← ExceptT.lift (onRegistry (Registry.inspect (·.record? engine))) with
  | some _ => addNodeTo p engine spec
  | none => throw (.ofRegistry (.unknown engine))

end Testbed.Controller

import Testbed.Engine.Client
import Testbed.Node.Basic
import Testbed.Process

/-!
# Operations of a node

An operation looks at the node, finds the node's engine, sends its requests and changes the node
after each of them that the engine confirmed. It asks two kinds of questions: which client leads to
the engine now, and what the engine answers to a request. An error ends it where it stands, so that
the node is left as the last confirmed request left it.

Every operation looks at the node's status first, and sends no request where it does not allow one;
only `post` and `delete`, which pass on what a caller asks for, do not look. The client is looked
for after all checks, since this may build one; a request that follows is sent through the client
that was found then, even if the engine is registered anew in the meantime.
-/

namespace Testbed.Node

/-- What an operation of a node asks. These are the only two reasons why an operation waits;
everything else about a node is decided on the spot. -/
inductive Question where
  /-- The client that leads to an engine. -/
  | engine (id : String)
  /-- The engine's answer to a request. -/
  | send (call : Call)

/-- What a question is answered with. Either may fail: the engine may be unknown by now, and it may
refuse. -/
@[reducible] def Question.Reply : Question → Type
  | engine _ => Except RegistryError Client
  | send _ => Answer

/-- **An operation of a node.** It is a process on the node alone. What else there is, the registry
and the other nodes, is reached by questions. -/
abbrev Op (α : Type) := ExceptT ControlError (Process Node Question Question.Reply) α

/-- The node as it is now. Nobody else changes it between this and a later step, since an operation
runs under the node's lock. -/
def self : Op Node := ExceptT.lift (Process.read (fun n => n))

/-- Changes the node. The change is made in one step, and it is all that the operation does in that
step. -/
def edit (f : Node → Node) : Op Unit := ExceptT.lift (Process.change f)

/-- Ends in an error unless the node exists on its engine. The conflict names the call that was made
and the status that forbids it. -/
def requireCreated (verb : NodeVerb) : Op Unit := do
  let n ← self
  if n.status.isCreated then return () else throw (.conflict (.notCreated verb n.id n.status))

/-- The error of an engine that cannot be found. An engine that is not registered any more is
unavailable to the node, which is not at fault; other errors of the registry keep their kind. -/
def engineMissing : RegistryError → ControlError
  | .unknown id => .unavailable id
  | e => .ofRegistry e

/-- The client that leads to the node's engine. It is found by the node's own engine identifier,
anew for every operation. -/
def findEngine : Op Client := do
  let n ← self
  match ← ExceptT.lift (Process.query (Question.engine n.engine)) with
  | .ok client => return client
  | .error e => throw (engineMissing e)

/-- Sends a request and waits for the answer. A failure of the engine ends the operation here, so
what follows is done only after a confirmation. -/
def send (client : Client) (request : Request) : Op Json := do
  match ← ExceptT.lift (Process.query (Question.send ⟨client, request⟩)) with
  | .ok v => return v
  | .error e => throw (.ofEngine e)

/-- Creates the node on its engine and takes over what the engine reports. It starts from a pending
node, and the report is taken over before the status is set, which no report could do. -/
def create : Op Unit := do
  let n ← self
  if n.status ≠ .pending then throw (.conflict (.alreadyCreated n.id n.status))
  let client ← findEngine
  let report ← send client (.post n.collectionPath (some (.ofDict n.createBody)))
  edit (fun n => { n.merge report with status := .created })

/-- The actions of a node's lifecycle. They differ in a word of their path and in the status that
follows, and in nothing else. -/
inductive Action where
  | start
  | stop
  | suspend
  | resume
  | reload
  deriving DecidableEq, Repr

namespace Action

/-- The operation that an action is. Its text is also the last segment of the action's path. -/
def verb : Action → NodeVerb
  | start => .start
  | stop => .stop
  | suspend => .suspend
  | resume => .resume
  | reload => .reload

/-- The status after an action; a reload leaves it. A resumed node is a started one, whether or not
it had been started before. -/
def next? : Action → Option NodeStatus
  | start | resume => some .started
  | stop => some .stopped
  | suspend => some .suspended
  | reload => none

end Action

/-- Performs an action of the lifecycle. Among the statuses of a node that exists on its engine none
forbids an action: what can follow what is the engine's decision. What the engine answers beside its
consent is dropped. -/
def act (a : Action) : Op Unit := do
  requireCreated a.verb
  let client ← findEngine
  let n ← self
  let _ ← send client (.post (n.subPath a.verb.text) none)
  edit (fun n => { n with status := a.next?.getD n.status })

/-- The node after its deletion. Its bindings are gone with it, while its settings stay as they
were. -/
def buried (n : Node) : Node := { n with nios := .empty, status := .deleted }

/-- Deletes the node on its engine. A node the engine does not know is deleted without a request.
Deleting twice is a conflict. When the engine refuses, the node stays as it is. -/
def destroy : Op Unit := do
  let n ← self
  match n.status with
  | .deleted => throw (.conflict (.alreadyDeleted n.id))
  | .pending => edit buried
  | .created | .started | .stopped | .suspended =>
    let client ← findEngine
    let _ ← send client (.delete n.path)
    edit buried

/-- Posts below the node, whatever its status. It changes nothing here, whatever the engine makes of
it. -/
def post (sub : String) (body : Option Json) : Op Json := do
  let client ← findEngine
  let n ← self
  send client (.post (n.subPath sub) body)

/-- Deletes below the node, whatever its status. As with `post`, nothing is changed here, so a
binding that is removed this way stays in the picture. -/
def delete (sub : String) : Op Json := do
  let client ← findEngine
  let n ← self
  send client (.delete (n.subPath sub))

end Testbed.Node

import Testbed.Scenario.Basic

/-!
# Steps of a scenario

The steps that a scenario is made of – on the scripted engines, the registry, the control plane, a
project or a node – and what each of them gives. Performing a step runs the operation it stands
for; the names it introduces refer to what it made only if it succeeds.
-/

namespace Testbed

/-- A step on a node. Each of them is one call of the interface. -/
inductive NodeStep where
  | create
  | act (a : Node.Action)
  | destroy
  | update (changes : Dict String Json)
  | post (sub : String) (body : Option Json)
  | delete (sub : String)
  | addNio (index : Nat) (spec : Json)
  | removeNio (index : Nat)
  | nio (index : Nat)
  | startCapture (index : Nat) (file : String)
  | stopCapture (index : Nat)
  /-- Shows the node. -/
  | inspect

/-- A step on a scripted engine. The engine is changed between calls, and never during one. -/
inductive EngineStep where
  /-- Answers a route from now on. -/
  | script (method : Method) (path : String) (answer : Answer)
  /-- Restores the default answer of a route. -/
  | reset (method : Method) (path : String)
  | clearCalls
  | calls
  | lastCall
  | callCount
  /-- Sends a request past the registry. -/
  | send (request : Request)

/-- A step on the registry. They reach the registry without the control plane's own operations. -/
inductive RegistryStep where
  | register (record : EngineRecord)
  | registerWith (record : EngineRecord) (engine : String)
  | unregister (id : String)
  | client (id : String)
  | request (id : String) (request : Request)
  | record (id : String)
  | status (id : String)
  | isConnected (id : String)
  | list
  | disconnect (id : String)
  | disconnectAll
  | setTimeout (timeout : Duration)
  | timeout

/-- A step on an open or forgotten project. A project is named by its identifier, also after it was
forgotten. -/
inductive ProjectStep where
  | info
  | nodeIds
  | nodeCount
  | nodes
  /-- Adds a node and names it. -/
  | addNode (engine node : String) (spec : NodeSpec)
  /-- Adds two nodes side by side. -/
  | addBoth (engine : String) (a b : NodeSpec)
  /-- Adds a node and gives up if that has to wait. -/
  | addOnce (engine : String) (spec : NodeSpec)
  /-- Draws up a node that the project does not know and names it. -/
  | draft (engine node : String) (spec : NodeSpec)
  | node (id : Uuid)
  | deleteNode (id : Uuid)
  | startCapture (id : Uuid) (index : Nat) (file : String)
  | stopCapture (id : Uuid) (index : Nat)
  | close

/-- **A step of a scenario.** It is what a scenario consists of. -/
inductive ScenarioStep where
  /-- Makes a scripted engine and names it. -/
  | makeEngine (name id : String) (slow : Bool)
  | onEngine (name : String) (step : EngineStep)
  | onRegistry (step : RegistryStep)
  | applySettings (s : Settings)
  | settings
  | probe (id : String)
  | shutdown
  /-- Adds a node to an open project and names it. -/
  | addNode (project : Uuid) (engine node : String) (spec : NodeSpec)
  | projectsRoot
  | createProject (id : Uuid) (name : String)
  | openProject (id : Uuid)
  | projects
  | deleteProject (id : Uuid)
  | closeAll
  | onProject (id : Uuid) (step : ProjectStep)
  | onNode (name : String) (step : NodeStep)
  /-- Two steps on a node, the second behind the first. -/
  | onNodeBoth (name : String) (a b : NodeStep)

/-- An engine as the registry lists it. -/
structure EngineOverview where
  /-- The record. -/
  record : EngineRecord
  /-- The status. -/
  status : EngineStatus
  /-- Whether it has a client. -/
  connected : Bool

/-- **What a step gives.** -/
inductive Outcome where
  | done
  | json (v : Json)
  | path (p : OsPath)
  | keys (l : List String)
  | count (n : Nat)
  | flag (b : Bool)
  | duration (d : Duration)
  | requests (l : List Request)
  | lastRequest (r : Option Request)
  /-- The client's own identifier, and whether it is another one than the last for its engine. -/
  | client (id : String) (fresh : Bool)
  | record (r : Option EngineRecord)
  | status (s : Option EngineStatus)
  | engines (l : List EngineOverview)
  | settings (s : Settings)
  | project (p : Project)
  | projects (l : List Project)
  | ids (l : List Uuid)
  | nodes (l : List (Uuid × Node))
  | node (n : Node)
  | nio (n : Option Nio)
  /-- The outcomes of two steps side by side. -/
  | both (a b : Except ControlError Outcome)
  /-- Whether an operation was finished at once. -/
  | finished (b : Bool)
  /-- The status of a node. -/
  | nodeStatus (s : NodeStatus)

namespace Scenario

variable {α β : Type}

/-- Changes the value of a result. A failure stays what it was. -/
def mapResult (f : α → β) (r : Result α) : Result β := (r.1.map f, r.2)

/-- What comes after a successful result. After a failed one it is not even tried. -/
def andThen (r : Result α) (f : α → Scenario → Result β) : Result β :=
  match r with
  | (.ok a, w) => f a w
  | (.error e, w) => (.error e, w)

/-- A failed step that did nothing. The world is as it was before the step. -/
def fail (fault : ScenarioFault) (w : Scenario) : Result α := (.error fault, w)

/-! ## Scripted engines -/

/-- Makes a scripted engine and names it. -/
def makeEngine (name id : String) (slow : Bool) (w : Scenario) : Scenario :=
  let number := toString w.engines.size
  { w with
    engines := w.engines.insert number { id, slow }
    engineNames := w.engineNames.insert name number }

/-- The number and the state of a named engine. -/
def engine? (w : Scenario) (name : String) : Option (String × ScriptedEngine) := do
  let number ← w.engineNames.get? name
  return (number, ← w.engines.get? number)

/-- A step on a scripted engine. -/
def onEngine (name : String) (step : EngineStep) (w : Scenario) : Result Outcome :=
  match w.engine? name with
  | none => fail .unknownName w
  | some (number, e) =>
    let changed (e : ScriptedEngine) : Result Outcome :=
      (.ok .done, { w with engines := w.engines.insert number e })
    match step with
    | .script method path answer => changed (e.answer method path answer)
    | .reset method path => changed (e.reset method path)
    | .clearCalls => changed e.clearCalls
    | .calls => (.ok (.requests e.calls), w)
    | .lastCall => (.ok (.lastRequest e.calls.getLast?), w)
    | .callCount => (.ok (.count e.calls.length), w)
    | .send request =>
      let (answer, e) := e.receive request
      ((answer.map Outcome.json).mapError .engine, { w with engines := w.engines.insert number e })

/-! ## Registry -/

/-- A client's own identifier. -/
def clientId (w : Scenario) : Client → String
  | .built _ endpoint => endpoint.id
  | .supplied number => ((w.engines.get? number).map (·.id)).getD number

/-- Gives out a client and remembers it. So two steps can be asked whether they were given the same.
-/
def giveClient (id : String) (client : Client) (w : Scenario) : Result Outcome :=
  let fresh := w.lastClients.get? id != some client
  (.ok (.client (w.clientId client) fresh),
    { w with lastClients := w.lastClients.insert id client })

/-- An engine as the registry lists it. -/
def overview (r : Registry) (e : RegistryEntry) : EngineOverview :=
  ⟨e.record, e.status, r.isConnected e.record.id⟩

/-- The answer of an engine as an outcome. -/
def answered (answer : Answer) (w : Scenario) : Result Outcome :=
  ((answer.map Outcome.json).mapError .engine, w)

/-- A step on the registry. -/
def onRegistry (step : RegistryStep) (w : Scenario) : Result Outcome :=
  match step with
  | .register record =>
    mapResult (fun _ => .done) (runRegistryOp (Registry.register record) w)
  | .registerWith record name =>
    match w.engineNames.get? name with
    | none => fail .unknownName w
    | some number =>
      mapResult (fun _ => .done) (runRegistryOp (Registry.registerWith record number) w)
  | .unregister id => mapResult (fun _ => .done) (runRegistryOp (Registry.unregister id) w)
  | .client id => andThen (runRegistryOp (Registry.client id) w) (giveClient id)
  | .request id request =>
    andThen (runRegistryOp (Registry.client id) w) (fun client w =>
      andThen (run (Process.query (⟨client, request⟩ : Call)) w) answered)
  | .record id => mapResult .record (runRegistry (Registry.inspect (·.record? id)) w)
  | .status id => mapResult .status (runRegistry (Registry.inspect (·.status? id)) w)
  | .isConnected id => mapResult .flag (runRegistry (Registry.inspect (·.isConnected id)) w)
  | .list =>
    mapResult .engines
      (runRegistry (Registry.inspect (fun r => r.entries.values.map (overview r))) w)
  | .disconnect id => mapResult (fun _ => .done) (runRegistry (Registry.disconnect id) w)
  | .disconnectAll => mapResult (fun _ => .done) (runRegistry Registry.disconnectAll w)
  | .setTimeout timeout => mapResult (fun _ => .done) (runRegistry (Registry.setTimeout timeout) w)
  | .timeout => mapResult .duration (runRegistry (Process.read (·.timeout)) w)

/-! ## Nodes -/

/-- Names a node. -/
def nameNode (name : String) (h : NodeHandle) (w : Scenario) : Result Outcome :=
  (.ok .done, { w with nodeNames := w.nodeNames.insert name h })

/-- The operation that a step on a node stands for. -/
def nodeOp : NodeStep → Node.Op Outcome
  | .create => (fun _ => .done) <$> Node.create
  | .act a => (fun _ => .done) <$> Node.act a
  | .destroy => (fun _ => .done) <$> Node.destroy
  | .update changes => .keys <$> Node.update changes
  | .post sub body => .json <$> Node.post sub body
  | .delete sub => .json <$> Node.delete sub
  | .addNio index spec => (fun nio => .nio (some nio)) <$> Node.addNio index spec
  | .removeNio index => (fun nio => .nio (some nio)) <$> Node.removeNio index
  | .nio index => (fun n => .nio (n.nios.get? index)) <$> Node.self
  | .startCapture index file => .path <$> Node.startCapture index file
  | .stopCapture index => (fun _ => .done) <$> Node.stopCapture index
  | .inspect => .node <$> Node.self

/-- A step on a node. -/
def onNode (name : String) (step : NodeStep) (w : Scenario) : Result Outcome :=
  match w.nodeNames.get? name with
  | none => fail .unknownName w
  | some h => runOp (Controller.withNode h (nodeOp step)) w

/-- A step on a node that gives the node's status after it. Side by side with another step it is the
status at that moment. -/
def statusAfter (step : NodeStep) : Node.Op Outcome := do
  let _ ← nodeOp step
  return .nodeStatus (← Node.self).status

/-- Two steps on a node side by side. Both have the same node, and its lock keeps them apart. -/
def onNodeBoth (name : String) (a b : NodeStep) (w : Scenario) : Result Outcome :=
  match w.nodeNames.get? name with
  | none => fail .unknownName w
  | some h =>
    mapResult (fun (x, y) => .both x y)
      (runBoth (Controller.withNode h (statusAfter a)) (Controller.withNode h (statusAfter b)) w)

/-! ## Projects -/

/-- Takes note of a project and gives its description. -/
def projectOutcome (p : ProjectHandle) (w : Scenario) : Result Outcome :=
  (.ok (.project (w.controller.project p)), w)

/-- The nodes of a project with their identifiers. -/
def nodesOf (p : ProjectHandle) (c : Controller) : List (Uuid × Node) :=
  (c.project p).nodes.entries.map (fun (id, h) => (id, c.node h))

/-- A step on a project. -/
def onProject (id : Uuid) (step : ProjectStep) (w : Scenario) : Result Outcome :=
  match w.projects.get? id with
  | none => fail .unknownName w
  | some p =>
    match step with
    | .info => projectOutcome p w
    | .nodeIds => (.ok (.ids (w.controller.project p).nodes.keys), w)
    | .nodeCount => (.ok (.count (w.controller.project p).nodes.size), w)
    | .nodes => (.ok (.nodes (nodesOf p w.controller)), w)
    | .addNode engine name spec =>
      andThen (runOp (Controller.addNodeTo p engine spec) w) (nameNode name)
    | .addBoth engine a b =>
      mapResult (fun (x, y) => .both (x.map fun _ => .done) (y.map fun _ => .done))
        (runBoth (Controller.addNodeTo p engine a) (Controller.addNodeTo p engine b) w)
    | .addOnce engine spec =>
      andThen (runOnce (Controller.addNodeTo p engine spec) w) (fun result w =>
        match result with
        | none => (.ok (.finished false), w)
        | some (.ok _) => (.ok (.finished true), w)
        | some (.error e) => fail (.control e) w)
    | .draft engine name spec =>
      andThen (run (Process.atomically (Controller.draftNode p engine spec)) w) (nameNode name)
    | .node node =>
      andThen (runOp (Controller.findNode p node) w) (fun h w =>
        mapResult .node (runOp (Controller.withNode h Node.self) w))
    | .deleteNode node =>
      mapResult (fun _ => .done) (runOp (Controller.deleteNode p node) w)
    | .startCapture node index file =>
      mapResult .path (runOp (Controller.startCapture p node index file) w)
    | .stopCapture node index =>
      mapResult (fun _ => .done) (runOp (Controller.stopCapture p node index) w)
    | .close => mapResult (fun _ => .done) (runOp (Controller.closeProject p) w)

/-! ## The control plane -/

/-- Applies settings. -/
def applySettings (s : Settings) (w : Scenario) : Result Unit :=
  andThen (run (Controller.applySettings s) w) (fun report w =>
    (report.result.mapError .control, w))

/-- **Performs a step.** -/
def perform (step : ScenarioStep) (w : Scenario) : Result Outcome :=
  match step with
  | .makeEngine name id slow => (.ok .done, w.makeEngine name id slow)
  | .onEngine name step => w.onEngine name step
  | .onRegistry step => w.onRegistry step
  | .applySettings s => mapResult (fun _ => .done) (w.applySettings s)
  | .settings => mapResult .settings (run Controller.currentSettings w)
  | .probe id => mapResult .json (runOp (Controller.probe id) w)
  | .shutdown => mapResult (fun _ => .done) (runOp Controller.shutdown w)
  | .addNode project engine name spec =>
    andThen (runOp (Controller.addNode project engine spec) w) (nameNode name)
  | .projectsRoot => (.ok (.path w.controller.projectsRoot), w)
  | .createProject id name =>
    andThen (runOp (Controller.createProject id name) w) (fun p w =>
      projectOutcome p { w with projects := w.projects.insert id p })
  | .openProject id => andThen (runOp (Controller.findProject id) w) projectOutcome
  | .projects =>
    (.ok (.projects (w.controller.openProjects.values.map w.controller.project)), w)
  | .deleteProject id => mapResult (fun _ => .done) (runOp (Controller.deleteProject id) w)
  | .closeAll => mapResult (fun _ => .done) (runOp Controller.closeAll w)
  | .onProject id step => w.onProject id step
  | .onNode name step => w.onNode name step
  | .onNodeBoth name a b => w.onNodeBoth name a b

/-- The world of a scenario with its engines registered. -/
def start (s : Settings) : Result Unit := (new s).applySettings s

/-- The name of the node that a step is about. -/
def nodeNamed : ScenarioStep → Option String
  | .addNode _ _ name _ | .onNode name _ | .onNodeBoth name _ _ => some name
  | .onProject _ (.addNode _ name _) | .onProject _ (.draft _ name _) => some name
  | _ => none

/-- What is told about a step: its outcome, the requests that the engines received, and the node
it is about. -/
structure Report where
  /-- The outcome. -/
  outcome : Except ScenarioFault Outcome
  /-- The requests, by the engines' names. -/
  calls : List (String × Request)
  /-- The node. -/
  node : Option Node

/-- Performs a step and tells about it. -/
def report (step : ScenarioStep) (w : Scenario) : Report × Scenario :=
  let (outcome, after) := w.perform step
  let node := do
    let h ← after.nodeNames.get? (← nodeNamed step)
    return after.controller.node h
  (⟨outcome, callsSince w after, node⟩, after)

end Scenario

end Testbed

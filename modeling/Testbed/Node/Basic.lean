import Testbed.ControlError
import Testbed.OsPath

/-!
# Nodes

A node is the local picture of an emulated device that lives on a compute engine. Its identity –
identifier, project, engine, type – never changes; its settings follow what callers ask for and
what the engine reports, key by key along the routes of `Testbed.Node.Route`; its bindings and its
status follow confirmed requests only.

This module holds the picture itself: how it is first drawn from a description, how a reported or
requested key changes it, and how it is written down.
-/

namespace Testbed

/-- Everything needed to draw up a node. Nothing of it is checked when the node is drawn up: a name
may be empty and a console may be zero, and only updates are stricter. -/
structure NodeSpec where
  /-- The identifier. -/
  id : Uuid
  /-- The emulator family. -/
  nodeType : NodeType
  /-- The name. -/
  name : String
  /-- The console port, unless the engine is to choose one. -/
  console : Option Nat := none
  /-- The console protocol. -/
  consoleType : ConsoleType := .telnet
  /-- The number of adapters. -/
  adapters : Nat := 0
  /-- Further properties. -/
  properties : Dict String Json := .empty

/-- **A node.** Five of its members never change, the identity and the directory for captures. The
settings are the name, the console with its protocol, the number of adapters and the properties. -/
structure Node where
  /-- The identifier. -/
  id : Uuid
  /-- The project it belongs to. -/
  project : Uuid
  /-- The engine it lives on. -/
  engine : String
  /-- The emulator family. -/
  nodeType : NodeType
  /-- The name. -/
  name : String
  /-- The console port, if one is allocated. -/
  console : Option Nat
  /-- The console protocol. -/
  consoleType : ConsoleType
  /-- The open properties. -/
  properties : Dict String Json
  /-- The number of adapters. -/
  adapters : Nat
  /-- The bindings, by adapter. -/
  nios : Dict Nat Nio
  /-- Where capture files go. -/
  captureDir : OsPath
  /-- The lifecycle status. -/
  status : NodeStatus
  deriving Inhabited

namespace Node

/-- Draws up a node that its engine does not know yet. Properties whose keys belong to the identity
or to a field of its own are left out: the description's own fields count. It has neither bindings
nor a place on its engine yet. -/
def draft (project : Uuid) (captureDir : OsPath) (engine : String) (spec : NodeSpec) : Node where
  id := spec.id
  project
  engine
  nodeType := spec.nodeType
  name := spec.name
  console := spec.console
  consoleType := spec.consoleType
  properties := spec.properties.filter (fun key _ => (route spec.nodeType key).isBag)
  adapters := spec.adapters
  nios := .empty
  captureDir
  status := .pending

/-! ## Paths -/

/-- The path under which the engine keeps the project's nodes of this type. Project and type are
part of it, so nodes with one identifier in two projects are told apart. -/
def collectionPath (n : Node) : String :=
  "/projects/" ++ n.project.text ++ "/" ++ n.nodeType.text ++ "/vms"

/-- The path of the node on its engine. It is made of the identity alone, and so it is the same for
the whole of the node's life. -/
def path (n : Node) : String := n.collectionPath ++ "/" ++ n.id.text

/-- A path below the node. A separator that the caller has put in front already is not doubled. -/
def subPath (n : Node) (sub : String) : String :=
  if FilePath.isAbsolute sub then n.path ++ sub else n.path ++ "/" ++ sub

/-- The path of something about an adapter. The index is written in decimals. -/
def adapterPath (n : Node) (index : Nat) (leaf : String) : String :=
  n.subPath ("adapters/" ++ toString index ++ "/" ++ leaf)

/-! ## Settings -/

/-- The indices at or above a count that are bound, ascending. They are the bindings that would lie
beyond the adapters if there were only so many. The order is that in which a resize unbinds them. -/
def boundFrom (n : Node) (count : Nat) : List Nat := n.nios.keys.filter (count ≤ ·)

/-- Takes over the value of one key, from a report or from a request that was accepted. Values that
a field cannot hold leave it alone, except that a console that is no port is none. A smaller number
of adapters is taken over only if no binding lies beyond it. The last point is what keeps bindings
within the adapters when an engine reports fewer of them than are bound. -/
def applyKey (n : Node) (key : String) (value : Json) : Node :=
  match route n.nodeType key with
  | .identity => n
  | .field .name =>
    match value.str? with
    | some name => { n with name }
    | none => n
  | .field .console => { n with console := value.nat32? }
  | .field .consoleType =>
    match ConsoleType.decode value with
    | .ok consoleType => { n with consoleType }
    | .error _ => n
  | .adapters =>
    match value.nat32? with
    | some count => if (n.boundFrom count).isEmpty then { n with adapters := count } else n
    | none => n
  | .rename | .property => { n with properties := n.properties.insert key value }

/-- Takes over keys one after another. A later one prevails where two of them set the same thing. -/
def applyKeys (n : Node) (entries : List (String × Json)) : Node :=
  entries.foldl (fun n e => n.applyKey e.1 e.2) n

/-- Takes over what an engine reports. The keys come in ascending order, and a report that is no
object says nothing. -/
def merge (n : Node) (report : Json) : Node :=
  match report.members? with
  | some members => n.applyKeys members.entries
  | none => n

/-- The current value of a field. It is in the form in which an update would ask for it, so the two
can be compared. -/
def fieldValue (n : Node) : NodeField → Json
  | .name => .str n.name
  | .console => .natOrNull n.console
  | .consoleType => .str n.consoleType.text

/-- Whether a value may be asked for in a field. The empty name is none, and a port is neither zero
nor beyond 16 bits; `null` unsets a console. What a report may bring is not restricted by this. -/
def fieldAccepts : NodeField → Json → Bool
  | .name, v => v.str?.any (· ≠ "")
  | .console, v => v.isNull || (v.natBelow? 65536).any (· > 0)
  | .consoleType, v => (ConsoleType.decode v).isOk

/-- What the engine is told when the node is created. Properties that are `null` are left out, and
where a property and a field of the node's own have one key, the field counts. A node without a
console port leaves the choice to the engine by not mentioning one. -/
def createBody (n : Node) : Dict String Json :=
  let own := Dict.ofList ([("vm_id", .str n.id.text), ("name", .str n.name),
      ("console_type", .str n.consoleType.text)]
    ++ (n.console.map (fun c => ("console", Json.nat c))).toList
    ++ (if n.adapters > 0 then [("adapters", .nat n.adapters)] else []))
  (n.properties.filter (fun _ v => !v.isNull)).overlay own

/-! ## Views -/

/-- The description of the node that is handed out. Bindings, adapters and the status are not part
of it. -/
def info (n : Node) : Json :=
  .mkObj [("compute_id", .str n.engine), ("project_id", .str n.project.text),
    ("vm_id", .str n.id.text), ("vm_type", .str n.nodeType.text), ("name", .str n.name),
    ("console", .natOrNull n.console), ("console_type", .str n.consoleType.text),
    ("properties", .ofDict n.properties)]

/-- The bindings, written, by the text of their adapters. The keys are texts because an object has
no others. -/
def niosJson (n : Node) : Json :=
  .mkObj (n.nios.entries.map (fun (index, nio) => (toString index, nio.toJson)))

end Node

/-- A binding as a node's summary shows it. The bindings of two kinds have nothing inside and are
shown by a word. -/
def Nio.summary : Nio → String
  | udp lport rhost rport =>
    "Udp \x7b lport: " ++ toString lport ++ ", rhost: " ++ Text.quote rhost ++ ", rport: "
      ++ toString rport ++ " \x7d"
  | tap device => "Tap \x7b tap_device: " ++ Text.quote device ++ " \x7d"
  | genericEthernet device =>
    "GenericEthernet \x7b ethernet_device: " ++ Text.quote device ++ " \x7d"
  | loopback => "Internal"
  | sink => "Null"

/-- The one-line summary of a node. It is meant for people, and nothing reads it. -/
def Node.summary (n : Node) : String :=
  "Node \x7b id: " ++ n.id.text ++ ", project_id: " ++ n.project.text ++ ", compute_id: "
    ++ Text.quote n.engine ++ ", node_type: " ++ n.nodeType.label ++ ", name: "
    ++ Text.quote n.name ++ ", status: " ++ n.status.label ++ ", adapters: "
    ++ toString n.adapters ++ ", nios: \x7b"
    ++ ", ".intercalate (n.nios.entries.map (fun (i, nio) => toString i ++ ": " ++ nio.summary))
    ++ "\x7d \x7d"

end Testbed

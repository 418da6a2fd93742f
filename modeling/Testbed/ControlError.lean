import Testbed.Json.Print
import Testbed.Nio
import Testbed.Node.Route
import Testbed.Node.Status
import Testbed.Registry.Error
import Testbed.Toml.Basic
import Testbed.Uuid

/-!
# Errors of the control plane

Every operation on projects, nodes and settings fails with a `ControlError`: one of eight kinds,
each with the cause that led to it. The kind decides what a boundary layer answers with
(`httpStatus`), how a program ends (`exitCode`) and whether trying again may help (`isTransient`);
the wording is the kind's lead and the cause's own text (`message`).

Engines' failures join the kinds through `ofEngine`: the statuses for malformed requests, unknown
things and conflicts become the kinds of the same meaning with the engine's text as their cause.

The kind is what callers act on, and the cause is for people. A cause never decides about a status
or an exit code, with the exception of an engine's own refusal, whose status is kept.
-/

namespace Testbed

/-- An operation on a node that needs the node to exist on its engine. There are ten. Creating and
deleting are not among them, which have conflicts of their own. -/
inductive NodeVerb where
  | update
  | start
  | stop
  | suspend
  | resume
  | reload
  | addNio
  | removeNio
  | startCapture
  | stopCapture
  deriving DecidableEq, Repr

/-- The words for an operation. For the actions of a lifecycle it is the last segment of a path as
well. -/
def NodeVerb.text : NodeVerb → String
  | update => "update"
  | start => "start"
  | stop => "stop"
  | suspend => "suspend"
  | resume => "resume"
  | reload => "reload"
  | addNio => "add a NIO to"
  | removeNio => "remove a NIO from"
  | startCapture => "capture on"
  | stopCapture => "stop capture on"

/-- What is malformed about a request. It is found out before any request is sent, except where an
engine reports it. -/
inductive Malformed where
  /-- A typed field was given an unusable value. -/
  | fieldValue (field : NodeField) (value : Json)
  /-- An adapter count is no unsigned integer. -/
  | adapterCount (value : Json)
  /-- The node has no adapter with this index. -/
  | noAdapter (index : Nat) (node : Uuid) (count : Nat)
  /-- The description of a binding is refused. -/
  | nio (cause : Nio.SpecError)
  /-- An engine, or another part, said so. -/
  | reported (text : String)

/-- The wording of a malformed request. A value that was given is shown in its compact written form.
-/
def Malformed.text : Malformed → String
  | fieldValue field value => "Invalid value for " ++ field.label ++ ": " ++ value.compact
  | adapterCount value =>
    "Adapter count must be a non-negative integer, got " ++ value.compact
  | noAdapter index node count =>
    "Adapter " ++ toString index ++ " doesn't exist on node " ++ node.text ++ " ("
      ++ toString count ++ " adapters)"
  | nio cause => cause.message
  | reported text => text

/-- What was not found. Where it was looked for in something, that is named as well. -/
inductive Missing where
  /-- The adapter has no binding. -/
  | nio (index : Nat) (node : Uuid)
  /-- The project has no such node. -/
  | node (node project : Uuid)
  /-- There is no such project. -/
  | project (project : Uuid)
  /-- There is no such engine. -/
  | engine (id : String)
  /-- An engine, or another part, said so. -/
  | reported (text : String)

/-- The wording of something missing. An engine goes by its identifier. -/
def Missing.text : Missing → String
  | .nio index n => "No NIO on adapter " ++ toString index ++ " of node " ++ n.text
  | .node n p => "Node " ++ n.text ++ " doesn't exist in project " ++ p.text
  | .project p => "Project " ++ p.text ++ " doesn't exist"
  | .engine id => "compute " ++ id
  | .reported text => text

/-- What a request clashes with. In all cases what was asked for would have been sound in some other
state. -/
inductive Clash where
  /-- The node is not in a state for the operation. -/
  | notCreated (verb : NodeVerb) (node : Uuid) (status : NodeStatus)
  /-- The node was created before. -/
  | alreadyCreated (node : Uuid) (status : NodeStatus)
  /-- The node was deleted before. -/
  | alreadyDeleted (node : Uuid)
  /-- The adapter has a binding. -/
  | adapterBound (index : Nat) (node : Uuid)
  /-- The project has such a node, or is about to. -/
  | nodeExists (node project : Uuid)
  /-- There is such a project. -/
  | projectExists (project : Uuid)
  /-- Another engine has the address. -/
  | addressTaken (owner address : String)
  /-- An engine, or another part, said so. -/
  | reported (text : String)

/-- The wording of a clash. Projects and nodes are named by their identifiers and not by their
names. -/
def Clash.text : Clash → String
  | notCreated verb node status =>
    "Cannot " ++ verb.text ++ " node " ++ node.text ++ ": node is " ++ status.text
  | alreadyCreated node status => "Node " ++ node.text ++ " is already " ++ status.text
  | alreadyDeleted node => "Node " ++ node.text ++ " is already deleted"
  | adapterBound index node =>
    "Adapter " ++ toString index ++ " of node " ++ node.text ++ " already has a NIO"
  | nodeExists node project =>
    "Node " ++ node.text ++ " already exists in project " ++ project.text
  | projectExists project => "Project " ++ project.text ++ " already exists"
  | addressTaken owner address => (RegistryError.addressTaken owner address).message
  | reported text => text

/-- What is wrong with the configuration. Only the first thing that is wrong is reported. -/
inductive Misconfigured where
  /-- A text, or the file it was read from, is not TOML. -/
  | toml (fault : Toml.Fault) (file : Option String)
  /-- There is no log level of that name. -/
  | logLevel (word : String)
  /-- An engine has no host. -/
  | missingHost (engine : String)
  /-- An engine's port is out of range. -/
  | port (engine : String) (value : Nat)
  /-- An engine's interface version is out of range. -/
  | apiVersion (engine : String) (value : Nat)
  /-- No client can be built for an engine. -/
  | endpoint (engine reason : String)
  /-- The log file cannot be opened. -/
  | logFile (path reason : String)
  /-- Logging was set up before. -/
  | loggingTwice
  /-- Another part said so. -/
  | reported (text : String)

/-- The wording of a fault in a text. One that has a place in the text is worded up to where the
diagnostic with that place would follow. What the diagnostic says is the reader's own and not told
here. -/
def Toml.Fault.text : Toml.Fault → String
  | malformed => ""
  | keyTooLong => "recursion limit\n"

/-- The wording of a misconfiguration. The file is named where there is one. -/
def Misconfigured.text : Misconfigured → String
  | toml fault none => fault.text
  | toml fault (some file) => file ++ ": " ++ fault.text
  | logLevel word => "unknown log level '" ++ word ++ "'"
  | missingHost engine => "compute " ++ engine ++ ": missing host"
  | port engine value => "compute " ++ engine ++ ": invalid port " ++ toString value
  | apiVersion engine value =>
    "compute " ++ engine ++ ": invalid api_version " ++ toString value
  | endpoint engine reason => (RegistryError.badEndpoint engine reason).message
  | logFile path reason => "cannot open log file " ++ path ++ ": " ++ reason
  | loggingTwice =>
    "logging already initialized: a global default trace dispatcher has already been set"
  | reported text => text

/-- **Why an operation of the control plane failed.** The eight kinds exclude each other, and each
cause belongs to one of them. -/
inductive ControlError where
  /-- The request is malformed. -/
  | validation (cause : Malformed)
  /-- Something it names does not exist. -/
  | notFound (cause : Missing)
  /-- It does not fit the current state. -/
  | conflict (cause : Clash)
  /-- The engine could not be reached or did not answer in time. -/
  | transport (text : String)
  /-- The engine answered with a failure. -/
  | refused (status : Nat) (text : String)
  /-- The node's engine is no longer registered. -/
  | unavailable (engine : String)
  /-- The configuration is wrong. -/
  | config (cause : Misconfigured)
  /-- A file could not be read. -/
  | io (text : String)

namespace ControlError

/-- The wording of an error. What follows the lead is the cause's own text, so an engine's words
come through unchanged. -/
def message : ControlError → String
  | validation cause => "Validation error: " ++ cause.text
  | notFound cause => "Not found: " ++ cause.text
  | conflict cause => "Conflict: " ++ cause.text
  | transport text => "RPC transport error: " ++ text
  | refused status text => "Compute returned " ++ toString status ++ ": " ++ text
  | unavailable engine => "Compute " ++ engine ++ " is no longer available"
  | config cause => "Configuration error: " ++ cause.text
  | io text => "I/O error: " ++ text

/-- The status with which a boundary layer answers. An engine's refusal is answered with the
engine's own status, whatever that is. -/
def httpStatus : ControlError → Nat
  | validation _ => 400
  | notFound _ => 404
  | conflict _ => 409
  | refused status _ => status
  | transport _ | unavailable _ => 502
  | config _ | io _ => 500

/-- The code with which a program ends: the control plane that cannot run at all is told apart.
There is no other code for a failure. Refusals, time-outs and conflicts all end in 1. -/
def exitCode : ControlError → Nat
  | config _ | io _ => 2
  | _ => 1

/-- Whether trying again may help. A request that was lost may get through the next time, and a
refusal with a status from 500 on may be a passing one. -/
def isTransient : ControlError → Bool
  | transport _ => true
  | refused status _ => 500 ≤ status
  | _ => false

/-- The error that an engine's failure is. A success that cannot be read is a refusal with the
status of a bad gateway. -/
def ofEngine : EngineError → ControlError
  | .refused 400 text => validation (.reported text)
  | .refused 404 text => notFound (.reported text)
  | .refused 409 text => conflict (.reported text)
  | .refused status text => refused status text
  | .transport text => transport text
  | .timeout after => transport ("timed out after " ++ after.text)
  | .unreadable text => refused 502 text

/-- The error that a registry's failure is. A record from which no client can be built counts as a
fault of the configuration, wherever it came from. -/
def ofRegistry : RegistryError → ControlError
  | .unknown id => notFound (.engine id)
  | .addressTaken owner address => conflict (.addressTaken owner address)
  | .badEndpoint id reason => config (.endpoint id reason)
  | .other text => transport (RegistryError.other text).message

end ControlError

end Testbed

import Testbed.Dict
import Testbed.Engine.Client
import Testbed.Registry.Error

/-!
# The engine registry

The registry knows the engines by their identifiers and keeps one client for each of them that is in
use. An engine is registered with a record, and possibly with a client that its caller supplied;
clients of all others are built from the record when they are first wanted.

This module holds the table and its changes. Each change is what one operation does at one moment;
`Testbed.Registry.Operations` puts them together.

An entry and a client in use are two things. The client is used by whoever asks for it, and the
entry has the status and, if one was supplied, the client's name; so a change of one of them alone
can make the two disagree. Which changes are made together is left to the operations.
-/

namespace Testbed

/-- The connection status of an engine. The words say what the status of an entry is meant to tell
of its client. Nothing in the type ensures it. -/
inductive EngineStatus where
  /-- It is registered and has no client yet. -/
  | registered
  /-- It has a client. -/
  | connected
  /-- Its client was dropped on purpose. -/
  | disconnected
  deriving DecidableEq, Repr, Inhabited

namespace EngineStatus

/-- The word for a status. It is in small letters. -/
def text : EngineStatus → String
  | registered => "registered"
  | connected => "connected"
  | disconnected => "disconnected"

/-- All statuses with their words. The three words differ. -/
def words : List (String × EngineStatus) :=
  [registered, connected, disconnected].map (fun s => (s.text, s))

end EngineStatus

/-- What the registry knows about an engine. A client that was supplied is remembered by its name,
so that it can be put in use again after it was dropped. -/
structure RegistryEntry where
  /-- The record. -/
  record : EngineRecord
  /-- The status. -/
  status : EngineStatus
  /-- The name of the client that came with the registration. -/
  supplied : Option String := none
  deriving DecidableEq, Inhabited

/-- **The registry of engines.** Between two steps of an operation entries and clients need not fit
together, and no well-formedness is part of the type. -/
structure Registry where
  /-- The engines by identifier. -/
  entries : Dict String RegistryEntry := .empty
  /-- The clients in use, by their engine's identifier. -/
  clients : Dict String Client := .empty
  /-- How long an answer is waited for, in milliseconds. -/
  timeoutMs : Nat
  /-- How many clients have been built. -/
  built : Nat := 0
  /-- Whether an operation holds the registry for itself. -/
  held : Bool := false
  deriving Inhabited

namespace Registry

/-- The largest time-out, in milliseconds. Longer ones are cut, since the time-out is kept as a
number of 64 bits. -/
def largestTimeout : Nat := UInt64.size - 1

/-- The milliseconds of a time-out. Two time-outs that agree in this number are the same to the
registry. -/
def millisOf (timeout : Duration) : Nat := min timeout.millis largestTimeout

/-- The registry without engines. It counts its clients from zero. -/
def new (timeout : Duration) : Registry := { timeoutMs := millisOf timeout }

/-- How long an answer is waited for. It may be shorter than the one that was asked for, by less
than a millisecond or where that was too long. -/
def timeout (r : Registry) : Duration := .ofMillis r.timeoutMs

/-- The entry of an engine. Whether there is one is what being registered means. -/
def entry? (r : Registry) (id : String) : Option RegistryEntry := r.entries.get? id

/-- The record of an engine. It is the one of the last registration. -/
def record? (r : Registry) (id : String) : Option EngineRecord := (r.entry? id).map (·.record)

/-- The status of an engine. It is read from the entry alone, whatever client there is. -/
def status? (r : Registry) (id : String) : Option EngineStatus := (r.entry? id).map (·.status)

/-- The records, by identifier. They are handed out in the order of the identifiers. -/
def records (r : Registry) : List EngineRecord := r.entries.values.map (·.record)

/-- Whether an engine has a client. It is asked of the clients alone, whatever the status says. -/
def isConnected (r : Registry) (id : String) : Bool := r.clients.contains id

/-- Another engine than the record's that has the record's address. An engine may be registered
again at its own address. -/
def addressOwner? (r : Registry) (record : EngineRecord) : Option String :=
  (r.entries.values.find? (fun e => e.record.id ≠ record.id ∧ e.record.address = record.address)).map
    (·.record.id)

/-- Registers a record. A client that was built for another record is dropped. The status begins
anew and a supplied client's name is gone from the entry in any case, while the client itself is
dropped only if the record differs. -/
def putRecord (r : Registry) (record : EngineRecord) : Registry :=
  { r with
    entries := r.entries.insert record.id ⟨record, .registered, none⟩
    clients :=
      if (r.record? record.id).any (· ≠ record) then r.clients.erase record.id else r.clients }

/-- Registers a record that comes with a client. The client is put in use by a change of its own. -/
def putSupplied (r : Registry) (record : EngineRecord) (name : String) : Registry :=
  { r with entries := r.entries.insert record.id ⟨record, .connected, some name⟩ }

/-- Puts a client in use. The one that was in use is replaced. -/
def putClient (r : Registry) (id : String) (client : Client) : Registry :=
  { r with clients := r.clients.insert id client }

/-- Forgets an engine. The client is dropped by a change of its own. -/
def dropEntry (r : Registry) (id : String) : Registry := { r with entries := r.entries.erase id }

/-- Drops the client of an engine. The entry keeps its status. -/
def dropClient (r : Registry) (id : String) : Registry := { r with clients := r.clients.erase id }

/-- Marks an engine with a status. An engine without an entry is not entered by it. -/
def mark (r : Registry) (id : String) (status : EngineStatus) : Registry :=
  match r.entry? id with
  | some e => { r with entries := r.entries.insert id { e with status } }
  | none => r

/-- Drops the client of an engine and says so in its status. An engine without an entry may have its
client dropped all the same. -/
def disconnectOne (r : Registry) (id : String) : Registry := (r.dropClient id).mark id .disconnected

/-- Drops every client. Supplied clients are among them, and entries without a client are marked as
well. -/
def disconnectEvery (r : Registry) : Registry :=
  { r with
    clients := .empty
    entries := r.entries.mapValues (fun _ e => { e with status := .disconnected }) }

/-- Whether an engine's client was built and not supplied. It goes by the entry. A client without
one counts as neither. -/
def usesBuilt (r : Registry) (id : String) : Bool :=
  match r.entry? id with
  | some e => e.supplied.isNone
  | none => false

/-- Drops every client that was built, so that the next one has the current time-out. Supplied
clients do not depend on the time-out and stay in use. -/
def dropBuilt (r : Registry) : Registry :=
  { r with
    entries := r.entries.mapValues (fun id e =>
      if e.supplied.isNone ∧ r.clients.contains id then { e with status := .registered } else e)
    clients := r.clients.filter (fun id _ => !r.usesBuilt id) }

/-- The client of an engine: the one in use, the supplied one, or a new one. The one in use is given
whatever the status is. A new one is built with the present time-out and gets the next serial
number, which no other client has; a fault of the record leaves the registry as it is. -/
def connect (r : Registry) (id : String) : Except RegistryError Client × Registry :=
  match r.entry? id with
  | none => (.error (.unknown id), r)
  | some e =>
    match r.clients.get? id with
    | some client => (.ok client, r)
    | none =>
      match e.supplied with
      | some name =>
        let client := Client.supplied name
        (.ok client, (r.putClient id client).mark id .connected)
      | none =>
        match Endpoint.ofRecord e.record r.timeout with
        | .error fault => (.error (.badEndpoint e.record.id fault.message), r)
        | .ok endpoint =>
          let client := Client.built r.built endpoint
          (.ok client, ({ r with built := r.built + 1 }.putClient id client).mark id .connected)

end Registry

end Testbed

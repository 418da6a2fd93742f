import Testbed.Duration
import Testbed.Engine.Error
import Testbed.Engine.Record
import Testbed.Engine.Request

/-!
# Clients

The way to an engine that a node is handed: a client that a caller supplied, known by its name, or
one that was built from a record. Built clients carry a serial number, so that two of them are the
same only if they come from one construction.

A client is a value here and does nothing. What becomes of a request is decided by whoever answers
the call, and a client tells it which engine is meant and how long an answer may take. So two
clients can be compared, and it can be said of a registry that it gives out the same one twice.
-/

namespace Testbed

/-- Where and how a built client sends its requests. All of it is fixed when the client is built. A
change of the record or of the time-out afterwards does not reach a client that is already there. -/
structure Endpoint where
  /-- The engine's identifier. -/
  id : String
  /-- The base address. -/
  baseUrl : String
  /-- User and password, if the engine asks for them. -/
  credentials : Option (String × String)
  /-- How long an answer is waited for. -/
  timeout : Duration
  deriving DecidableEq, Inhabited

namespace Endpoint

/-- Why no client can be built from a record. These are the only two tests; a port, a version or a
host that leads nowhere is noticed when the first request fails. -/
inductive Fault where
  /-- The protocol is neither `http` nor `https`. -/
  | unsupportedProtocol (protocol : String)
  /-- The host is empty. -/
  | emptyHost
  deriving DecidableEq

/-- The wording of a fault. The protocol is quoted as it was written. -/
def Fault.message : Fault → String
  | unsupportedProtocol protocol => "unsupported protocol '" ++ protocol ++ "'"
  | emptyHost => "empty host"

/-- The endpoint of a record. A user without a password has an empty one. The protocol is tested
before the host, so a record with both faults is refused for its protocol. A password without a user
is dropped. -/
def ofRecord (r : EngineRecord) (timeout : Duration) : Except Fault Endpoint :=
  if r.protocol ≠ "http" ∧ r.protocol ≠ "https" then .error (.unsupportedProtocol r.protocol)
  else if r.host = "" then .error .emptyHost
  else .ok {
    id := r.id
    baseUrl := r.baseUrl
    credentials := r.user.map (fun user => (user, r.password.getD ""))
    timeout }

/-- The full address of a path: exactly one separator is put in front of a path without one. Nothing
else is done to either part: what stands in the path is not encoded here. -/
def url (e : Endpoint) (path : String) : String :=
  if path.toList.head? = some '/' then e.baseUrl ++ path else e.baseUrl ++ "/" ++ path

end Endpoint

/-- A way to an engine. Equality of clients is what “the same client” means. Two supplied ones are
the same if they go by one name, two built ones only if they have one serial number. -/
inductive Client where
  /-- A client that a caller supplied under a name. -/
  | supplied (name : String)
  /-- A client built from a record. -/
  | built (serial : Nat) (endpoint : Endpoint)
  deriving DecidableEq, Inhabited

/-- A request on its way through a client. It does not say which node or which operation has caused
it. -/
structure Call where
  /-- The client. -/
  client : Client
  /-- The request. -/
  request : Request
  deriving DecidableEq

end Testbed

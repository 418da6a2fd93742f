import Testbed.Json.Decode

/-!
# Small vocabularies of nodes

The lifecycle status of a node, the protocol of its console, and the words for both.

A status changes after a request that the engine has confirmed, and no report changes it. The one
exception is a node that its engine has never heard of, which is deleted without a request. The
words are for written forms and the names for messages.
-/

namespace Testbed

/-- Lifecycle state, as last confirmed by the engine. -/
inductive NodeStatus where
  /-- Known here and not yet confirmed. -/
  | pending
  | created
  | started
  | stopped
  | suspended
  | deleted
  deriving DecidableEq, Repr, Inhabited

namespace NodeStatus

/-- The word for a status. It is in small letters, as in written forms. -/
def text : NodeStatus → String
  | pending => "pending"
  | created => "created"
  | started => "started"
  | stopped => "stopped"
  | suspended => "suspended"
  | deleted => "deleted"

/-- Whether the node exists on its engine. Calls that need the node on its engine are refused where
it does not, without a request. -/
def isCreated : NodeStatus → Bool
  | created | started | stopped | suspended => true
  | pending | deleted => false

/-- All statuses with their words. Reading goes by this list, so writing and reading cannot drift
apart. -/
def words : List (String × NodeStatus) :=
  [pending, created, started, stopped, suspended, deleted].map (fun s => (s.text, s))

/-- The name of a status, which begins with a capital letter and stands in the summary of a node. -/
def label : NodeStatus → String
  | pending => "Pending"
  | created => "Created"
  | started => "Started"
  | stopped => "Stopped"
  | suspended => "Suspended"
  | deleted => "Deleted"

end NodeStatus

/-- The protocol of a node's console. A node without a console has the protocol `none`, which is not
the same as having no protocol. -/
inductive ConsoleType where
  | telnet
  | vnc
  | spice
  | none
  deriving DecidableEq, Repr, Inhabited

namespace ConsoleType

/-- The word for a console protocol. The words are those that engines use. -/
def text : ConsoleType → String
  | telnet => "telnet"
  | vnc => "vnc"
  | spice => "spice"
  | none => "none"

/-- All console protocols with their words. As with statuses, the list serves for reading. -/
def words : List (String × ConsoleType) :=
  [telnet, vnc, spice, none].map (fun c => (c.text, c))

/-- Reads a console protocol. It may stand as a word, or as an object with the word as its one key
and `null` under it; both give the same protocol. -/
def decode (v : Json) : Except DecodeError ConsoleType := v.decodeVariant words

end ConsoleType

end Testbed

import Testbed.Json.Decode

/-!
# Routes of settings keys

A node's settings arrive as an object, from an engine or from a caller. Where each key goes is fixed
by a table: some keys name the node and never change, some are typed fields, two have engine calls
of their own, and all others are properties. On the hypervisor types the machine's name is changed
by a call of its own.

The table is the same for reports and for updates, so a key cannot come in by one way and be kept in
another place by the other. A key that is not in it is a property, whatever its name; this is how
settings of a type that nothing is known of are kept.
-/

namespace Testbed

/-- The emulator family of a node. Seven of them have rules of their own for tunnels, adapters and
the renaming of the machine. Any other word is a type too and is kept as it was written. -/
inductive NodeType where
  | vpcs
  | virtualBox
  | vmware
  | qemu
  | dynamips
  | iou
  | docker
  /-- A type without rules of its own. -/
  | other (name : String)
  deriving DecidableEq, Inhabited

namespace NodeType

/-- The word for a type, which is also its segment in engine paths. For a type without rules it is
the word that was given, so no type is lost by writing it. -/
def text : NodeType → String
  | vpcs => "vpcs"
  | virtualBox => "virtualbox"
  | vmware => "vmware"
  | qemu => "qemu"
  | dynamips => "dynamips"
  | iou => "iou"
  | docker => "docker"
  | other name => name

/-- The types with rules of their own, with their words. A word has to be met exactly; a capital
letter makes it another type. -/
def known : List (String × NodeType) :=
  [vpcs, virtualBox, vmware, qemu, dynamips, iou, docker].map (fun t => (t.text, t))

/-- The type with a word. Every word is the word of a type, and reading undoes writing except for an
`other` that bears a known word. -/
def ofText (s : String) : NodeType :=
  match known.find? (·.1 == s) with
  | some (_, t) => t
  | none => other s

/-- Whether the type is one of those with rules. A type that bears a known word as `other` is not
one of them. -/
def isKnown : NodeType → Bool
  | other _ => false
  | _ => true

/-- Whether renaming the machine is a call of its own. They are the two hypervisors that keep a name
of their own for each machine. -/
def hasRename : NodeType → Bool
  | virtualBox | vmware => true
  | _ => false

/-- The name of a type. It stands in the summary of a node, with the word of a type without rules in
quotes. -/
def label : NodeType → String
  | vpcs => "Vpcs"
  | virtualBox => "VirtualBox"
  | vmware => "Vmware"
  | qemu => "Qemu"
  | dynamips => "Dynamips"
  | iou => "Iou"
  | docker => "Docker"
  | other name => "Other(" ++ Text.quote name ++ ")"

/-- Reads a type. Any text will do, and nothing else will. -/
def decode (v : Json) : Except DecodeError NodeType := ofText <$> v.decodeText

end NodeType

/-- A typed field of a node. These three are members of a node of their own, and not among its
properties. -/
inductive NodeField where
  | name
  | console
  | consoleType
  deriving DecidableEq, Repr

/-- The name of a field. It stands in the message about a value that the field cannot take. -/
def NodeField.label : NodeField → String
  | name => "Name"
  | console => "Console"
  | consoleType => "ConsoleType"

/-- Where a settings key goes. There is exactly one for each key. The two calls of their own are
kept apart because they are made at different times of an update. -/
inductive KeyRoute where
  /-- It names the node and is ignored. -/
  | identity
  /-- It is a typed field, sent with the generic update. -/
  | field (f : NodeField)
  /-- It is sent with the rename call. -/
  | rename
  /-- It is sent with the resize call. -/
  | adapters
  /-- It is a property, sent with the generic update. -/
  | property
  deriving DecidableEq, Repr

namespace KeyRoute

/-- The word for a route. A typed field goes by the name of its key. -/
def text : KeyRoute → String
  | identity => "identity"
  | field .name => "name"
  | field .console => "console"
  | field .consoleType => "console_type"
  | rename => "rename"
  | adapters => "adapters"
  | property => "property"

/-- The keys that are routed alike for all types. Seven of them are never taken over: what names a
node, under either of its names, and its status. -/
def common : List (String × KeyRoute) := [
  ("vm_id", identity), ("node_id", identity), ("project_id", identity), ("vm_type", identity),
  ("node_type", identity), ("compute_id", identity), ("status", identity),
  ("name", field .name), ("console", field .console), ("console_type", field .consoleType),
  ("adapters", adapters)]

/-- Whether a key with this route may be kept among the properties. A machine's name is a property
like any other, which only happens to be sent by a call of its own; the number of adapters is not.
-/
def isBag : KeyRoute → Bool
  | rename | property => true
  | _ => false

end KeyRoute

/-- **The route of a key.** The machine's name is looked at first, since it is a call of its own on
two types and an ordinary property on all others. Everything else goes by the table. -/
def route (t : NodeType) (key : String) : KeyRoute :=
  if t.hasRename ∧ key = "vmname" then .rename
  else
    match KeyRoute.common.find? (·.1 == key) with
    | some (_, r) => r
    | none => .property

end Testbed

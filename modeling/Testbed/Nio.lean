import Testbed.Json.Decode
import Testbed.Text.Blank

/-!
# NIO bindings

What an adapter of a node can be connected to. A binding is written as an object whose `type` names
its kind, with the fields of that kind beside it. `Nio.decode` reads that form with the types of the
fields alone in mind; `Nio.ofSpec` is what callers' descriptions go through, and also insists on
usable ports and names.

The two readers do not differ in what they take to be the form of a binding: what `ofSpec` accepts
is what `decode` reads and what is usable besides. The written form of a binding is read back as
that binding.
-/

namespace Testbed

/-- **A network endpoint bound to an adapter.** Nothing is said of whether its ports and names are
usable; `Nio.fault?` says that. -/
inductive Nio where
  /-- A UDP tunnel to another endpoint. -/
  | udp (lport : Nat) (rhost : String) (rport : Nat)
  /-- A TAP device. -/
  | tap (device : String)
  /-- An Ethernet device. -/
  | genericEthernet (device : String)
  /-- A loopback inside the engine. -/
  | loopback
  /-- A sink that drops everything. -/
  | sink
  deriving DecidableEq

namespace Nio

/-- The kinds of bindings. Bindings of one kind have the same fields. -/
inductive Kind where
  | udp | tap | genericEthernet | loopback | sink
  deriving DecidableEq

/-- The word for a kind. It stands under `type` in the written form. -/
def Kind.tag : Kind → String
  | .udp => "nio_udp"
  | .tap => "nio_tap"
  | .genericEthernet => "nio_generic_ethernet"
  | .loopback => "nio_internal"
  | .sink => "nio_null"

/-- All kinds. Adding a kind means adding it here, or its word would not be read. -/
def Kind.all : List Kind := [.udp, .tap, .genericEthernet, .loopback, .sink]

/-- The kinds with their words. The words differ, so a word stands for one kind at most. -/
def Kind.tags : List (String × Kind) := Kind.all.map (fun k => (k.tag, k))

/-- The kind of a binding. -/
def kind : Nio → Kind
  | udp .. => .udp
  | tap _ => .tap
  | genericEthernet _ => .genericEthernet
  | loopback => .loopback
  | sink => .sink

/-- The written form of a binding. It has the word for the kind, and the fields of the kind and no
others. -/
def toJson (n : Nio) : Json :=
  match n with
  | udp lport rhost rport =>
    .mkObj [("type", .str n.kind.tag), ("lport", .nat lport), ("rhost", .str rhost),
      ("rport", .nat rport)]
  | tap device => .mkObj [("type", .str n.kind.tag), ("tap_device", .str device)]
  | genericEthernet device =>
    .mkObj [("type", .str n.kind.tag), ("ethernet_device", .str device)]
  | loopback | sink => .mkObj [("type", .str n.kind.tag)]

/-- The fields of a binding that have been read. All kinds share this record, and each looks at its
own fields only. -/
structure Fields where
  lport : Option Nat := none
  rhost : Option String := none
  rport : Option Nat := none
  tapDevice : Option String := none
  ethernetDevice : Option String := none

/-- Reads one member; members that are no field of the kind are ignored. Members of another kind's
binding are ignored as well, whatever they hold. -/
def readField (k : Kind) (f : Fields) (key : String) (v : Json) : Except DecodeError Fields :=
  match k, key with
  | .udp, "lport" => return { f with lport := ← v.decodeUnsigned 16 }
  | .udp, "rhost" => return { f with rhost := ← v.decodeText }
  | .udp, "rport" => return { f with rport := ← v.decodeUnsigned 16 }
  | .tap, "tap_device" => return { f with tapDevice := ← v.decodeText }
  | .genericEthernet, "ethernet_device" => return { f with ethernetDevice := ← v.decodeText }
  | _, _ => return f

/-- The binding of a kind with the fields that were read. The fields are asked for in the order in
which the kind declares them, so the first that is missing is complained of. -/
def assemble (k : Kind) (f : Fields) : Except DecodeError Nio :=
  match k with
  | .udp => do
    let lport ← Json.requireField "lport" f.lport
    let rhost ← Json.requireField "rhost" f.rhost
    let rport ← Json.requireField "rport" f.rport
    return udp lport rhost rport
  | .tap => tap <$> Json.requireField "tap_device" f.tapDevice
  | .genericEthernet => genericEthernet <$> Json.requireField "ethernet_device" f.ethernetDevice
  | .loopback => return loopback
  | .sink => return sink

/-- Reads the members of an object beside its `type`. They are read in the order in which they
stand, and the first that is spoilt decides the error. -/
def ofMembers (k : Kind) (members : List (String × Json)) : Except DecodeError Nio := do
  assemble k (← members.foldlM (fun f (key, v) => readField k f key v) {})

/-- The error of a list of fields that is too short. It says how many fields there should have been,
in the singular where it is one. -/
def tooShort (found : Nat) (name : String) (fields : Nat) : DecodeError :=
  .invalidLength found ("struct variant " ++ name ++ " with " ++ toString fields
    ++ (if fields = 1 then " element" else " elements"))

/-- The error of a list of fields that is too long. It gives the number of fields that were there,
the `type` not counted. -/
def tooLong (found fields : Nat) : DecodeError :=
  .invalidLength found (toString fields ++ (if fields = 1 then " element" else " elements")
    ++ " in sequence")

/-- Reads the fields of a kind from a list. A list that is too short is refused only after what is
there has been read, so a value of a wrong type is complained of before the length. -/
def ofItems (k : Kind) (items : List Json) : Except DecodeError Nio :=
  match k, items with
  | .udp, [] => .error (tooShort 0 "Nio::Udp" 3)
  | .udp, [a] => do
    let _ ← a.decodeUnsigned 16
    throw (tooShort 1 "Nio::Udp" 3)
  | .udp, [a, b] => do
    let _ ← a.decodeUnsigned 16
    let _ ← b.decodeText
    throw (tooShort 2 "Nio::Udp" 3)
  | .udp, a :: b :: c :: rest => do
    let nio := udp (← a.decodeUnsigned 16) (← b.decodeText) (← c.decodeUnsigned 16)
    if rest.isEmpty then return nio else throw (tooLong (3 + rest.length) 3)
  | .tap, [] => .error (tooShort 0 "Nio::Tap" 1)
  | .tap, a :: rest => do
    let nio := tap (← a.decodeText)
    if rest.isEmpty then return nio else throw (tooLong (1 + rest.length) 1)
  | .genericEthernet, [] => .error (tooShort 0 "Nio::GenericEthernet" 1)
  | .genericEthernet, a :: rest => do
    let nio := genericEthernet (← a.decodeText)
    if rest.isEmpty then return nio else throw (tooLong (1 + rest.length) 1)
  | .loopback, items =>
    if items.isEmpty then return loopback else throw (tooLong items.length 0)
  | .sink, items => if items.isEmpty then return sink else throw (tooLong items.length 0)

/-- Reads the word for a kind. Only a text can be such a word. -/
def decodeKind (v : Json) : Except DecodeError Kind :=
  match v with
  | .str name => Json.variantNamed Kind.tags name
  | v => .error (.invalidType v "variant identifier")

/-- Reads a binding: an object with a `type`, or a list that starts with it. Either form gives the
same bindings, but only the first can be a caller's description, since `ofSpec` looks for a member.
-/
def decode (v : Json) : Except DecodeError Nio :=
  match v with
  | .obj members => do
    let kind ← decodeKind (← Json.requireField "type" (Dict.getEntry "type" members))
    ofMembers kind (members.filter (·.1 != "type"))
  | .arr [] => .error (.missingField "type")
  | .arr (tag :: items) => do ofItems (← decodeKind tag) items
  | v => .error (.invalidType v "internally tagged enum Nio")

/-- Why a description of a binding is refused. Each is an error of validation, and none of them
involves an engine. -/
inductive SpecError where
  /-- There is no textual `type`. -/
  | typeMissing
  /-- The `type` names no kind. -/
  | unsupported (tag : String)
  /-- A field is missing or of the wrong type. -/
  | malformed (kind : Kind) (cause : DecodeError)
  /-- A port is zero. -/
  | zeroPort
  /-- The remote host is blank. -/
  | blankHost
  /-- The TAP device name is blank. -/
  | blankTap
  /-- The Ethernet device name is blank. -/
  | blankEthernet
  deriving DecidableEq

/-- The wording of a refusal. A field that cannot be read is explained by the error of the reader,
after the word for the kind. -/
def SpecError.message : SpecError → String
  | typeMissing => "NIO type is missing"
  | unsupported tag => "NIO of type " ++ tag ++ " is not supported"
  | malformed kind cause => "Invalid " ++ kind.tag ++ ": " ++ cause.message
  | zeroPort => "UDP ports must be between 1 and 65535"
  | blankHost => "UDP remote host cannot be empty"
  | blankTap => "TAP device name cannot be empty"
  | blankEthernet => "Ethernet device name cannot be empty"

/-- What makes a decoded binding unusable, if anything does. Of two faults the ports come before the
host. -/
def fault? : Nio → Option SpecError
  | udp lport rhost rport =>
    if lport = 0 ∨ rport = 0 then some .zeroPort
    else if Text.allBlank rhost then some .blankHost
    else none
  | tap device => if Text.allBlank device then some .blankTap else none
  | genericEthernet device => if Text.allBlank device then some .blankEthernet else none
  | loopback | sink => none

/-- **Reads a caller's description of a binding.** The kind is looked up before anything else is
read, so an unknown word is complained of whatever stands beside it. What is read is then tested by
`fault?`, and nothing is repaired. -/
def ofSpec (spec : Json) : Except SpecError Nio :=
  match spec.get? "type" with
  | some (.str tag) =>
    match Kind.tags.find? (·.1 == tag) with
    | none => .error (.unsupported tag)
    | some (_, kind) =>
      match decode spec with
      | .error cause => .error (.malformed kind cause)
      | .ok nio =>
        match nio.fault? with
        | some fault => .error fault
        | none => .ok nio
  | _ => .error .typeMissing

end Nio

end Testbed

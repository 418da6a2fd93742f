import Testbed.Json.Decode

/-!
# Engine records

How a compute engine is registered: under which identifier, where it is reached and with which
credentials. An engine is unique by its address; the base address, to which request paths are
appended, adds the version of the engine's interface.

The reader is a record's in the sense of `Testbed.Json.Decode`, with eight fields of which three may
be absent inside. The written form leaves out the password, so a record that is written and read
again has none.
-/

namespace Testbed

/-- **The registration record of an engine.** Protocol, host and port make its address, and two
engines of one controller may not share it. Nothing is checked here: a record with a protocol that
nobody speaks is a record, and fails when a client is to be built from it. -/
structure EngineRecord where
  /-- The identifier. -/
  id : String
  /-- The protocol, `http` or `https` if the engine is to be usable. -/
  protocol : String
  /-- The host. -/
  host : String
  /-- The port. -/
  port : Nat
  /-- The version of the engine's interface. -/
  apiVersion : Nat := 2
  /-- The user, if the engine asks for one. -/
  user : Option String := none
  /-- The user's password. -/
  password : Option String := none
  /-- A name to show. -/
  name : Option String := none
  deriving DecidableEq, Inhabited

namespace EngineRecord

/-- The port an engine listens on unless it is told otherwise. It is used where settings say nothing
of a port. -/
def defaultPort : Nat := 3080

/-- The address that makes an engine unique. The version is not part of it, so two versions of one
engine's interface are not two engines. -/
def address (r : EngineRecord) : String :=
  r.protocol ++ "://" ++ r.host ++ ":" ++ toString r.port

/-- The address to which request paths are appended. It ends without a separator. -/
def baseUrl (r : EngineRecord) : String := r.address ++ "/v" ++ toString r.apiVersion

/-- The written form, which leaves the password out. The user and the name are written as `null`
when they are absent, so that all members are always there. -/
def toJson (r : EngineRecord) : Json :=
  .mkObj [("id", .str r.id), ("protocol", .str r.protocol), ("host", .str r.host),
    ("port", .nat r.port), ("api_version", .nat r.apiVersion), ("user", .strOrNull r.user),
    ("name", .strOrNull r.name)]

/-- The fields that have been read. An optional field that was read may be absent inside. -/
structure Fields where
  id : Option String := none
  protocol : Option String := none
  host : Option String := none
  port : Option Nat := none
  apiVersion : Option Nat := none
  user : Option String := none
  password : Option String := none
  name : Option String := none

/-- The names of the fields, in the order of a list of them. The order matters for lists alone,
since the members of an object go by name. -/
def fieldNames : List String :=
  ["id", "protocol", "host", "port", "api_version", "user", "password", "name"]

/-- Reads one field; other names are ignored. Numbers are read with their widths, 16 bits for the
port and 32 for the version, and what does not fit is an error. -/
def readField (f : Fields) (key : String) (v : Json) : Except DecodeError Fields :=
  match key with
  | "id" => return { f with id := ← v.decodeText }
  | "protocol" => return { f with protocol := ← v.decodeText }
  | "host" => return { f with host := ← v.decodeText }
  | "port" => return { f with port := ← v.decodeUnsigned 16 }
  | "api_version" => return { f with apiVersion := ← v.decodeUnsigned 32 }
  | "user" => return { f with user := ← v.decodeOptional Json.decodeText }
  | "password" => return { f with password := ← v.decodeOptional Json.decodeText }
  | "name" => return { f with name := ← v.decodeOptional Json.decodeText }
  | _ => return f

/-- The record with the fields that were read. Of the fields that must be there the first one that
is absent is complained of. The three others may be missing as well as `null`. -/
def assemble (f : Fields) : Except DecodeError EngineRecord := do
  return {
    id := ← Json.requireField "id" f.id
    protocol := ← Json.requireField "protocol" f.protocol
    host := ← Json.requireField "host" f.host
    port := ← Json.requireField "port" f.port
    apiVersion := ← Json.requireField "api_version" f.apiVersion
    user := f.user
    password := f.password
    name := f.name }

/-- Reads some named fields. They are read in the order in which they stand, so the first one that
is spoilt decides the error. -/
def readFields (fields : List (String × Json)) : Except DecodeError Fields :=
  fields.foldlM (fun f (key, v) => readField f key v) {}

/-- Reads a record: an object, or a list of all fields in order. A list that is too short is
complained of only after the fields that it has have been read. -/
def decode (v : Json) : Except DecodeError EngineRecord :=
  match v with
  | .obj members => do assemble (← readFields members)
  | .arr items => do
    let f ← readFields (fieldNames.zip items)
    if items.length < fieldNames.length then
      throw (.invalidLength items.length "struct ComputeRecord with 8 elements")
    else if fieldNames.length < items.length then
      throw (.invalidLength items.length "fewer elements in array")
    else assemble f
  | v => .error (.invalidType v "struct ComputeRecord")

end EngineRecord

end Testbed

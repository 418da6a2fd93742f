import Testbed.Duration
import Testbed.Json.Decode
import Testbed.Json.Literal
import Testbed.Json.Read

/-!
# Failures of an engine

The four ways in which a request can fail: the engine answers with a failure, no answer arrives,
none arrives in time, or a success cannot be read. Engines describe a failure in a body of a status
and a message, which `ErrorBody` reads.

A description is read in two ways. `decode` reads a value that was read before. `ofText?` reads the
text of an answer at one go, where a field that stands twice can still be noticed.
-/

namespace Testbed

/-- Why a request to an engine failed. The four cases are kept apart because they call for different
things: a refusal is the engine's word and final, while a request that was lost or late may have
been carried out. -/
inductive EngineError where
  /-- The engine answered with a failure. -/
  | refused (status : Nat) (message : String)
  /-- No answer arrived. -/
  | transport (message : String)
  /-- No answer arrived in time. -/
  | timeout (after : Duration)
  /-- The engine reported success in a body that cannot be read. -/
  | unreadable (message : String)
  deriving DecidableEq

namespace EngineError

/-- The wording of a failure. It is what a caller finally reads, since a failure of an engine is
passed on unchanged. -/
def message : EngineError → String
  | refused status text => "Compute error " ++ toString status ++ ": " ++ text
  | transport text => "Transport error: " ++ text
  | timeout after => "Request timed out after " ++ after.text
  | unreadable text => "Invalid response from compute: " ++ text

/-- Whether the request failed below the level of answers, so that it may be worth repeating. A
refusal and a success that cannot be read are answers, and asking again would bring the same one. -/
def isTransport : EngineError → Bool
  | transport _ | timeout _ => true
  | _ => false

/-- The status an engine answered with. It is the status of the engine's own description where there
is one, and no status where nothing was answered. -/
def status? : EngineError → Option Nat
  | refused status _ => some status
  | _ => none

end EngineError

/-- What an engine gives back for a request. A success without content is the value `null`, so every
success has a value. -/
abbrev Answer := Except EngineError Json

/-- An engine's own description of a failure. The status is a number of 16 bits, like that of an
answer, but it need not be the one that the answer had. -/
structure ErrorBody where
  /-- The status. -/
  status : Nat
  /-- The message. -/
  message : String
  deriving DecidableEq, Repr

namespace ErrorBody

/-- The written form of a description. It is an object of the two members in this order. -/
def toJson (b : ErrorBody) : Json :=
  .mkObj [("status", .nat b.status), ("message", .str b.message)]

/-- The fields that have been read. A field is absent until a member with its name has been read. -/
structure Fields where
  status : Option Nat := none
  message : Option String := none

/-- The description with the fields that were read. The status is asked for first, so a body with
neither field is refused for its status. -/
def assemble (f : Fields) : Except DecodeError ErrorBody := do
  let status ← Json.requireField "status" f.status
  let message ← Json.requireField "message" f.message
  return ⟨status, message⟩

/-- Reads one member; members that are no field are ignored. A later member with the same name
replaces an earlier one, which is as it should be for values: their members are told apart by name
already. -/
def readField (f : Fields) (key : String) (v : Json) : Except DecodeError Fields :=
  match key with
  | "status" => return { f with status := ← v.decodeUnsigned 16 }
  | "message" => return { f with message := ← v.decodeText }
  | _ => return f

/-- Reads a description: an object, or a list of the two fields. A list has to hold the two fields
in order and nothing else. -/
def decode (v : Json) : Except DecodeError ErrorBody :=
  match v with
  | .obj members => do
    assemble (← members.foldlM (fun f (key, v) => readField f key v) {})
  | .arr [] => .error (.invalidLength 0 "struct ErrorBody with 2 elements")
  | .arr [a] => do
    let _ ← a.decodeUnsigned 16
    throw (.invalidLength 1 "struct ErrorBody with 2 elements")
  | .arr (a :: b :: rest) => do
    let body : ErrorBody := ⟨← a.decodeUnsigned 16, ← b.decodeText⟩
    if rest.isEmpty then return body
    else throw (.invalidLength (2 + rest.length) "fewer elements in array")
  | v => .error (.invalidType v "struct ErrorBody")

/-- The status that a literal writes. A literal that stands for no number of 16 bits writes none. -/
def statusOf? (l : Json.Literal) : Option Nat := do
  ((← l.value? 0).decodeUnsigned 16).toOption

/-- The message that a literal writes. The empty message is one. -/
def messageOf? (l : Json.Literal) : Option String := do
  ((← l.value? 0).decodeText).toOption

/-- Reads the members of a text's object, from the last on. A field that stands twice spoils the
description; what other members hold is not looked at. An absent field is not noticed here but when
the description is put together. -/
def ofMembers? : List (List Char × Json.Literal) → Option Fields
  | [] => some {}
  | (key, v) :: rest => do
    let f ← ofMembers? rest
    match String.ofList (← Json.unescape? key) with
    | "status" => if f.status.isSome then none else return { f with status := ← statusOf? v }
    | "message" => if f.message.isSome then none else return { f with message := ← messageOf? v }
    | _ => return f

/-- The description that an answer's text holds, if it holds one. A text that is no JSON, or is JSON
of another form, holds none; this is no failure of its own, since the text then serves as the
message. -/
def ofText? (text : String) : Option ErrorBody := do
  match ← Json.Literal.read? text.toList with
  | .obj members => (assemble (← ofMembers? members)).toOption
  | .arr [status, message] => return ⟨← statusOf? status, ← messageOf? message⟩
  | _ => none

end ErrorBody

end Testbed

import Testbed.Json.Basic

/-!
# Requests

What is sent to a compute engine: a method, a path below the engine's base address, and a JSON body
or none.

The path is not an address yet: an engine's client puts its base address in front. The body is a
value and not a text; how it is written down is the client's affair.
-/

namespace Testbed

/-- The method of a request. Engines are asked in these four ways only; what a method means for the
resource is not said here. -/
inductive Method where
  | get | post | put | delete
  deriving DecidableEq, Repr

namespace Method

/-- The word for a method. It is the form in which scripts and transcripts write the method. -/
def text : Method → String
  | get => "GET"
  | post => "POST"
  | put => "PUT"
  | delete => "DELETE"

/-- All methods with their words. A word that is not among them is no method, whatever its case. -/
def words : List (String × Method) := [get, post, put, delete].map (fun m => (m.text, m))

end Method

/-- A request to an engine. Two requests are equal when they agree in all three parts, so a
transcript of requests can be compared with an expected one. -/
structure Request where
  /-- The method. -/
  method : Method
  /-- The path, relative to the engine's base address. -/
  path : String
  /-- The body, if one is sent. -/
  body : Option Json := none
  deriving DecidableEq

namespace Request

/-- Reads a resource. There is never a body. -/
def get (path : String) : Request := ⟨.get, path, none⟩

/-- Posts to a resource. A body is sent where something is created, bound, captured or renamed; the
actions of a lifecycle have none. -/
def post (path : String) (body : Option Json) : Request := ⟨.post, path, body⟩

/-- Replaces a resource. The body is the whole of what is sent for the resource, and it is always
there where a node is updated. -/
def put (path : String) (body : Option Json) : Request := ⟨.put, path, body⟩

/-- Deletes a resource. What is deleted stands in the path alone. -/
def delete (path : String) : Request := ⟨.delete, path, none⟩

end Request

end Testbed

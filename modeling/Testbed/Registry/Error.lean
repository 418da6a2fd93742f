import Testbed.Engine.Error

/-!
# Failures of the engine registry

Why the registry could not register an engine or hand out a client.

A record is refused together with the engine that has its address, so that the message can name
both. A failure can also be taken for that of a request, which was not even sent then
(`toEngineError`).
-/

namespace Testbed

/-- Why a registry operation failed. The first three are all that the operations here fail with. -/
inductive RegistryError where
  /-- No engine is registered under the identifier. -/
  | unknown (id : String)
  /-- Another engine has the address. -/
  | addressTaken (owner address : String)
  /-- No client can be built for the engine. -/
  | badEndpoint (id reason : String)
  /-- Anything else. -/
  | other (text : String)
  deriving DecidableEq

namespace RegistryError

/-- The wording of a failure. A conflict names the engine that has the address, and not the one that
was refused. -/
def message : RegistryError → String
  | unknown id => "Compute not found: " ++ id
  | addressTaken owner address =>
    "Compute " ++ owner ++ " is already registered at " ++ address
  | badEndpoint id reason => "Invalid endpoint for compute " ++ id ++ ": " ++ reason
  | other text => "Other error: " ++ text

/-- The failure as that of a request: none could be sent. To whoever sent the request it looks like
a connection that could not be made. -/
def toEngineError (e : RegistryError) : EngineError := .transport e.message

end RegistryError

end Testbed

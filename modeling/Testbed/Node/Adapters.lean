import Testbed.Node.Operations

/-!
# Adapters and their bindings

A node has a number of adapters, counted from zero, and each of them can be bound to one NIO. The
checks come before any request: the adapter exists, it is free or bound as the operation needs it,
the description of the binding is usable. Reducing the number of adapters unbinds those beyond it
first, in ascending order, and stops at the first that the engine refuses to unbind.
-/

namespace Testbed.Node

/-- Ends in an error unless the node has an adapter. Indices begin with zero, so the number of
adapters is itself no index. -/
def requireAdapter (index : Nat) : Op Unit := do
  let n ← self
  if index < n.adapters then return ()
  else throw (.validation (.noAdapter index n.id n.adapters))

/-- Binds an adapter. A binding that stood there is replaced, which the operations rule out
beforehand. -/
def bind (index : Nat) (nio : Nio) (n : Node) : Node :=
  { n with nios := n.nios.insert index nio }

/-- Unbinds an adapter. An index that is not bound is left as it is. -/
def unbind (index : Nat) (n : Node) : Node := { n with nios := n.nios.erase index }

/-- Binds a free adapter to the NIO that a description gives. The checks come in this order: the
status, the index, the binding that may be there, the description. Only then is the engine asked,
and only when it consents is the adapter bound. -/
def addNio (index : Nat) (spec : Json) : Op Nio := do
  requireCreated .addNio
  requireAdapter index
  let n ← self
  if n.nios.contains index then throw (.conflict (.adapterBound index n.id))
  match Nio.ofSpec spec with
  | .error cause => throw (.validation (.nio cause))
  | .ok nio =>
    let client ← findEngine
    let _ ← send client (.post (n.adapterPath index "nio") (some nio.toJson))
    edit (bind index nio)
    return nio

/-- Unbinds an adapter and gives the NIO that was bound. An index beyond the adapters is not bound
and so not found. -/
def removeNio (index : Nat) : Op Nio := do
  requireCreated .removeNio
  let n ← self
  match n.nios.get? index with
  | none => throw (.notFound (.nio index n.id))
  | some nio =>
    let client ← findEngine
    let _ ← send client (.delete (n.adapterPath index "nio"))
    edit (unbind index)
    return nio

/-- Unbinds adapters one after another. Each is forgotten as soon as the engine has confirmed it.
When one is refused, those before it are gone and it and those after it are bound still. -/
def unbindAll (client : Client) : List Nat → Op Unit
  | [] => return ()
  | index :: rest => do
    let n ← self
    let _ ← send client (.delete (n.adapterPath index "nio"))
    edit (unbind index)
    unbindAll client rest

/-- Changes the number of adapters. The bindings that would lie beyond are removed first, so at no
time is an index bound that is no adapter. -/
def resize (count : Nat) : Op Unit := do
  let client ← findEngine
  let n ← self
  unbindAll client (n.boundFrom count)
  let _ ← send client (.put (n.subPath "adapters") (some (.mkObj [("adapters", .nat count)])))
  edit (fun n => { n with adapters := count })

end Testbed.Node

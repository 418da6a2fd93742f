import Testbed.Node.Adapters

/-!
# Updates

An update asks for several settings at once. The keys are sorted by their routes first, without any
request: fields and properties that differ from the current ones go into one generic update, a
machine name and a number of adapters into calls of their own that follow it. A key whose value its
field cannot take spoils the whole update.

The calls are made in an order of their own and not in that of the keys: the generic update, the
rename, the resize. Each of them changes the node when it was confirmed, so an update that fails at
the second leaves the node as the first one made it, and the keys of the first are not reported.
-/

namespace Testbed.Node

/-- What an update has to send. It is made up from the node as it is before the first request, and
it is not revised in between. -/
structure Plan where
  /-- The keys of the generic update. -/
  push : Dict String Json := .empty
  /-- The key and value of the rename call. -/
  rename : Option (String × Json) := none
  /-- The number of adapters to change to. -/
  resize : Option Nat := none

/-- Whether there is nothing to send. Then the update succeeds without looking for the engine. -/
def Plan.isEmpty (p : Plan) : Bool := p.push.isEmpty && p.rename.isNone && p.resize.isNone

/-- Takes one requested key into a plan. A field's value is tested before it is compared, so a value
that is current but not acceptable is refused all the same. Properties are compared and never
tested. -/
def planKey (n : Node) (p : Plan) (key : String) (value : Json) : Except ControlError Plan :=
  match route n.nodeType key with
  | .identity => return p
  | .field f =>
    if !fieldAccepts f value then throw (.validation (.fieldValue f value))
    else if (n.fieldValue f).same value then return p
    else return { p with push := p.push.insert key value }
  | .property =>
    if Json.sameOpt (n.properties.get? key) (some value) then return p
    else return { p with push := p.push.insert key value }
  | .rename =>
    if Json.sameOpt (n.properties.get? key) (some value) then return p
    else return { p with rename := some (key, value) }
  | .adapters =>
    match value.nat32? with
    | none => throw (.validation (.adapterCount value))
    | some count => if count = n.adapters then return p else return { p with resize := some count }

/-- The plan of an update. The keys come in ascending order, and the first that is spoilt decides
the error. -/
def plan (n : Node) (changes : Dict String Json) : Except ControlError Plan :=
  changes.entries.foldlM (fun p (key, value) => n.planKey p key value) {}

/-- Sends the generic update, if there is one, and gives its keys. The requested values are taken
over first and what the engine reports after them. So where the engine reports another value than
the one that was asked for, the report prevails. -/
def pushStage (client : Client) (push : Dict String Json) : Op (List String) := do
  if push.isEmpty then return []
  let n ← self
  let report ← send client (.put n.path (some (.ofDict push)))
  edit (fun n => (n.applyKeys push.entries).merge report)
  return push.keys

/-- Sends the rename call, if there is one, and gives its key. Its answer is not looked at: the name
that was asked for is what is kept. -/
def renameStage (client : Client) (rename : Option (String × Json)) : Op (List String) := do
  match rename with
  | none => return []
  | some (key, value) =>
    let n ← self
    let _ ← send client (.post (n.subPath "rename") (some (.mkObj [(key, value)])))
    edit (fun n => { n with properties := n.properties.insert key value })
    return [key]

/-- Changes the number of adapters, if that is asked for, and gives its key. The number in the plan
differs from the current one, unless the generic update has brought it about in the meantime; the
call is made in either case. -/
def resizeStage (count : Option Nat) : Op (List String) := do
  match count with
  | none => return []
  | some count =>
    resize count
    return ["adapters"]

/-- **Changes settings** and gives the keys that were changed, in the order of the requests. The
engine is looked for once, after the plan is made, so an update that has nothing to do needs no
engine. The resize looks for it again, as it does when it is called by itself. -/
def update (changes : Dict String Json) : Op (List String) := do
  requireCreated .update
  let n ← self
  let p ← (match n.plan changes with
    | .ok p => pure p
    | .error e => throw e : Op Plan)
  if p.isEmpty then return []
  let client ← findEngine
  let pushed ← pushStage client p.push
  let renamed ← renameStage client p.rename
  let resized ← resizeStage p.resize
  return pushed ++ renamed ++ resized

end Testbed.Node

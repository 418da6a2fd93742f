import Testbed.Proofs.Process.Transcript
import Testbed.Scenario.Step

/-!
# What the operations of a node set out to do

Every operation of a node is one of three things: it is refused without a request, it is settled
without a request, or it sends requests in a fixed order and stops at the first that is not
confirmed. `Node.agenda` says which, from the node as it is when the operation begins, and
`Node.Stage` lists the requests with what their confirmation does to the node.

The list of an update is known before its first request. What it unbinds is read off the bindings at
the beginning, although the operation itself looks only when the requests before are confirmed –
those change names and numbers and never a binding (`Testbed.Proofs.Node.Performance`).

`Node.Staged` relates a list of requests to what can happen when it is carried out: the node only
ever changes by confirmations, in order, and is left as the last of them left it.
-/

namespace Testbed.Node

open Process (Exchange Transcript)

/-- **A request of an operation**, by what it is for. It holds what the request needs besides the
node, and no more. The rest – the paths, the identity in the body of a creation – is read off the
node when the request is sent. -/
inductive Stage where
  /-- It creates the node. -/
  | create
  /-- It performs an action of the lifecycle. -/
  | act (a : Action)
  /-- It deletes the node. -/
  | destroy
  /-- It binds an adapter. -/
  | bind (index : Nat) (nio : Nio)
  /-- It unbinds an adapter. -/
  | unbind (index : Nat)
  /-- It is the generic update. -/
  | push (keys : Dict String Json)
  /-- It renames the machine. -/
  | rename (key : String) (value : Json)
  /-- It changes the number of adapters. -/
  | resize (count : Nat)
  /-- It starts a capture. -/
  | startCapture (index : Nat) (path : OsPath)
  /-- It stops a capture. -/
  | stopCapture (index : Nat)
  /-- It is a caller's own request below the node. -/
  | post (sub : String) (body : Option Json)
  /-- It is a caller's own deletion below the node. -/
  | delete (sub : String)

namespace Stage

/-- The request that is sent for a node. Its path is read off the identity of the node, which no
report changes. -/
def request (n : Node) : Stage → Request
  | create => .post n.collectionPath (some (.ofDict n.createBody))
  | act a => .post (n.subPath a.verb.text) none
  | destroy => .delete n.path
  | bind index nio => .post (n.adapterPath index "nio") (some nio.toJson)
  | unbind index => .delete (n.adapterPath index "nio")
  | push keys => .put n.path (some (.ofDict keys))
  | rename key value => .post (n.subPath "rename") (some (.mkObj [(key, value)]))
  | resize count => .put (n.subPath "adapters") (some (.mkObj [("adapters", .nat count)]))
  | startCapture index path =>
    .post (n.adapterPath index "start_capture")
      (some (.mkObj [("capture_file_path", .str path.lossy)]))
  | stopCapture index => .post (n.adapterPath index "stop_capture") none
  | post sub body => .post (n.subPath sub) body
  | delete sub => .delete (n.subPath sub)

/-- **What the node becomes when the engine confirms**, given what it reports. Only two
confirmations look at the report, those of a creation and of the generic update, which the engine
answers with the machine as it is now; all others do what they asked for, whatever is answered. The
last four do nothing to the node, since what they ask for is not kept in it. -/
def confirm (report : Json) (n : Node) : Stage → Node
  | create => { n.merge report with status := .created }
  | act a => { n with status := a.next?.getD n.status }
  | destroy => n.buried
  | bind index nio => Node.bind index nio n
  | unbind index => Node.unbind index n
  | push keys => (n.applyKeys keys.entries).merge report
  | rename key value => { n with properties := n.properties.insert key value }
  | resize count => { n with adapters := count }
  | startCapture .. | stopCapture _ | post .. | delete _ => n

/-- The settings keys that an update gives back for a request. -/
def keys : Stage → List String
  | push keys => keys.keys
  | rename key _ => [key]
  | resize _ => ["adapters"]
  | _ => []

end Stage

/-! ## The stages of an update

The stages are computed from the node and the changes by comparing them, without the plan that the
program draws up. That both agree is a theorem and not a definition. -/

/-- Why a value may not be asked for under a key, if it may not. The identity may be asked for under
any value, since it is ignored. -/
def objection? (n : Node) (key : String) (value : Json) : Option Malformed :=
  match route n.nodeType key with
  | .field f => if fieldAccepts f value then none else some (.fieldValue f value)
  | .adapters => if value.nat32?.isSome then none else some (.adapterCount value)
  | .identity | .rename | .property => none

/-- Whether a key belongs into the generic update with a value: it is a field or a property, and
its current value is another one. -/
def pushes (n : Node) (key : String) (value : Json) : Bool :=
  match route n.nodeType key with
  | .field f => !(n.fieldValue f).same value
  | .property => !Json.sameOpt (n.properties.get? key) (some value)
  | .identity | .rename | .adapters => false

/-- The machine name that is asked for, if it is another one. Without a call for it, the machine
name is a property like others. -/
def renameTo? (n : Node) (changes : Dict String Json) : Option Json :=
  if n.nodeType.hasRename then
    (changes.get? "vmname").filter (fun v => !Json.sameOpt (n.properties.get? "vmname") (some v))
  else none

/-- The number of adapters that is asked for, if it is another one. A value that is no number of 32
bits asks for nothing here; it is objected to before. -/
def resizeTo? (n : Node) (changes : Dict String Json) : Option Nat :=
  ((changes.get? "adapters").bind Json.nat32?).filter (· ≠ n.adapters)

/-- The generic update, if it has any key. -/
def pushStages (keys : Dict String Json) : List Stage :=
  if keys.isEmpty then [] else [.push keys]

/-- Unbinding what lies beyond a number of adapters, ascending, and changing to that number. -/
def resizeStages (n : Node) (count : Nat) : List Stage :=
  (n.boundFrom count).map .unbind ++ [.resize count]

/-- The stages of an update before the adapters: the generic one and the machine's name. -/
def settingStages (n : Node) (changes : Dict String Json) : List Stage :=
  pushStages (changes.filter n.pushes) ++ (n.renameTo? changes).toList.map (.rename "vmname")

/-- **The stages of an update**: the generic one, the machine's name, the adapters. Each of them is
there only if something differs: there is no generic update without a key that differs, and no
rename and no resize to what the node has already. Before the adapters become fewer, the bindings
beyond their new number are taken away, from the lowest on. -/
def updateStages (n : Node) (changes : Dict String Json) : List Stage :=
  n.settingStages changes ++ (n.resizeTo? changes).toList.flatMap n.resizeStages

theorem forall_mem_settingStages {P : Stage → Prop} (hpush : ∀ keys, P (.push keys))
    (hrename : ∀ key value, P (.rename key value)) (n : Node) (changes : Dict String Json) :
    ∀ stage ∈ n.settingStages changes, P stage := by
  intro stage hstage
  unfold settingStages pushStages at hstage
  rw [List.mem_append, List.mem_map] at hstage
  obtain hstage | ⟨value, -, rfl⟩ := hstage
  · split at hstage
    · cases hstage
    · obtain rfl := List.mem_singleton.mp hstage
      exact hpush _
  · exact hrename _ value

/-- What holds of every kind of stage that updates are made of holds of all stages of an update. -/
theorem forall_mem_updateStages {P : Stage → Prop} (hpush : ∀ keys, P (.push keys))
    (hrename : ∀ key value, P (.rename key value)) (hunbind : ∀ index, P (.unbind index))
    (hresize : ∀ count, P (.resize count)) (n : Node) (changes : Dict String Json) :
    ∀ stage ∈ n.updateStages changes, P stage := by
  intro stage hstage
  obtain hstage | hstage := List.mem_append.mp hstage
  · exact forall_mem_settingStages hpush hrename n changes stage hstage
  · obtain ⟨count, -, hstage⟩ := List.mem_flatMap.mp hstage
    obtain hstage | hstage := List.mem_append.mp hstage
    · obtain ⟨index, -, rfl⟩ := List.mem_map.mp hstage
      exact hunbind index
    · obtain rfl := List.mem_singleton.mp hstage
      exact hresize count

/-! ## The agenda of an operation

An agenda is what a reader of the documentation expects an operation to set out to do, including the
errors with which it ends at once. It does not say how far the operation gets. -/

/-- What an operation sets out to do. -/
inductive Agenda where
  /-- It is refused. -/
  | refuse (e : ControlError)
  /-- It is settled at once. -/
  | settle (after : Node) (outcome : Outcome)
  /-- It sends requests, and gives an outcome of what the engine reported. -/
  | carryOut (stages : List Stage) (outcome : List Json → Outcome)

/-- An agenda that needs the node to exist on its engine. -/
def whenCreated (n : Node) (verb : NodeVerb) (a : Agenda) : Agenda :=
  if n.status.isCreated then a else .refuse (.conflict (.notCreated verb n.id n.status))

/-- An agenda that needs the node to have an adapter. -/
def whenAdapter (n : Node) (index : Nat) (a : Agenda) : Agenda :=
  if index < n.adapters then a else .refuse (.validation (.noAdapter index n.id n.adapters))

/-- A single request whose report is of no interest. -/
def Agenda.single (s : Stage) (outcome : Outcome) : Agenda := .carryOut [s] (fun _ => outcome)

/-- A single request whose report is the outcome. -/
def Agenda.relay (s : Stage) : Agenda := .carryOut [s] (fun reports => .json (reports.headD .null))

/-- **The agenda of an operation**, from the node at its beginning. The checks come in the order in
which the operation makes them, so that the error is the one that the caller sees if several would
be due. -/
def agenda (n : Node) : NodeStep → Agenda
  | .create =>
    if n.status = .pending then .single .create .done
    else .refuse (.conflict (.alreadyCreated n.id n.status))
  | .act a => n.whenCreated a.verb (.single (.act a) .done)
  | .destroy =>
    match n.status with
    | .deleted => .refuse (.conflict (.alreadyDeleted n.id))
    | .pending => .settle n.buried .done
    | .created | .started | .stopped | .suspended => .single .destroy .done
  | .update changes =>
    n.whenCreated .update <|
      match changes.entries.findSome? (fun e => n.objection? e.1 e.2) with
      | some cause => .refuse (.validation cause)
      | none =>
        let stages := n.updateStages changes
        .carryOut stages (fun _ => .keys (stages.flatMap Stage.keys))
  | .post sub body => .relay (.post sub body)
  | .delete sub => .relay (.delete sub)
  | .addNio index spec =>
    n.whenCreated .addNio <| n.whenAdapter index <|
      if n.nios.contains index then .refuse (.conflict (.adapterBound index n.id))
      else
        match Nio.ofSpec spec with
        | .error cause => .refuse (.validation (.nio cause))
        | .ok nio => .single (.bind index nio) (.nio (some nio))
  | .removeNio index =>
    n.whenCreated .removeNio <|
      match n.nios.get? index with
      | none => .refuse (.notFound (.nio index n.id))
      | some nio => .single (.unbind index) (.nio (some nio))
  | .nio index => .settle n (.nio (n.nios.get? index))
  | .startCapture index file =>
    n.whenCreated .startCapture <| n.whenAdapter index <|
      .single (.startCapture index (n.captureFile file)) (.path (n.captureFile file))
  | .stopCapture index =>
    n.whenCreated .stopCapture <| n.whenAdapter index <| .single (.stopCapture index) .done
  | .inspect => .settle n (.node n)

/-- **The agendas there are**, with what is known of the node and of the operation that has them. A
proof about all operations goes through this list instead of the definition, and finds in each case
what the guards have established. -/
inductive Arises (n : Node) : NodeStep → Agenda → Prop
  /-- The operation is refused. -/
  | refused (step : NodeStep) (e : ControlError) : Arises n step (.refuse e)
  /-- The operation looks at the node only. -/
  | looked (step : NodeStep) (outcome : Outcome) : Arises n step (.settle n outcome)
  /-- A node that was never created is destroyed without a request. -/
  | buried (h : n.status = .pending) : Arises n .destroy (.settle n.buried .done)
  | created (h : n.status = .pending) : Arises n .create (.single .create .done)
  | acted (a : Action) (h : n.status.isCreated = true) :
      Arises n (.act a) (.single (.act a) .done)
  | destroyed (h : n.status.isCreated = true) : Arises n .destroy (.single .destroy .done)
  | updated (changes : Dict String Json) (h : n.status.isCreated = true) :
      Arises n (.update changes) (.carryOut (n.updateStages changes)
        (fun _ => .keys ((n.updateStages changes).flatMap Stage.keys)))
  | bound {index : Nat} {spec : Json} {nio : Nio} (h : n.status.isCreated = true)
      (hindex : index < n.adapters) (hspec : Nio.ofSpec spec = .ok nio) :
      Arises n (.addNio index spec) (.single (.bind index nio) (.nio (some nio)))
  | unbound {index : Nat} {nio : Nio} (h : n.status.isCreated = true)
      (hbound : n.nios.get? index = some nio) :
      Arises n (.removeNio index) (.single (.unbind index) (.nio (some nio)))
  | captureStarted (index : Nat) (file : String) (h : n.status.isCreated = true) :
      Arises n (.startCapture index file)
        (.single (.startCapture index (n.captureFile file)) (.path (n.captureFile file)))
  | captureStopped (index : Nat) (h : n.status.isCreated = true) :
      Arises n (.stopCapture index) (.single (.stopCapture index) .done)
  | posted (sub : String) (body : Option Json) :
      Arises n (.post sub body) (.relay (.post sub body))
  | deleted (sub : String) : Arises n (.delete sub) (.relay (.delete sub))

theorem arises_whenCreated {n : Node} {verb : NodeVerb} {step : NodeStep} {a : Agenda}
    (h : n.status.isCreated = true → Arises n step a) : Arises n step (n.whenCreated verb a) := by
  unfold whenCreated
  split
  · rename_i hc
    exact h hc
  · exact .refused ..

theorem arises_whenAdapter {n : Node} {index : Nat} {step : NodeStep} {a : Agenda}
    (h : index < n.adapters → Arises n step a) : Arises n step (n.whenAdapter index a) := by
  unfold whenAdapter
  split
  · rename_i hi
    exact h hi
  · exact .refused ..

/-- **There are no others.** So a property that is kept in each of the cases is kept by every
operation of a node. -/
theorem agenda_arises (n : Node) (step : NodeStep) : Arises n step (n.agenda step) := by
  cases step with
  | create =>
    show Arises n _ (if _ then _ else _)
    split
    · rename_i hp
      exact .created hp
    · exact .refused ..
  | act a => exact arises_whenCreated (.acted a)
  | destroy =>
    unfold agenda
    dsimp only
    cases hstatus : n.status with
    | deleted => exact .refused ..
    | pending => exact .buried hstatus
    | created | started | stopped | suspended => exact .destroyed (by rw [hstatus]; rfl)
  | update changes =>
    refine arises_whenCreated (fun hc => ?_)
    split
    · exact .refused ..
    · exact .updated changes hc
  | post sub body => exact .posted sub body
  | delete sub => exact .deleted sub
  | addNio index spec =>
    refine arises_whenCreated (fun hc => arises_whenAdapter fun hi => ?_)
    split
    · exact .refused ..
    · split
      · exact .refused ..
      · rename_i nio hspec
        exact .bound hc hi hspec
  | removeNio index =>
    refine arises_whenCreated (fun hc => ?_)
    split
    · exact .refused ..
    · rename_i nio hbound
      exact .unbound hc hbound
  | nio index => exact .looked ..
  | startCapture index file =>
    exact arises_whenCreated (fun hc => arises_whenAdapter fun _ => .captureStarted index file hc)
  | stopCapture index =>
    exact arises_whenCreated (fun hc => arises_whenAdapter fun _ => .captureStopped index hc)
  | inspect => exact .looked ..

end Testbed.Node

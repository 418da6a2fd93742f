import Testbed.Proofs.Controller.Locks
import Testbed.Proofs.Node.Determinism
import Testbed.Proofs.Node.Life
import Testbed.Proofs.Process.Log
import Testbed.Proofs.Registry.Table

/-!
# Operations of nodes, one after another

An operation of a node that is performed while nothing else is going on finds the lock of its node
free and the registry to itself. It does to the node's cell what the operation of the node does to
the node, and nothing to the other cells (`alone_eq`). Whole sequences of operations therefore come
apart into one for each node (`inTurn_eq`): what is done to a node is the node's own life.

Engines are looked up in the registry, which builds clients as it goes along. That they are reached
in the same way throughout is what `Registry.Grown` provides.

The comparison has two halves. A `Mirrors` record is about any answers: whatever engines say, the
requests of the node's operation and what it was told are those of the control plane. An `Amounts`
record is about engines whose answers are a function of the request, and then the operation on the
node is determined by where it begins, so it can be compared with one that is performed elsewhere
and at another time.
-/

namespace Testbed

open Process (Transcript Settles meets_bind)

namespace Process

variable {σ Q α : Type} {R : Q → Type}

/-- A process that never waits has a result if all its questions are answered. It may still have
ended in an error. -/
theorem Meets.result {p : Process σ Q R α} {s : σ} {post : Transcript σ Q R α → Prop}
    (h : p.Meets s post) :
    p.Meets s fun t => post t ∧ ((∀ x ∈ t.exchanges, x.answer.isSome = true) →
      t.result.isSome = true) := by
  induction p generalizing s post with
  | done a => exact ⟨h, fun _ => rfl⟩
  | step ready update next abandon ih => exact ⟨h.1, ih s h.2⟩
  | ask question next abandon ih =>
    refine ⟨fun r => (ih r (h.1 r)).mono fun t ht => ⟨ht.1, fun hall => ht.2 ?_⟩, h.2, ?_⟩
    · exact (List.forall_mem_cons.mp hall).2
    · exact fun hall => absurd (List.forall_mem_singleton.mp hall) Bool.false_ne_true

/-- Adding what abandoning a process does, to processes that never wait. If it has ended by itself,
nothing is added. -/
theorem Meets.onAbandon {p : Process σ Q R α} {s : σ} {post : Transcript σ Q R α → Prop}
    (cleanup : σ → σ)
    (h : p.Meets s fun t =>
      post (if t.result.isSome then t else { t with after := cleanup t.after })) :
    (p.onAbandon cleanup).Meets s post := by
  induction p generalizing s post with
  | done a => exact h
  | step ready update next abandon ih => exact ⟨h.1, ih s h.2⟩
  | ask question next abandon ih =>
    refine ⟨fun r => ih r ((h.1 r).mono fun t ht => ?_), h.2⟩
    -- one more exchange in front does not matter to what is done at the end
    obtain ⟨log, result, after⟩ := t
    cases result with
    | some a => exact ht
    | none => exact ht

end Process

/-- Looking for a client while nobody holds the registry. The client that is found is the same one
as at the start of everything, up to its serial number. -/
theorem Registry.client_settles {Q : Type} {R : Q → Type} {r₀ r : Registry} (hgrown : Grown r₀ r)
    (hfree : r.held = false) (id : String) :
    ∃ found r', (Registry.client id : Process Registry Q R _).Settles r found r'
      ∧ Alike found (r₀.reach id) ∧ Grown r₀ r' ∧ r'.held = false := by
  cases hclient : r.clients.get? id with
  | some client =>
    refine ⟨.ok client, r, client_found hclient, ?_, hgrown, hfree⟩
    rw [← reach_of_client hclient]
    exact hgrown.reach id
  | none =>
    exact ⟨_, _, client_connected hfree hclient, hgrown.connect_alike (hgrown.kept id hclient),
      hgrown.connect id, (held_connect r id).trans hfree⟩

namespace Controller

/-! ## What an operation does to its node

An operation asks for a client and sends requests, and on the control plane the first of these
becomes a look into the registry. So the two records differ in their questions, and agree in what
was sent and answered. -/

/-- A question of the control plane with the state it was put in. The answer may be missing. -/
abbrev Exchange := Process.Exchange Controller Call fun _ => Answer

/-- What the control plane passes on of a question of a node, with the answer that comes back. That
an engine is looked for is its own affair. -/
def passedOn? (x : Node.Exchange) : Option (Call × Option Answer) :=
  match x with
  | ⟨_, .engine _, _⟩ => none
  | ⟨_, .send call, answer⟩ => some (call, answer)

/-- The engine that was looked for was found as in a registry. Requests satisfy it anyhow. -/
def FoundBy (r₀ : Registry) (x : Node.Exchange) : Prop :=
  match x with
  | ⟨_, .engine id, found⟩ => ∃ client, found = some client ∧ Registry.Alike client (r₀.reach id)
  | ⟨_, .send _, _⟩ => True

/-- **A record of the control plane mirrors one of the node under a handle**, with the engines that
were reached from a registry. Looking for a client does not show in it: the exchanges are those that
the control plane passes on, and of the others it is only said that they found what the registry
offers (`FoundBy`). -/
structure Mirrors {α : Type} (r₀ : Registry) (h : NodeHandle) (c : Controller)
    (t : Transcript Controller Call (fun _ => Answer) (Except ControlError α))
    (u : Node.Record α) : Prop where
  /-- The results are the same. -/
  result : t.result = u.result
  /-- The node is left alike. -/
  node : t.after.node h = u.after
  /-- The requests and their answers are the same. -/
  exchanges : t.exchanges.map (fun x => (x.question, x.answer)) = u.exchanges.filterMap passedOn?
  /-- The engines are those of the registry. -/
  found : ∀ x ∈ u.exchanges, FoundBy r₀ x
  /-- The lock is left as it was. -/
  held : (t.after.cell h).held = (c.cell h).held
  /-- The other cells are left as they were. -/
  others : ∀ h', h' ≠ h → t.after.cell h' = c.cell h'
  /-- Engines are reached as before. -/
  grown : Registry.Grown r₀ t.after.registry
  /-- Nobody holds the registry. -/
  free : t.after.registry.held = false

/-- The requests among exchanges, without serial numbers. Which client was built first is not seen
in them. -/
def requests (log : List (Process.Exchange Controller Call fun _ => Answer)) : List Call :=
  log.map (·.question.anonymous)

/-- Answers that are given by a function of the request. The same request always has the same
answer. -/
def AnsweredBy (engine : Call → Answer)
    (log : List (Process.Exchange Controller Call fun _ => Answer)) : Prop :=
  ∀ x ∈ log, x.answer = some (engine x.question.anonymous)

/-- **A record of the control plane amounts to one of the node under a handle**, with the engines
that were reached from a registry, and engines that answer by a function. It says less than
`Mirrors` about the answers, and in return it speaks of the engine as a function, so that it can be
used with what is known of operations that are guided by one. -/
structure Amounts {α : Type} (r₀ : Registry) (engine : Call → Answer) (h : NodeHandle)
    (c : Controller) (t : Transcript Controller Call (fun _ => Answer) (Except ControlError α))
    (u : Node.Record α) : Prop where
  /-- The results are the same. -/
  result : t.result = u.result
  /-- The node is left alike. -/
  node : t.after.node h = u.after
  /-- The requests are the same. -/
  requests : requests t.exchanges = Node.calls u.exchanges
  /-- The function gave the answers. -/
  guided : AnsweredBy engine t.exchanges → ∀ x ∈ u.exchanges, Node.Guided r₀.reach engine x
  /-- The lock is left as it was. -/
  held : (t.after.cell h).held = (c.cell h).held
  /-- The other cells are left as they were. -/
  others : ∀ h', h' ≠ h → t.after.cell h' = c.cell h'
  /-- Engines are reached as before. -/
  grown : Registry.Grown r₀ t.after.registry
  /-- Nobody holds the registry. -/
  free : t.after.registry.held = false

section Operations

variable {α : Type} {r₀ : Registry} (engine : Call → Answer) {h : NodeHandle} {c : Controller}

/-- **An operation that has the node to itself does to the cell what it does to the node.** The
induction follows the operation of the node. A step on the node is a step on its cell; looking for
an engine is the registry's own operation, which ends at once because nobody holds the registry; and
a request is passed on with its answer, or the operation is given up while it waits for it. -/
theorem onNode_mirrors {p : Node.Job (Except ControlError α)}
    (hgrown : Registry.Grown r₀ c.registry) (hfree : c.registry.held = false)
    {post : Node.Record α → Prop} (hmeets : p.Meets (c.node h) post) :
    ((p.zoom (·.node h) (setNode h)).handle answerNode : Task _).Meets c fun t =>
      ∃ u, post u ∧ Mirrors r₀ h c t u := by
  induction p generalizing c post with
  | done a =>
    exact ⟨_, hmeets, rfl, rfl, rfl, List.forall_mem_nil _, rfl, fun _ _ => rfl, hgrown, hfree⟩
  | step ready update next abandon ih =>
    refine ⟨hmeets.1, ?_⟩
    have hcell := cell_setNode h (update (c.node h)) c
    have hnode : (c.setNode h (update (c.node h))).node h = update (c.node h) :=
      congrArg NodeCell.node hcell
    refine (ih (c.node h) (c := c.setNode h (update (c.node h))) hgrown hfree
      (hnode ▸ hmeets.2)).mono ?_
    rintro t ⟨u, hu, hm⟩
    refine ⟨u, hu, { hm with held := ?_, others := fun h' hne => ?_ }⟩
    · rw [hm.held, hcell]
    · exact (hm.others h' hne).trans (cell_setCell_of_ne _ c hne)
  | ask question next abandon ih =>
    cases question with
    | engine id =>
      obtain ⟨found, r', hsettles, halike, hgrown', hfree'⟩ :=
        Registry.client_settles (Q := Call) (R := fun _ => Answer) hgrown hfree id
      refine meets_bind.mpr (Process.Meets.mono ((onRegistry_settles hsettles).onAbandon _) ?_)
      rintro _ rfl
      refine (ih found (c := c.setRegistry r') hgrown' hfree' (hmeets.1 found)).mono ?_
      rintro t ⟨u, hu, hm⟩
      exact ⟨_, hu, { hm with
        found := List.forall_mem_cons.mpr ⟨⟨found, rfl, halike⟩, hm.found⟩ }⟩
    | send call =>
      refine ⟨fun answer => ((ih answer) hgrown hfree (hmeets.1 answer)).mono ?_, ?_⟩
      · rintro t ⟨u, hu, hm⟩
        exact ⟨_, hu, { hm with
          exchanges := congrArg ((call, some answer) :: ·) hm.exchanges
          found := List.forall_mem_cons.mpr ⟨trivial, hm.found⟩ }⟩
      · have hcell := cell_setNode h (abandon (c.node h)) c
        exact ⟨_, hmeets.2, rfl, congrArg NodeCell.node hcell, rfl,
          List.forall_mem_singleton.mpr trivial, (congrArg NodeCell.held hcell).trans rfl,
          fun h' hne => cell_setCell_of_ne _ c hne, hgrown, hfree⟩

/-- A request of the node's record is on the control plane's, with the same answer. It was sent
while the node was as it is there, but that is not said. -/
theorem Mirrors.passed
    {t : Transcript Controller Call (fun _ => Answer) (Except ControlError α)} {u : Node.Record α}
    (hm : Mirrors r₀ h c t u) {n : Node} {call : Call} {answer : Option Answer}
    (hx : (⟨n, .send call, answer⟩ : Node.Exchange) ∈ u.exchanges) :
    ∃ x ∈ t.exchanges, (x.question, x.answer) = (call, answer) := by
  refine List.mem_map.mp ?_
  rw [hm.exchanges]
  exact List.mem_filterMap.mpr ⟨_, hx, rfl⟩

/-- **What mirrors a record amounts to it**, whatever the function is that is taken to have given
the answers. -/
theorem Mirrors.amounts
    {t : Transcript Controller Call (fun _ => Answer) (Except ControlError α)} {u : Node.Record α}
    (hm : Mirrors r₀ h c t u) : Amounts r₀ engine h c t u where
  result := hm.result
  node := hm.node
  requests := by
    have hcalls : Node.calls u.exchanges
        = (u.exchanges.filterMap passedOn?).map fun y => y.1.anonymous := by
      unfold Node.calls
      rw [List.map_filterMap]
      congr 1
      funext x
      obtain ⟨n, question, answer⟩ := x
      cases question <;> rfl
    rw [hcalls, ← hm.exchanges, List.map_map]
    rfl
  guided := by
    intro hanswered x hx
    obtain ⟨n, question, answer⟩ := x
    cases question with
    | engine id =>
      obtain ⟨found, rfl, halike⟩ := hm.found _ hx
      exact halike
    | send call =>
      obtain ⟨y, hy, heq⟩ := hm.passed hx
      cases heq
      have hgiven := hanswered y hy
      generalize y.answer = given at hgiven
      cases hgiven
      rfl
  held := hm.held
  others := hm.others
  grown := hm.grown
  free := hm.free

/-- What is done at the end of an operation is done in any case. What an abandoned operation leaves
is covered too. -/
theorem meets_ensuring {op : Op α} {cleanup : Controller → Controller}
    {post : Transcript Controller Call (fun _ => Answer) (Except ControlError α) → Prop}
    (hop : op.run.Meets c fun t => post { t with after := cleanup t.after }) :
    (ensuring cleanup op).run.Meets c post := by
  refine meets_bind.mpr (Process.Meets.onAbandon cleanup (hop.mono ?_))
  rintro ⟨log, result, after⟩ ht
  cases result with
  | some result =>
    refine ⟨rfl, ?_⟩
    show post ⟨log ++ [], some result, cleanup after⟩
    rw [List.append_nil]
    exact ht
  | none => exact ht

/-- **An operation that finds the lock free does to the cell what it does to the node**, and leaves
the lock free. The lock is taken at the beginning and given back at the end, also when the operation
is given up. -/
theorem withNode_mirrors {op : Node.Op α} (hgrown : Registry.Grown r₀ c.registry)
    (hfree : c.registry.held = false) (hlock : (c.cell h).held = false)
    {post : Node.Record α → Prop} (hmeets : op.run.Meets (c.node h) post) :
    (withNode h op).run.Meets c fun t => ∃ u, post u ∧ Mirrors r₀ h c t u := by
  have hready : (!(c.cell h).held) = true := by rw [hlock]; rfl
  refine ⟨hready, ?_⟩
  show (ensuring (setHeld h false) (onNode h op)).run.Meets (c.setHeld h true) _
  refine meets_ensuring ((onNode_mirrors (c := c.setHeld h true) hgrown hfree
    ((node_setHeld true c h).symm ▸ hmeets)).mono ?_)
  rintro t ⟨u, hu, hm⟩
  refine ⟨u, hu, { hm with node := ?_, held := ?_, others := fun h' hne => ?_ }⟩
  · exact (node_setHeld false t.after h).trans hm.node
  · exact (held_setHeld false t.after).trans hlock.symm
  · exact (cell_setHeld_of_ne false t.after hne).trans
      ((hm.others h' hne).trans (cell_setHeld_of_ne true c hne))

end Operations

/-! ## Calls, one after another

What calls give when each is made after the one before has ended. As an operation sees nothing but
its own node and the registry's engines, it is enough to know the node, and the calls on each node
can be counted for themselves. -/

/-- **A call on a node**: an operation of the node under a handle. The node may or may not belong to
a project. -/
structure NodeCall where
  /-- The handle of the node. -/
  handle : NodeHandle
  /-- The operation. -/
  step : NodeStep

/-- What a call does: it performs the operation with the lock of the node held. It waits for the
lock if somebody holds it. -/
def NodeCall.task (call : NodeCall) : Task (Except ControlError Outcome) :=
  (withNode call.handle (Scenario.nodeOp call.step)).run

/-- What is seen of a call. The state in between is not part of it. -/
structure Deed (ι : Type) where
  /-- Whose call it is. -/
  call : ι
  /-- The requests that it sends, in order. -/
  requests : List Call
  /-- What it returns, if it returns. -/
  result : Option (Except ControlError Outcome)

section Turns

variable {ι : Type} (engine : Call → Answer) (calls : ι → NodeCall)

/-- Engines that answer at once, and by a function of the request. They have no memory. -/
def prompt : Process.Outside Controller Call (fun _ => Answer) :=
  fun _ call => some (engine call.anonymous)

/-- How a call goes that is made while nothing else is going on. It has a result, because nothing
keeps it waiting. -/
def alone (call : NodeCall) (c : Controller) :
    Transcript Controller Call (fun _ => Answer) (Except ControlError Outcome) :=
  call.task.transcript (prompt engine) c

/-- **Calls one after another**, each made when the one before it has returned. The list has an
entry for each call, in their order, with what was seen of it. -/
def inTurn : Controller → List ι → List (Deed ι)
  | _, [] => []
  | c, i :: rest =>
    let t := alone engine (calls i) c
    ⟨i, requests t.exchanges, t.result⟩ :: inTurn t.after rest

/-- The state after calls one after another. Each begins where the one before has ended. -/
def afterTurns : Controller → List ι → Controller
  | c, [] => c
  | c, i :: rest => afterTurns (alone engine (calls i) c).after rest

/-- The calls on the node under a handle. Their order is kept. -/
def callsOn (h : NodeHandle) (order : List ι) : List ι := order.filter fun i => (calls i).handle = h

variable (r₀ : Registry)

/-- How an operation goes that has a node to itself, with the engines that are reached from a
registry. -/
def solo (n : Node) (step : NodeStep) : Node.Record Outcome :=
  n.perform (step, Node.guide r₀.reach engine)

/-- **The life of a node** through the operations of calls. The registry is only read: it says which
engines can be reached at all, and that does not change while operations come and go. -/
def nodeTurns : Node → List ι → List (Deed ι)
  | _, [] => []
  | n, i :: rest =>
    let t := solo engine r₀ n (calls i).step
    ⟨i, Node.calls t.exchanges, t.result⟩ :: nodeTurns t.after rest

/-- The node after the operations of calls. Only the node is followed, and the registry is taken as
it was. -/
def nodeAfter : Node → List ι → Node
  | n, [] => n
  | n, i :: rest => nodeAfter (solo engine r₀ n (calls i).step).after rest

/-- **Nothing is going on** that the calls would have to wait for, and engines are reached as from
some registry. -/
structure Resting (c : Controller) : Prop where
  /-- The locks are free. -/
  locks : ∀ h, (c.cell h).held = false
  /-- The registry is free. -/
  registry : c.registry.held = false
  /-- Engines are reached as before. -/
  grown : Registry.Grown r₀ c.registry

variable {engine calls r₀} {c : Controller}

theorem answeredBy_prompt {α : Type} (p : Task α) (c : Controller) :
    AnsweredBy engine (p.transcript (prompt engine) c).exchanges := by
  induction p generalizing c with
  | done a => exact List.forall_mem_nil _
  | step ready update next abandon ih =>
    unfold Process.transcript
    split
    · exact ih c _
    · exact List.forall_mem_nil _
  | ask call next abandon ih => exact List.forall_mem_cons.mpr ⟨rfl, ih _ c⟩

/-- What has the lock of a node to itself leaves nothing going on behind. Its lock is free again,
and so is the registry. -/
theorem Mirrors.resting {α : Type} {h : NodeHandle}
    {t : Transcript Controller Call (fun _ => Answer) (Except ControlError α)} {u : Node.Record α}
    (hm : Mirrors r₀ h c t u) (hc : Resting r₀ c) : Resting r₀ t.after where
  locks h' := by
    by_cases hh : h' = h
    · rw [hh]
      exact hm.held.trans (hc.locks h)
    · exact (congrArg NodeCell.held (hm.others h' hh)).trans (hc.locks h')
  registry := hm.free
  grown := hm.grown

variable (engine) in
/-- **A call that is made while nothing else is going on** goes as its operation does on the node
alone. Both its requests and its result are those of `solo`, and the cell of the node is left as
`solo` leaves the node. The other cells stay as they are, and nothing is going on afterwards. -/
theorem alone_eq (hc : Resting r₀ c) (call : NodeCall) :
    let t := alone engine call c
    let s := solo engine r₀ (c.node call.handle) call.step
    t.result = s.result ∧ requests t.exchanges = Node.calls s.exchanges
      ∧ t.after.node call.handle = s.after
      ∧ (∀ h, h ≠ call.handle → t.after.cell h = c.cell h) ∧ Resting r₀ t.after := by
  have htwins := Node.nodeOp_twins call.step
  have hmeets := withNode_mirrors hc.grown hc.registry (hc.locks call.handle)
    (htwins.agrees r₀.reach engine (c.node call.handle))
  obtain ⟨⟨u, hagrees, hm⟩, hresult⟩ := hmeets.result.transcript (prompt engine)
  have ha := hm.amounts engine
  have hanswered : AnsweredBy engine (alone engine call c).exchanges := answeredBy_prompt _ c
  have hagrees := hagrees (ha.guided hanswered)
  obtain ⟨result, hsome⟩ := Option.isSome_iff_exists.mp
    (hresult fun x hx => by rw [hanswered x hx]; rfl)
  unfold Node.Agrees at hagrees
  rw [← ha.result, hsome] at hagrees
  obtain ⟨hsolo, hafter, hcalls⟩ := hagrees
  exact ⟨hsome.trans hsolo.symm, ha.requests.trans hcalls, ha.node.trans hafter.symm, ha.others,
    hm.resting hc⟩

variable (engine calls) in
/-- **Calls one after another come apart**, node by node: each node lives through the operations of
the calls on it. By induction over the calls. A call on another node leaves this one as it was and
is filtered out on the left, and it does not occur on the right. -/
theorem inTurn_eq (hc : Resting r₀ c) (h : NodeHandle) (order : List ι) :
    (inTurn engine calls c order).filter (fun d => (calls d.call).handle = h)
        = nodeTurns engine calls r₀ (c.node h) (callsOn calls h order)
      ∧ (afterTurns engine calls c order).node h
        = nodeAfter engine calls r₀ (c.node h) (callsOn calls h order) := by
  induction order generalizing c with
  | nil => exact ⟨rfl, rfl⟩
  | cons i rest ih =>
    obtain ⟨hresult, hrequests, hnode, hothers, hafter⟩ := alone_eq engine hc (calls i)
    obtain ⟨hturns, hend⟩ := ih hafter
    unfold inTurn afterTurns callsOn
    by_cases hi : (calls i).handle = h
    · rw [List.filter_cons_of_pos (by simpa using hi), List.filter_cons_of_pos (by simpa using hi),
        hresult, hrequests]
      rw [hi] at hnode ⊢
      rw [hnode] at hturns hend
      exact ⟨congrArg _ hturns, hend⟩
    · rw [List.filter_cons_of_neg (by simpa using hi), List.filter_cons_of_neg (by simpa using hi)]
      have hsame : (alone engine (calls i) c).after.node h = c.node h :=
        congrArg NodeCell.node (hothers h (Ne.symm hi))
      rw [hsame] at hturns hend
      exact ⟨hturns, hend⟩

end Turns

end Controller

end Testbed

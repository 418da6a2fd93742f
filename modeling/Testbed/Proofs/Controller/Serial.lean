import Testbed.Proofs.Controller.Alone
import Testbed.Proofs.Controller.Work

/-!
# Calls on nodes are as good as made one after another

Calls on nodes run side by side, each with the lock of its node. Their steps mix in any way, and an
engine's answer is a function of the request. `calls_serial` says that nobody can tell the
difference from making the calls one after another, in the order in which they took their locks: the
requests about a node are the same and stand in the same order, the calls return the same, and the
nodes are left alike. Moreover the calls on one node need not even be made for those on another one.

The proof follows a node. While its lock is free it is where the calls that held the lock have left
it one after another; while a call holds the lock, what the call has done since is the beginning of
what it would do alone (`Underway`). A call can only be told what it would be told alone, because
engines are reached in the same way whoever has looked for them before.

That answers are a function of the request is what makes the comparison possible: with an engine
that remembers requests, what it answers about one node could depend on what it was asked about
another one. The serial numbers of clients are left out of the comparison, because they count the
clients that the registry has built so far and depend on how the steps mix.

The order in which the locks are taken is the only one that can serve. Two calls on one node may be
started in one order and get the lock in the other, and it is the second order that decides what
each of them finds. For calls on different nodes the order does not matter (`AsInTurn.apart`).
-/

namespace Testbed.Controller

variable {ι : Type}

/-- Calls on nodes, side by side. Each may be on a node of its own or all on one. -/
abbrev NodeCrew (ι : Type) : Type :=
  Crew ι Controller Call (fun _ => Answer) (fun _ => Except ControlError Outcome)

/-- Calls on nodes before their first turns. None of them has a lock. -/
def nodeCrew (calls : ι → NodeCall) (c : Controller) : NodeCrew ι :=
  Crew.start c fun i => (calls i).task

/-- A turn at which a call goes on, told by engines whose answer is a function of the request. When
it is told an answer it is that function's. -/
def promptTurn (engine : Call → Answer) : Crew.Turn Call (fun _ => Answer) :=
  .go fun call => engine call.anonymous

/-! ## What the log says

The order of the calls on a node is the one in which they have taken its lock, and that can be read
off the log. So can the requests, with the node that they were about. -/

section Log

variable (calls : ι → NodeCall)

/-- The request that is sent, without serial number. Other happenings send none. -/
def sent? : Crew.Happening Controller Call (fun _ => Answer) → Option Call
  | .put call => some call.anonymous
  | .moved _ _ | .answered _ _ | .quit _ _ => none

/-- **The order in which the calls took their locks.** A call that waits for its lock is not in it
yet, and it has sent no request. -/
def lockOrder (log : List (ι × Crew.Happening Controller Call fun _ => Answer)) : List ι :=
  log.filterMap fun x => if takes (calls x.1).handle x.2 then some x.1 else none

/-- **The requests about the node under a handle**, in the order in which they were sent. Requests
of others may lie in between. -/
def requestsOn (h : NodeHandle) (log : List (ι × Crew.Happening Controller Call fun _ => Answer)) :
    List Call :=
  log.filterMap fun x => if (calls x.1).handle = h then sent? x.2 else none

variable {calls} {log : List (ι × Crew.Happening Controller Call fun _ => Answer)} {i : ι}
  {happening : Crew.Happening Controller Call fun _ => Answer} {h : NodeHandle}

theorem lockOrder_of_takes (htakes : takes (calls i).handle happening = true) :
    lockOrder calls (log ++ [(i, happening)]) = lockOrder calls log ++ [i] := by
  unfold lockOrder
  rw [List.filterMap_append, List.filterMap_cons, htakes]
  rfl

theorem lockOrder_of_not_takes (htakes : takes (calls i).handle happening = false) :
    lockOrder calls (log ++ [(i, happening)]) = lockOrder calls log := by
  unfold lockOrder
  rw [List.filterMap_append, List.filterMap_cons, htakes]
  exact List.append_nil _

theorem requestsOn_self :
    requestsOn calls (calls i).handle (log ++ [(i, happening)])
      = requestsOn calls (calls i).handle log ++ (sent? happening).toList := by
  unfold requestsOn
  rw [List.filterMap_append, List.filterMap_cons, if_pos rfl]
  cases sent? happening <;> rfl

theorem requestsOn_other (hne : (calls i).handle ≠ h) :
    requestsOn calls h (log ++ [(i, happening)]) = requestsOn calls h log := by
  unfold requestsOn
  rw [List.filterMap_append, List.filterMap_cons, if_neg hne]
  exact List.append_nil _

theorem callsOn_concat {order : List ι} :
    callsOn calls (calls i).handle (order ++ [i])
      = callsOn calls (calls i).handle order ++ [i] := by
  unfold callsOn
  rw [List.filter_append, List.filter_cons, if_pos (decide_eq_true rfl)]
  rfl

theorem callsOn_concat_other {order : List ι} (hne : (calls i).handle ≠ h) :
    callsOn calls h (order ++ [i]) = callsOn calls h order := by
  unfold callsOn
  rw [List.filter_append, List.filter_cons_of_neg (by simpa using hne)]
  exact List.append_nil _

end Log

/-! ## The life of a node, one call longer

What calls one after another do to a node, with one more at the end. The induction over a run goes
in this direction. -/

section Life

variable {engine : Call → Answer} {calls : ι → NodeCall} {r₀ : Registry}

theorem nodeTurns_append (n : Node) (order later : List ι) :
    nodeTurns engine calls r₀ n (order ++ later) = nodeTurns engine calls r₀ n order
      ++ nodeTurns engine calls r₀ (nodeAfter engine calls r₀ n order) later := by
  induction order generalizing n with
  | nil => rfl
  | cons i rest ih => exact congrArg (List.cons _) (ih _)

theorem nodeTurns_concat (n : Node) (order : List ι) (i : ι) :
    let t := solo engine r₀ (nodeAfter engine calls r₀ n order) (calls i).step
    nodeTurns engine calls r₀ n (order ++ [i])
      = nodeTurns engine calls r₀ n order ++ [⟨i, Node.calls t.exchanges, t.result⟩] :=
  nodeTurns_append n order [i]

theorem nodeAfter_append (n : Node) (order later : List ι) :
    nodeAfter engine calls r₀ n (order ++ later)
      = nodeAfter engine calls r₀ (nodeAfter engine calls r₀ n order) later := by
  induction order generalizing n with
  | nil => rfl
  | cons i rest ih => exact ih _

/-- The requests among deeds. They are in the order of the deeds. -/
def Deed.requestsOf (deeds : List (Deed ι)) : List Call := deeds.flatMap Deed.requests

end Life

/-! ## A call that is under way

A call that has been told so much and has asked so much. It stands where the same operation would
stand that had been told the same and had the node to itself. -/

/-- The requests of an operation at work so far. The last of them may not have been answered yet. -/
def Work.requests (w : Work) : List Call :=
  Node.calls w.log ++
    match w.wait with
    | .answer call => [call.anonymous]
    | .nothing | .client _ => []

section Underway

variable (engine : Call → Answer) (calls : ι → NodeCall) (r₀ : Registry)

/-- What a call leaves behind, if the engines gave the answers: what its operation does alone. The
condition is needed, since other answers lead elsewhere. -/
def AsAlone (step : NodeStep) (n : Node) (u : Node.Record Outcome) : Prop :=
  (∀ x ∈ u.exchanges, Node.Guided r₀.reach engine x) → Node.Agrees (solo engine r₀ n step) u

/-- **A call does what it would do alone** after earlier calls on the node. The log holds what it
was told, with answers both of the registry and of engines. As everything in it is what the call
would have been told alone, the next thing that it does is what it would do alone as well. -/
structure Underway (n : Node) (step : NodeStep) (earlier : List ι) (w : Work)
    (requests : List Call) : Prop where
  /-- It began where the earlier calls ended. -/
  first : w.first = nodeAfter engine calls r₀ n earlier
  /-- It was told what it would be told alone. -/
  guided : ∀ x ∈ w.log, Node.Guided r₀.reach engine x
  /-- Its requests came after theirs. -/
  requests : requests = Deed.requestsOf (nodeTurns engine calls r₀ n earlier) ++ w.requests
  /-- They are the beginning of those that it would send alone. -/
  agrees : w.requests <+: Node.calls (solo engine r₀ w.first step).exchanges
  /-- It lets the registry connect engines only that had no client at the beginning. -/
  client : ∀ id, w.wait = .client id → r₀.clients.get? id = none

variable {engine calls r₀} {n : Node} {step : NodeStep} {earlier : List ι} {w w' : Work}
  {requests : List Call} {h : NodeHandle} {c c' : Controller}
  {happening : Crew.Happening Controller Call fun _ => Answer}

/-- What is learned from the registry is no request. Nothing was put to an engine. -/
theorem Work.requests_learn (hw : ∀ call, w.wait ≠ .answer call) (id : String)
    (found : Except RegistryError Client) : (w.learn (.engine id) found).requests = w.requests := by
  have hlog : Node.calls (w.log ++ [⟨w.node, .engine id, some found⟩]) = Node.calls w.log := by
    unfold Node.calls
    rw [List.filterMap_append]
    exact List.append_nil _
  unfold Work.requests Work.learn
  rw [hlog]
  cases hwait : w.wait with
  | answer call => exact absurd hwait (hw call)
  | nothing => rfl
  | client id' => rfl

/-- An answer adds nothing to the requests either. It was counted when it was sent. -/
theorem Work.requests_answered {call : Call} (hw : w.wait = .answer call) (answer : Answer) :
    (w.learn (.send call) answer).requests = w.requests := by
  unfold Work.requests Work.learn
  rw [hw]
  unfold Node.calls
  rw [List.filterMap_append]
  exact List.append_nil _

/-- While nothing is waited for, the requests are those that were answered. There is none on its
way. -/
theorem Work.requests_of_nothing (hw : w.wait = .nothing) : w.requests = Node.calls w.log := by
  unfold Work.requests
  rw [hw]
  exact List.append_nil _

/-- Being told something that is learned alone, too. The work goes on as it would alone. -/
theorem Underway.learn (hu : Underway engine calls r₀ n step earlier w requests)
    {question : Node.Question} {reply : question.Reply}
    (hguided : Node.Guided r₀.reach engine ⟨w.node, question, some reply⟩)
    (hsame : (w.learn question reply).requests = w.requests) :
    Underway engine calls r₀ n step earlier (w.learn question reply) requests where
  first := hu.first
  guided := List.forall_mem_append.mpr ⟨hu.guided, List.forall_mem_singleton.mpr hguided⟩
  requests := by rw [hsame]; exact hu.requests
  agrees := by rw [hsame]; exact hu.agrees
  client _ hwait := nomatch hwait

/-- Sending a request that is sent alone, too. The next request is determined by what was learned so
far. -/
theorem Underway.asks (hu : Underway engine calls r₀ n step earlier w requests) {call : Call}
    (hasks : (working h (AsAlone engine r₀ step)).asks w call w') :
    Underway engine calls r₀ n step earlier w' (requests ++ [call.anonymous]) := by
  obtain ⟨hw, rfl, m, hpost⟩ := hasks
  have hbefore := Work.requests_of_nothing hw
  have hafter : ({ w with wait := .answer call } : Work).requests
      = w.requests ++ [call.anonymous] := by
    rw [hbefore]
    rfl
  refine ⟨hu.first, hu.guided, ?_, ?_, fun _ hwait => nomatch hwait⟩
  · rw [hafter, hu.requests, List.append_assoc]
  · have hcalls : Node.calls (w.log ++ [⟨w.node, .send call, none⟩])
        = w.requests ++ [call.anonymous] := by
      rw [hbefore]
      unfold Node.calls
      rw [List.filterMap_append]
      rfl
    rw [hafter, ← hcalls]
    exact hpost (List.forall_mem_append.mpr ⟨hu.guided, List.forall_mem_singleton.mpr trivial⟩)

/-- **Whatever happens at work**, the call goes on doing what it would do alone. There are three
cases. A step leaves requests and answers as they are; a request is the next one that would be sent
alone; an answer is the one that would be given. An engine that is connected stays reached in the
same way, so the registry has only grown. -/
theorem Underway.advances (hu : Underway engine calls r₀ n step earlier w requests)
    (hgrown : Registry.Grown r₀ c.registry)
    (hadvances : Crew.Advances (fun call answer => answer = engine call.anonymous)
      (working h (AsAlone engine r₀ step)) w c happening c' w') :
    Underway engine calls r₀ n step earlier w' (requests ++ (sent? happening).toList)
      ∧ Registry.Grown r₀ c'.registry := by
  cases hadvances with
  | moved hmoves =>
    show Underway engine calls r₀ n step earlier w' (requests ++ []) ∧ _
    rw [List.append_nil]
    cases hmoves with
    | edits hw hn => exact ⟨⟨hu.first, hu.guided, hu.requests, hu.agrees, hu.client⟩, hgrown⟩
    | @finds id client hw hclient =>
      refine ⟨hu.learn ?_ (Work.requests_learn (fun _ => by rw [hw]; nofun) id _), hgrown⟩
      show Registry.Alike (.ok client) (r₀.reach id)
      rw [← Registry.reach_of_client hclient]
      exact hgrown.reach id
    | @misses id hw hclient =>
      have hsame : ({ w with wait := .client id } : Work).requests = w.requests := by
        unfold Work.requests
        rw [hw]
      refine ⟨⟨hu.first, hu.guided, by rw [hsame]; exact hu.requests,
        by rw [hsame]; exact hu.agrees, fun id' hid => ?_⟩, hgrown⟩
      cases hid
      exact hgrown.kept id hclient
    | marks held => exact ⟨hu, hgrown.setHeld held⟩
    | @connects id hw =>
      refine ⟨hu.learn ?_ (Work.requests_learn (fun _ => by rw [hw]; nofun) id _),
        hgrown.connect id⟩
      exact hgrown.connect_alike (hu.client id hw)
  | put hasks => exact ⟨hu.asks hasks, hgrown⟩
  | @answered _ _ call answer ht hhears =>
    obtain ⟨hw, rfl⟩ := hhears
    show Underway engine calls r₀ n step earlier _ (requests ++ []) ∧ _
    rw [List.append_nil]
    exact ⟨hu.learn ht (Work.requests_answered hw answer), hgrown⟩

end Underway

/-! ## All calls

The invariant has one part for each node. A step of a call touches the part of its own node only, so
there is a lemma for each kind of step and one that leaves the other nodes alone. -/

/-- Where a visitor is inside. Before it has the lock and after it has given it back it is nowhere.
-/
def Visit.inside? {α : Type} (h : NodeHandle) : Visit α → Option NodeHandle
  | .inside _ => some h
  | .waiting | .left .. => none

section Sites

variable (engine : Call → Answer) (calls : ι → NodeCall) (c₀ : Controller)

/-- The dialogue of a call. It ends as the operation does alone. -/
abbrev NodeCall.dialogue (call : NodeCall) :
    Dialogue (Visit Outcome) Controller Call (fun _ => Answer) :=
  visiting call.handle (AsAlone engine c₀.registry call.step)

/-- The requests of calls one after another on a node. It is what the log is compared with. -/
abbrev requestsAfter (h : NodeHandle) (order : List ι) : List Call :=
  Deed.requestsOf (nodeTurns engine calls c₀.registry (c₀.node h) order)

/-- **How things stand with a node**, after calls in some order and with some requests. The three
conditions are about the three stages of a call with the node. Between calls nothing is pending, and
the node is as the calls before have left it; while a call is at work, its own part is the end of
the order; and what is past stays as it is when more calls come. -/
structure Site (h : NodeHandle) (order : List ι) (requests : List Call) (c : Controller)
    (role : ι → Visit Outcome) : Prop where
  /-- While the lock is free, the calls have been made one after another. -/
  free : (c.cell h).held = false →
    c.node h = nodeAfter engine calls c₀.registry (c₀.node h) order
      ∧ requests = requestsAfter engine calls c₀ h order
  /-- While a call has the lock, it is under way. -/
  busy : ∀ i w, (calls i).handle = h → role i = .inside w → c.node h = w.node
    ∧ ∃ earlier, order = earlier ++ [i]
      ∧ Underway engine calls c₀.registry (c₀.node h) (calls i).step earlier w requests
  /-- The calls that are over have their results. -/
  past : ∀ i w result, (calls i).handle = h → role i = .left w result →
    ∃ d ∈ nodeTurns engine calls c₀.registry (c₀.node h) order,
      d.call = i ∧ d.result = some result

/-- **The invariant of the calls.** The first four fields are about all calls and the last is about
each node by itself. A step of a call changes the site of its own node; those of others are left
alone, as their cells are. -/
structure InOrder (c : Controller)
    (log : List (ι × Crew.Happening Controller Call fun _ => Answer))
    (role : ι → Visit Outcome) : Prop where
  /-- The locks are held by the calls that are at work. -/
  locks : Locks c fun i => (role i).inside? (calls i).handle
  /-- Engines are reached as at the beginning. -/
  grown : Registry.Grown c₀.registry c.registry
  /-- No call takes its lock twice. -/
  nodup : (lockOrder calls log).Nodup
  /-- The calls that took their locks are those that do not wait for them. -/
  taken : ∀ i, i ∈ lockOrder calls log ↔ role i ≠ .waiting
  /-- How things stand with each node. -/
  site : ∀ h, Site engine calls c₀ h (callsOn calls h (lockOrder calls log))
    (requestsOn calls h log) c role

variable {engine calls c₀} {h : NodeHandle} {order : List ι} {requests : List Call}
  {c c' : Controller} {role : ι → Visit Outcome}
  {log : List (ι × Crew.Happening Controller Call fun _ => Answer)}

/-- No two calls are at work on one node. They would both have its lock. -/
theorem eq_of_inside (hl : Locks c fun i => (role i).inside? (calls i).handle) {i j : ι}
    (hij : (calls j).handle = (calls i).handle) {w w' : Work} (hi : role i = .inside w)
    (hj : role j = .inside w') : j = i := by
  refine hl.exclusive j i (calls i).handle ?_ ?_
  · rw [hj, hij]
    rfl
  · rw [hi]
    rfl

/-- A node is left alone by what happens to others. What these others do is not seen from here. -/
theorem Site.congr (hs : Site engine calls c₀ h order requests c role)
    (hcell : c'.cell h = c.cell h) {role' : ι → Visit Outcome}
    (hrole : ∀ i, (calls i).handle = h → role' i = role i) :
    Site engine calls c₀ h order requests c' role' where
  free hheld := by
    rw [hcell] at hheld
    unfold node
    rw [hcell]
    exact hs.free hheld
  busy i w hi hw := by
    rw [hrole i hi] at hw
    unfold node
    rw [hcell]
    exact hs.busy i w hi hw
  past i w result hi hw := by
    rw [hrole i hi] at hw
    exact hs.past i w result hi hw

/-- Results stay as calls are added. A call that has ended is not looked at again. -/
theorem Site.past_append (hs : Site engine calls c₀ h order requests c role) (later : List ι)
    {i : ι} {w : Work} {result : Except ControlError Outcome} (hi : (calls i).handle = h)
    (hw : role i = .left w result) :
    ∃ d ∈ nodeTurns engine calls c₀.registry (c₀.node h) (order ++ later),
      d.call = i ∧ d.result = some result := by
  obtain ⟨d, hd, hcall⟩ := hs.past i w result hi hw
  refine ⟨d, ?_, hcall⟩
  rw [nodeTurns_append]
  exact List.mem_append_left _ hd

variable [DecidableEq ι] {i : ι}

theorem inside_update (v : Visit Outcome) :
    (fun j => (Function.update role i v j).inside? (calls j).handle)
      = Function.update (fun j => (role j).inside? (calls j).handle) i
        (v.inside? (calls i).handle) := by
  funext j
  exact Function.apply_update (fun j (v : Visit Outcome) => v.inside? (calls j).handle) role i v j

/-- **A call takes its lock.** It is the next in the order from here on. -/
theorem Site.enter (hs : Site engine calls c₀ (calls i).handle order requests c role)
    (hl : Locks c fun i => (role i).inside? (calls i).handle)
    (hfree : (c.cell (calls i).handle).held = false) :
    Site engine calls c₀ (calls i).handle (order ++ [i]) requests
      (c.setHeld (calls i).handle true)
      (Function.update role i (.inside (.start (c.node (calls i).handle)))) where
  free hheld := by
    rw [held_setHeld] at hheld
    cases hheld
  busy j w hj hw := by
    obtain ⟨hnode, hrequests⟩ := hs.free hfree
    by_cases hji : j = i
    · subst hji
      rw [Function.update_self] at hw
      cases hw
      refine ⟨node_setHeld true c _, order, rfl, hnode, List.forall_mem_nil _, ?_, List.nil_prefix,
        fun _ hwait => nomatch hwait⟩
      exact hrequests.trans (List.append_nil _).symm
    · -- nobody else is at work while the lock is free
      rw [Function.update_of_ne hji] at hw
      refine absurd ?_ (hl.not_inside_of_free hfree j)
      rw [hw, hj]
      rfl
  past j w result hj hw := by
    by_cases hji : j = i
    · subst hji
      rw [Function.update_self] at hw
      cases hw
    · rw [Function.update_of_ne hji] at hw
      exact hs.past_append [i] hj hw

/-- **A call works.** One step adds one request at most. -/
theorem Site.work (hs : Site engine calls c₀ (calls i).handle order requests c role)
    (hl : Locks c fun i => (role i).inside? (calls i).handle)
    (hgrown : Registry.Grown c₀.registry c.registry) {w w' : Work} (hi : role i = .inside w)
    {happening : Crew.Happening Controller Call fun _ => Answer}
    (hw : Crew.Advances (fun call answer => answer = engine call.anonymous)
      (working (calls i).handle (AsAlone engine c₀.registry (calls i).step)) w c happening c' w') :
    Site engine calls c₀ (calls i).handle order (requests ++ (sent? happening).toList) c'
      (Function.update role i (.inside w')) := by
  obtain ⟨hnode, earlier, horder, hunderway⟩ := hs.busy i w rfl hi
  obtain ⟨hnode', hheld, -⟩ := working_cell hnode hw
  have hin : (role i).inside? (calls i).handle = some (calls i).handle := by rw [hi]; rfl
  refine ⟨fun hfree => ?_, fun j w₁ hj hw₁ => ?_, fun j w₁ result hj hw₁ => ?_⟩
  · rw [hheld] at hfree
    exact absurd hin (hl.not_inside_of_free hfree i)
  · by_cases hji : j = i
    · subst hji
      rw [Function.update_self] at hw₁
      cases hw₁
      exact ⟨hnode', earlier, horder, (hunderway.advances hgrown hw).1⟩
    · rw [Function.update_of_ne hji] at hw₁
      exact absurd (eq_of_inside hl hj hi hw₁) hji
  · by_cases hji : j = i
    · subst hji
      rw [Function.update_self] at hw₁
      cases hw₁
    · rw [Function.update_of_ne hji] at hw₁
      exact hs.past j w₁ result hj hw₁

/-- **A call gives its lock back**, having done what it does alone. Its place in the order has been
there since it took the lock. -/
theorem Site.leave (hs : Site engine calls c₀ (calls i).handle order requests c role)
    (hl : Locks c fun i => (role i).inside? (calls i).handle) {w : Work} (hi : role i = .inside w)
    (hwait : w.wait = .nothing) {result : Except ControlError Outcome}
    (hpost : AsAlone engine c₀.registry (calls i).step w.first ⟨w.log, some result, w.node⟩) :
    Site engine calls c₀ (calls i).handle order requests (c.setHeld (calls i).handle false)
      (Function.update role i (.left w result)) := by
  obtain ⟨hnode, earlier, rfl, hunderway⟩ := hs.busy i w rfl hi
  obtain ⟨hresult, hafter, hcalls⟩ := hpost hunderway.guided
  have hrequests := Work.requests_of_nothing hwait
  have hturns : nodeTurns engine calls c₀.registry (c₀.node (calls i).handle) (earlier ++ [i])
      = nodeTurns engine calls c₀.registry (c₀.node (calls i).handle) earlier
        ++ [⟨i, Node.calls w.log, some result⟩] := by
    rw [nodeTurns_concat, ← hunderway.first, hresult, ← hcalls]
  refine ⟨fun _ => ⟨?_, ?_⟩, fun j w₁ hj hw₁ => ?_, fun j w₁ result₁ hj hw₁ => ?_⟩
  · rw [node_setHeld, hnode, nodeAfter_append, ← hunderway.first]
    exact hafter.symm
  · unfold requestsAfter
    rw [hturns, hunderway.requests, hrequests]
    unfold Deed.requestsOf
    rw [List.flatMap_append, List.flatMap_singleton]
  · have hji : j ≠ i := fun hji => by
      rw [hji, Function.update_self] at hw₁
      cases hw₁
    rw [Function.update_of_ne hji] at hw₁
    exact absurd (eq_of_inside hl hj hi hw₁) hji
  · rw [hturns]
    by_cases hji : j = i
    · subst hji
      rw [Function.update_self] at hw₁
      cases hw₁
      exact ⟨_, List.mem_append_right _ List.mem_cons_self, rfl, rfl⟩
    · rw [Function.update_of_ne hji] at hw₁
      obtain ⟨d, hd, hcall⟩ := hs.past j w₁ result₁ hj hw₁
      exact ⟨d, by rwa [hturns] at hd, hcall⟩

namespace InOrder

omit [DecidableEq ι] in
/-- A call knows its node while it is at work. What it has seen of it is what it is. -/
theorem knows (hinv : InOrder engine calls c₀ c log role) (i : ι) :
    ((calls i).dialogue engine c₀).knows (role i) c := by
  cases hrole : role i with
  | inside w => exact ((hinv.site (calls i).handle).busy i w rfl hrole).1
  | waiting | left => trivial

/-- What remains to be shown of a happening, when it is one of a call on some node. The other sites
follow by `Site.congr`. -/
theorem of_site {happening : Crew.Happening Controller Call fun _ => Answer} {v : Visit Outcome}
    (hinv : InOrder engine calls c₀ c log role)
    (hlocks : Locks c' (Function.update (fun j => (role j).inside? (calls j).handle) i
      (v.inside? (calls i).handle)))
    (hgrown : Registry.Grown c₀.registry c'.registry)
    (horder : if takes (calls i).handle happening then role i = .waiting else role i ≠ .waiting)
    (hv : v ≠ .waiting) (hothers : ∀ h, h ≠ (calls i).handle → c'.cell h = c.cell h)
    (hsite : Site engine calls c₀ (calls i).handle
      (callsOn calls (calls i).handle (lockOrder calls (log ++ [(i, happening)])))
      (requestsOn calls (calls i).handle (log ++ [(i, happening)])) c' (Function.update role i v)) :
    InOrder engine calls c₀ c' (log ++ [(i, happening)]) (Function.update role i v) where
  locks := by
    rw [inside_update]
    exact hlocks
  grown := hgrown
  nodup := by
    cases htakes : takes (calls i).handle happening with
    | false =>
      rw [lockOrder_of_not_takes htakes]
      exact hinv.nodup
    | true =>
      rw [htakes, if_pos rfl] at horder
      rw [lockOrder_of_takes htakes, List.nodup_append]
      refine ⟨hinv.nodup, List.pairwise_singleton _ i, fun a ha b hb hab => ?_⟩
      obtain rfl := List.mem_singleton.mp hb
      subst hab
      exact (hinv.taken a).mp ha horder
  taken j := by
    have htaken (hji : j ≠ i) :
        Function.update role i v j ≠ .waiting ↔ j ∈ lockOrder calls log := by
      rw [Function.update_of_ne hji]
      exact (hinv.taken j).symm
    cases htakes : takes (calls i).handle happening with
    | false =>
      rw [htakes, if_neg Bool.false_ne_true] at horder
      rw [lockOrder_of_not_takes htakes]
      by_cases hji : j = i
      · subst hji
        rw [Function.update_self]
        exact iff_of_true ((hinv.taken j).mpr horder) hv
      · exact (htaken hji).symm
    | true =>
      rw [lockOrder_of_takes htakes, List.mem_append, List.mem_singleton]
      by_cases hji : j = i
      · subst hji
        rw [Function.update_self]
        exact iff_of_true (.inr rfl) hv
      · rw [htaken hji]
        exact or_iff_left hji
  site h := by
    by_cases hh : h = (calls i).handle
    · subst hh
      exact hsite
    have hcalls : callsOn calls h (lockOrder calls (log ++ [(i, happening)]))
        = callsOn calls h (lockOrder calls log) := by
      cases htakes : takes (calls i).handle happening with
      | false => rw [lockOrder_of_not_takes htakes]
      | true => rw [lockOrder_of_takes htakes, callsOn_concat_other (Ne.symm hh)]
    rw [hcalls, requestsOn_other (Ne.symm hh)]
    refine (hinv.site h).congr (hothers h hh) fun j hj =>
      Function.update_of_ne (fun hji => ?_) _ _
    rw [hji] at hj
    exact hh hj.symm

/-- **Whatever happens to a call, the calls stay in order.** The cases are those of `Visit.Happens`:
the call takes its lock, it is at work, or it gives the lock back. Each is a lemma about the site of
the node (`Site.enter`, `Site.work`, `Site.leave`), and `InOrder.of_site` puts it together with what
is known of the other nodes. -/
theorem advances (hinv : InOrder engine calls c₀ c log role)
    {happening : Crew.Happening Controller Call fun _ => Answer} {v : Visit Outcome}
    (hadvances : Crew.Advances (fun call answer => answer = engine call.anonymous)
      ((calls i).dialogue engine c₀) (role i) c happening c' v) :
    InOrder engine calls c₀ c' (log ++ [(i, happening)]) (Function.update role i v) := by
  have hsite := hinv.site (calls i).handle
  generalize hv₀ : role i = v₀ at hadvances
  cases Visit.happens_of_advances (hv₀ ▸ hinv.knows i) hadvances with
  | enters hfree =>
    have htakes := takes_setHeld_true hfree
    have hout : (role i).inside? (calls i).handle = none := by rw [hv₀]; rfl
    refine hinv.of_site (hinv.locks.enter hout hfree) hinv.grown ?_ nofun
      (fun h hh => cell_setHeld_of_ne true c hh) ?_
    · rw [htakes]
      exact hv₀
    · rw [lockOrder_of_takes htakes, callsOn_concat, requestsOn_self]
      show Site _ _ _ _ _ (_ ++ []) _ _
      rw [List.append_nil]
      exact hsite.enter hinv.locks hfree
  | @works w w' _ _ _ hc hw =>
    obtain ⟨-, hheld, hothers⟩ := working_cell hc hw
    have htakes : takes (calls i).handle happening = false := by
      cases hw with
      | moved hmoves => exact takes_of_held hheld
      | put hasks => rfl
      | answered ht hhears => rfl
    have hlocks : Locks c' fun j => (role j).inside? (calls j).handle := by
      refine hinv.locks.congr fun h => ?_
      by_cases hh : h = (calls i).handle
      · rw [hh]
        exact hheld
      · rw [hothers h hh]
    refine hinv.of_site ?_ ?_ ?_ nofun hothers ?_
    · have hsame : (Visit.inside w' : Visit Outcome).inside? (calls i).handle
          = (role i).inside? (calls i).handle := by
        rw [hv₀]
        rfl
      rw [hsame, Function.update_eq_self]
      exact hlocks
    · obtain ⟨-, earlier, -, hunderway⟩ := hsite.busy i w rfl hv₀
      exact (hunderway.advances hinv.grown hw).2
    · rw [htakes, hv₀]
      nofun
    · rw [lockOrder_of_not_takes htakes, requestsOn_self]
      exact hsite.work hinv.locks hinv.grown hv₀ hw
  | @leaves w _ result hc hwait hpost =>
    have htakes := takes_setHeld_false (h := (calls i).handle) c
    have hin : (role i).inside? (calls i).handle = some (calls i).handle := by rw [hv₀]; rfl
    refine hinv.of_site (hinv.locks.leave hin) hinv.grown ?_ nofun
      (fun h hh => cell_setHeld_of_ne false c hh) ?_
    · rw [htakes, hv₀]
      nofun
    · rw [lockOrder_of_not_takes htakes, requestsOn_self]
      show Site _ _ _ _ _ (_ ++ []) _ _
      rw [List.append_nil]
      exact hsite.leave hinv.locks hv₀ hwait hpost

end InOrder

end Sites

/-! ## One after another

From the invariant at the end of a run to the statement about it: calls that have ended are those in
the order of the lock, and each has given what it would have given then. -/

section Serial

variable (engine : Call → Answer) (calls : ι → NodeCall) (c₀ : Controller)

/-- The deeds of the calls on the node under a handle. Their order is kept. -/
def deedsOn (h : NodeHandle) (deeds : List (Deed ι)) : List (Deed ι) :=
  deeds.filter fun d => (calls d.call).handle = h

/-- **Calls side by side are as good as made one after another**, in the order in which they took
their locks. The list of calls that have taken their locks is compared with what has been seen of
the calls so far, so the statement is not only about the end of a run. A call that is still at work
has sent the beginning of its requests, and it is the last of its node in the order. -/
structure AsInTurn (crew : NodeCrew ι) : Prop where
  /-- No call takes its lock twice. -/
  nodup : (lockOrder calls crew.log).Nodup
  /-- The requests about a node are sent one at a time. -/
  single : ∀ i j, (calls i).handle = (calls j).handle → (crew.stand i).question?.isSome = true →
    (crew.stand j).question?.isSome = true → i = j
  /-- They are the beginning of those that are sent if the calls are made one after another. -/
  requests : ∀ h, requestsOn calls h crew.log
    <+: Deed.requestsOf (deedsOn calls h (inTurn engine calls c₀ (lockOrder calls crew.log)))
  /-- When the calls on a node have ended, its lock is free. -/
  free : ∀ h, (∀ i, (calls i).handle = h → (crew.stand i).ended = true) →
    (crew.state.cell h).held = false
  /-- While the lock of a node is free, the requests about it and the node itself are as if the
  calls had been made one after another. -/
  settled : ∀ h, (crew.state.cell h).held = false →
    requestsOn calls h crew.log
        = Deed.requestsOf (deedsOn calls h (inTurn engine calls c₀ (lockOrder calls crew.log)))
      ∧ crew.state.node h = (afterTurns engine calls c₀ (lockOrder calls crew.log)).node h
  /-- What a call returns is what it returns then. -/
  results : ∀ i result, (crew.stand i).result? = some result →
    ∃ d ∈ inTurn engine calls c₀ (lockOrder calls crew.log), d.call = i ∧ d.result = some result
  /-- Calls on other nodes need not be made for that, and those on a node do nothing to others. -/
  apart : ∀ h, let own := callsOn calls h (lockOrder calls crew.log)
    deedsOn calls h (inTurn engine calls c₀ (lockOrder calls crew.log)) = inTurn engine calls c₀ own
      ∧ (afterTurns engine calls c₀ (lockOrder calls crew.log)).node h
        = (afterTurns engine calls c₀ own).node h
      ∧ ∀ h', h' ≠ h → (afterTurns engine calls c₀ own).node h' = c₀.node h'

variable {engine calls c₀}

theorem call_of_mem_inTurn {c : Controller} {order : List ι} {d : Deed ι}
    (hd : d ∈ inTurn engine calls c order) : d.call ∈ order := by
  induction order generalizing c with
  | nil => exact absurd hd List.not_mem_nil
  | cons i rest ih =>
    obtain rfl | hd := List.mem_cons.mp hd
    · exact List.mem_cons_self
    · exact List.mem_cons_of_mem _ (ih hd)

theorem callsOn_callsOn (h h' : NodeHandle) (order : List ι) :
    callsOn calls h' (callsOn calls h order) = if h' = h then callsOn calls h order else [] := by
  unfold callsOn
  rw [List.filter_filter]
  split
  · rename_i hh
    subst hh
    exact List.filter_congr fun i _ => Bool.and_self _
  · rename_i hh
    refine List.filter_eq_nil_iff.mpr fun i _ hi => hh ?_
    obtain ⟨hi', hi⟩ := Bool.and_eq_true_iff.mp hi
    exact (of_decide_eq_true hi').symm.trans (of_decide_eq_true hi)

/-- **Calls on different nodes do not affect each other.** Each of them sees only its own node. -/
theorem inTurn_apart (hc : Resting c₀.registry c₀) (h : NodeHandle) (order : List ι) :
    let own := callsOn calls h order
    deedsOn calls h (inTurn engine calls c₀ order) = inTurn engine calls c₀ own
      ∧ (afterTurns engine calls c₀ order).node h = (afterTurns engine calls c₀ own).node h
      ∧ ∀ h', h' ≠ h → (afterTurns engine calls c₀ own).node h' = c₀.node h' := by
  obtain ⟨hturns, hafter⟩ := inTurn_eq engine calls hc h order
  obtain ⟨hturns', hafter'⟩ := inTurn_eq engine calls hc h (callsOn calls h order)
  rw [callsOn_callsOn, if_pos rfl] at hturns' hafter'
  refine ⟨hturns.trans (hturns'.symm.trans ?_), hafter.trans hafter'.symm, fun h' hne => ?_⟩
  · refine List.filter_eq_self.mpr fun d hd => ?_
    exact (List.mem_filter.mp (call_of_mem_inTurn hd)).2
  · have hother := (inTurn_eq engine calls hc h' (callsOn calls h order)).2
    rw [callsOn_callsOn, if_neg hne] at hother
    exact hother

variable {crew : NodeCrew ι} {role : ι → Visit Outcome}

theorem inside_eq_some {α : Type} {v : Visit α} {h h' : NodeHandle} (hv : v.inside? h' = some h) :
    ∃ w, v = .inside w ∧ h' = h := by
  cases v with
  | inside w => exact ⟨w, rfl, Option.some.inj hv⟩
  | waiting | left => cases hv

/-- A call that waits for an answer is at work. Only an operation at work asks anything. -/
theorem inside_of_question {i : ι}
    (hfollows : (crew.stand i).Follows ((calls i).dialogue engine c₀)
      (fun v result => ∃ w, v = .left w result) (role i))
    (hquestion : (crew.stand i).question?.isSome = true) : ∃ w, role i = .inside w := by
  cases hstand : crew.stand i with
  | asked call next abandon =>
    rw [hstand] at hfollows
    obtain ⟨v, ⟨w, w', hrole, -, -⟩, -⟩ := hfollows (.ok .null)
    exact ⟨w, hrole⟩
  | live p =>
    rw [hstand] at hquestion
    cases hquestion
  | abandoned =>
    rw [hstand] at hquestion
    cases hquestion

/-- A call that has ended has left its node, with its result. It was not abandoned, as nobody is. -/
theorem left_of_ended {i : ι}
    (hfollows : (crew.stand i).Follows ((calls i).dialogue engine c₀)
      (fun v result => ∃ w, v = .left w result) (role i))
    (hended : (crew.stand i).ended = true) :
    ∃ w result, role i = .left w result ∧ (crew.stand i).result? = some result := by
  obtain ⟨result, hresult, w, hrole⟩ := hfollows.of_ended hended
  exact ⟨w, result, hrole, hresult⟩

/-- The invariant says that the calls are as good as made one after another. Results and requests
are looked up in the sites. What is left is to see that the deeds on one node among all calls in
turn are those of the calls on it alone, and this is `inTurn_eq`. -/
theorem InOrder.asInTurn (hc : Resting c₀.registry c₀)
    (hinv : InOrder engine calls c₀ crew.state crew.log role)
    (hfollows : ∀ i, (crew.stand i).Follows ((calls i).dialogue engine c₀)
      (fun v result => ∃ w, v = .left w result) (role i)) : AsInTurn engine calls c₀ crew where
  nodup := hinv.nodup
  single i j hij hi hj := by
    obtain ⟨w, hi⟩ := inside_of_question (hfollows i) hi
    obtain ⟨w', hj⟩ := inside_of_question (hfollows j) hj
    exact eq_of_inside hinv.locks hij hj hi
  requests h := by
    rw [deedsOn, (inTurn_eq engine calls hc h _).1]
    by_cases hfree : (crew.state.cell h).held = false
    · exact ((hinv.site h).free hfree).2 ▸ List.prefix_rfl
    -- the call that has the lock has sent the beginning of what it would send alone
    obtain ⟨i, hi⟩ := (hinv.locks.held h).mp (eq_true_of_ne_false hfree)
    obtain ⟨w, hw, rfl⟩ := inside_eq_some hi
    obtain ⟨-, earlier, horder, hunderway⟩ := (hinv.site _).busy i w rfl hw
    rw [horder, nodeTurns_concat, ← hunderway.first, hunderway.requests]
    unfold Deed.requestsOf
    rw [List.flatMap_append, List.flatMap_singleton]
    exact (List.prefix_append_right_inj _).mpr hunderway.agrees
  free h hended := hinv.locks.free_of_not_inside fun i hi => by
    obtain ⟨w, hw, rfl⟩ := inside_eq_some hi
    obtain ⟨w', result, hleft, -⟩ := left_of_ended (hfollows i) (hended i rfl)
    rw [hw] at hleft
    cases hleft
  settled h hfree := by
    obtain ⟨hturns, hafter⟩ := inTurn_eq engine calls hc h
      (lockOrder calls crew.log)
    rw [deedsOn, hturns, hafter]
    obtain ⟨hnode, hrequests⟩ := (hinv.site h).free hfree
    exact ⟨hrequests, hnode⟩
  results i result hresult := by
    obtain ⟨w, result', hleft, hresult'⟩ :=
      left_of_ended (hfollows i) (Crew.ended_of_result hresult)
    obtain rfl : result' = result := Option.some.inj (hresult'.symm.trans hresult)
    obtain ⟨d, hd, hcall⟩ := (hinv.site _).past i w result' rfl hleft
    rw [← (inTurn_eq engine calls hc _ _).1] at hd
    exact ⟨d, (List.mem_filter.mp hd).1, hcall⟩
  apart h := inTurn_apart hc h _

/-- **Calls on nodes are serializable.** Any number of calls perform operations on nodes, each with
the lock of its node, and their steps mix in any way. If nothing else is going on and every engine's
answer is a function of the request, then the calls are as good as made one after another in the
order in which they took their locks. Nothing is assumed of the operations, which may be any of
those that a node offers, nor of the state of the nodes: they may be pending or deleted, and a call
may be refused without a request. The schedule may be unfair, and it may end while calls are at
work. -/
theorem calls_serial [DecidableEq ι] (engine : Call → Answer) (calls : ι → NodeCall)
    (c : Controller) (hlocks : ∀ h, (c.cell h).held = false) (hregistry : c.registry.held = false)
    (schedule : List ι) :
    AsInTurn engine calls c
      ((nodeCrew calls c).run (schedule.map fun i => (i, promptTurn engine))) := by
  have hstart : InOrder engine calls c c [] (fun _ => .waiting) := by
    refine ⟨.of_free hlocks, .refl _, List.nodup_nil, fun i => ?_,
      fun h => ⟨fun _ => ⟨rfl, rfl⟩, ?_, ?_⟩⟩
    · exact iff_of_false List.not_mem_nil fun hne => hne rfl
    · exact fun _ _ _ hw => nomatch hw
    · exact fun _ _ _ _ hw => nomatch hw
  have hfollows (i : ι) : ((nodeCrew calls c).stand i).Follows ((calls i).dialogue engine c)
      (fun v result => ∃ w, v = .left w result) .waiting :=
    withNode_follows (Node.nodeOp_twins (calls i).step)
      ((Node.nodeOp_twins (calls i).step).agrees c.registry.reach engine)
  have hpatient : ∀ t ∈ schedule.map fun i => (i, promptTurn engine),
      t.2.Patient fun call answer => answer = engine call.anonymous := by
    intro t ht
    obtain ⟨i, -, rfl⟩ := List.mem_map.mp ht
    exact fun _ => rfl
  obtain ⟨role, hinv, hfollows⟩ := Crew.run_keeps (fun i => (calls i).dialogue engine c)
    (fun _ v result => ∃ w, v = .left w result) (InOrder engine calls c)
    (fun _ _ _ hinv i => hinv.knows i) (fun _ _ _ hinv _ _ _ _ hadvances => hinv.advances hadvances)
    hstart hfollows hpatient
  exact hinv.asInTurn ⟨hlocks, hregistry, .refl _⟩ hfollows

/-- Of two calls on one node, the one that destroys the node takes the lock first here. The other
one waits for it, and then finds no node to start; no request is sent for it. -/
theorem start_after_destroy :
    let spec : NodeSpec := { id := default, nodeType := .vpcs, name := "pc1" }
    let node : Node := { Node.draft default "captures" "local" spec with status := .created }
    let c := ((initial default).setRegistry Registry.lab).setCell 0 { node }
    let calls : Bool → NodeCall := fun first => ⟨0, if first then .destroy else .act .start⟩
    let engine : Call → Answer := fun _ => .ok .null
    let crew := (nodeCrew calls c).run
      (([true, false, true, true, true, false, true, true] ++ List.replicate 8 true
        ++ List.replicate 8 false).map fun i => (i, promptTurn engine))
    ((∀ h, (c.cell h).held = false) ∧ c.registry.held = false) ∧ AsInTurn engine calls c crew
      ∧ lockOrder calls crew.log = [true, false] ∧ (requestsOn calls 0 crew.log).length = 1
      ∧ (crew.stand true).result?.any (·.toBool) = true
      ∧ (crew.stand false).result?.any (!·.toBool) = true := by
  intro spec node c calls engine crew
  have hlocks (h : NodeHandle) : (c.cell h).held = false := by
    by_cases hh : h = 0
    · subst hh
      exact congrArg NodeCell.held (cell_setCell _ _)
    · exact congrArg NodeCell.held (cell_setCell_of_ne _ _ hh)
  refine ⟨⟨hlocks, rfl⟩, calls_serial engine calls c hlocks rfl _, ?_⟩
  decide +kernel

end Serial

end Testbed.Controller

import Testbed.Proofs.Node.Existence
import Testbed.Proofs.Node.Replay
import Testbed.Proofs.Node.SingleRequest

/-!
# What deletes a node

Who keeps a node wants to know whether it is deleted, and does not see what others do to it through
its handle. `nodeOp_deleted_iff` answers this from the operations that were performed: a node is
deleted if one of them destroyed it and succeeded, and by nothing else – not by a caller's own
deletion below the node, whatever the engine makes of that.

Destroying a node is looked at from the other side too. It succeeds unless somebody refuses it: the
registry, the engine, or the node itself, which does so if it is deleted already (`Demise`).
-/

namespace Testbed.Node

variable {n m : Node} {stages : List Stage} {log : List Exchange} {reports : List Json}
  {ending : Ending}

/-! ## Stages that nobody refuses

If no question was answered with an error, the operation did not end in one. So a failure can always
be traced to an answer. -/

/-- A question that was not answered with an error. One that was not answered at all is welcome too.
-/
def Exchange.Welcome (x : Exchange) : Prop :=
  match x with
  | ⟨_, .engine _, some (.error _)⟩ | ⟨_, .send _, some (.error _)⟩ => False
  | _ => True

/-- Stages end in an error only if a question was answered with one. They may still have been given
up. -/
theorem Staged.welcomed (h : Staged n stages log reports ending m)
    (hwelcome : ∀ x ∈ log, x.Welcome) (e : ControlError) : ending ≠ some (.error e) := by
  induction h with
  | finished => exact nofun
  | found client _ ih => exact ih (List.forall_mem_cons.mp hwelcome).2
  | confirmed client report _ ih => exact ih (List.forall_mem_cons.mp hwelcome).2
  | missing | refused => exact (List.forall_mem_singleton.mp hwelcome).elim
  | unfound | unanswered => exact nofun

/-- The engine that is looked for is the node's own. So other engines do not matter. -/
theorem Staged.looks (h : Staged n stages log reports ending m) :
    ∀ x ∈ log, ∀ id, x.question = .engine id → id = n.engine := by
  induction h with
  | finished => exact List.forall_mem_nil _
  | found client _ ih =>
    refine List.forall_mem_cons.mpr ⟨?_, ih⟩
    rintro _ ⟨⟩
    rfl
  | missing | unfound =>
    refine List.forall_mem_singleton.mpr ?_
    rintro _ ⟨⟩
    rfl
  | @confirmed n m stage rest log reports ending client report _ ih =>
    refine List.forall_mem_cons.mpr ⟨nofun, fun x hx id hid => ?_⟩
    have hengine : (stage.confirm report n).engine = n.engine :=
      congrArg (fun identity => identity.2.2.1) (confirm_identity stage report n)
    exact (ih x hx id hid).trans hengine
  | refused | unanswered => exact List.forall_mem_singleton.mpr nofun

/-! ## Destroying

Destroying a node, with its one request and what becomes of the node. It is told by whether the
request was confirmed. -/

/-- **What comes of destroying a node**, from the exchanges and from how far it has come. The
reasons for a failure are listed, and they are exhaustive: whoever destroys a node and fails finds
one of them in the exchanges or in the node. -/
structure Demise (n : Node) (log : List Exchange) (ending : Option Bool) (after : Node) : Prop where
  /-- If it succeeds the node is deleted, and was not before. -/
  success : ending = some true → n.status ≠ .deleted ∧ after.status = .deleted
  /-- If it does not, the node is as it was. -/
  failure : ending ≠ some true → after = n
  /-- There is at most one request. -/
  single : (sent log).length ≤ 1
  /-- The engine that is looked for is the node's own. -/
  looks : ∀ x ∈ log, ∀ id, x.question = .engine id → id = n.engine
  /-- If nobody else refuses, the node does, because it is deleted. -/
  refused : (∀ x ∈ log, x.Welcome) → ending = some false → n.status = .deleted

/-- Destroying a node that is not deleted. A pending node sends nothing. -/
theorem Staged.demise (h : Staged n [.destroy] log reports ending m) (hn : n.status ≠ .deleted) :
    Demise n log (ending.map Except.toBool) m where
  success := by
    intro hended
    obtain ⟨-, -, rfl⟩ | ⟨-, hending, -⟩ := h.destroyed
    · exact ⟨hn, rfl⟩
    · rcases ending with _ | (e | ⟨⟩)
      · cases hended
      · cases hended
      · exact absurd rfl hending
  failure := by
    intro hended
    obtain ⟨-, rfl, -⟩ | ⟨-, -, rfl⟩ := h.destroyed
    · exact absurd rfl hended
    · rfl
  single := h.sent_length_le
  looks := h.looks
  refused := by
    intro hwelcome hended
    rcases ending with _ | (e | ⟨⟩)
    · cases hended
    · exact absurd rfl (h.welcomed hwelcome e)
    · cases hended

/-- **Destroying a node** succeeds unless somebody refuses it. A caller who destroys a pending node
always succeeds, without any exchange. -/
theorem destroy_demise (n : Node) :
    destroy.run.Meets n fun u => Demise n u.exchanges (ended u) u.after := by
  refine (destroy_performed n).mono fun u hu => ?_
  rw [← ended_give (fun _ => Outcome.done) u]
  show Demise n (give (fun _ => Outcome.done) u).exchanges _ (give (fun _ => Outcome.done) u).after
  generalize give (fun _ => Outcome.done) u = t at hu
  unfold agenda at hu
  cases hstatus : n.status with
  | deleted =>
    rw [hstatus] at hu
    obtain rfl := hu
    exact ⟨nofun, fun _ => rfl, Nat.zero_le 1, List.forall_mem_nil _, fun _ _ => hstatus⟩
  | pending =>
    rw [hstatus] at hu
    obtain rfl := hu
    refine ⟨fun _ => ⟨?_, rfl⟩, fun hended => absurd rfl hended, Nat.zero_le 1,
      List.forall_mem_nil _, nofun⟩
    rw [hstatus]
    exact nofun
  | created | started | stopped | suspended =>
    rw [hstatus] at hu
    obtain ⟨reports, ending, hstaged, hended⟩ := Yields.ended hu
    rw [hended]
    exact hstaged.demise (by rw [hstatus]; exact nofun)

/-! ## All operations

No other operation deletes a node, and none brings it back. -/

/-- Agendas of other operations neither delete a node nor revive it. Requests that a caller puts
together may delete it on the engine, and here nothing is noticed. -/
theorem Arises.keeps_deleted {step : NodeStep} {a : Agenda} (ha : Arises n step a)
    (hstep : step ≠ .destroy) : a.Keeps (fun m => m.status = .deleted ↔ n.status = .deleted) n := by
  have hcreated (h : n.status.isCreated = true) : n.status ≠ .deleted := (isCreated_iff.mp h).2
  cases ha with
  | refused => trivial
  | looked => exact Iff.rfl
  | buried | destroyed => exact absurd rfl hstep
  | created h =>
    refine fun report => ⟨iff_of_false nofun ?_, trivial⟩
    rw [h]
    exact nofun
  | acted a h =>
    refine fun report => ⟨iff_of_false ?_ (hcreated h), trivial⟩
    cases a with
    | reload => exact hcreated h
    | start | stop | suspend | resume => exact nofun
  | updated changes h =>
    refine keptBy_of_forall ?_ Iff.rfl
    refine forall_mem_updateStages (fun keys report m hm => ?_) (fun _ _ _ _ hm => hm)
      (fun _ _ _ hm => hm) (fun _ _ _ hm => hm) n changes
    show ((m.applyKeys keys.entries).merge report).status = .deleted ↔ _
    rw [merge_status, applyKeys_status]
    exact hm
  | bound | unbound | captureStarted | captureStopped | posted | deleted =>
    exact fun report => ⟨Iff.rfl, trivial⟩

/-- **Only destroying a node deletes it**, and only if it succeeds. The deletion of a node is
therefore visible to whoever performs its operations, and invisible to whoever only keeps its
handle. That is why a project may go on to keep a node that is gone. -/
theorem nodeOp_deleted_iff (n : Node) (step : NodeStep) :
    (Scenario.nodeOp step).run.Meets n fun u =>
      u.after.status = .deleted ↔ n.status = .deleted ∨ step = .destroy ∧ ended u = some true := by
  by_cases hstep : step = .destroy
  · subst hstep
    refine meets_map.mpr ((destroy_demise n).mono fun u hu => ?_)
    rw [ended_give]
    show u.after.status = .deleted ↔ _
    by_cases hended : ended u = some true
    · exact iff_of_true (hu.success hended).2 (.inr ⟨rfl, hended⟩)
    · rw [hu.failure hended]
      exact (or_iff_left fun h => hended h.2).symm
  · refine (nodeOp_performed n step).mono fun u hu => ?_
    rw [or_iff_left fun h => hstep h.1]
    exact (hu.throughout Iff.rfl ((agenda_arises n step).keeps_deleted hstep)).2

/-- No operation changes the identity of a node. The engine may report another one, which is not
taken over. -/
theorem nodeOp_identity (n : Node) (step : NodeStep) :
    (Scenario.nodeOp step).run.Meets n fun u => u.after.identity = n.identity :=
  (nodeOp_performed n step).mono fun _ hu =>
    (hu.throughout (P := fun m => m.identity = n.identity) rfl
      ((agenda_arises n step).keeps_identity rfl)).2

end Testbed.Node

import Testbed.Proofs.Node.Destruction

/-!
# The lifecycle of a node

A node is drawn up, created, started and stopped at will, and deleted for good. `NodeStatus.Moves`
is that diagram, and `lifecycle_followed` says that the life of a node follows it: the status moves
by the operation that an arrow names, when it succeeds, and by nothing else – no report moves it,
not even one that brings a status of its own.

The diagram says little about the operations that have no arrow where the node is. Those that need
the node to exist on its engine are refused before anything is asked, each of them by a check of its
own (`agenda_of_needsNode`), so that a node that is not there is only ever created, destroyed or
looked at. What remains of a deleted node has no bindings, since its deletion clears them and
nothing can be bound to it any more.
-/

namespace Testbed

/-- **The moves of a status**, with the operations that make them. There is no arrow that leads out
of the deleted status, and none from the drawn-up status but to the created and the deleted one. An
action of the lifecycle leads where its name says from every status of a node that exists, its own
included. -/
inductive NodeStatus.Moves : NodeStatus → NodeStep → NodeStatus → Prop
  /-- A node that was drawn up is created. -/
  | created : Moves .pending .create .created
  /-- A node that exists goes where an action of the lifecycle leads. -/
  | acted {status next : NodeStatus} {a : Node.Action} (h : status.isCreated = true)
      (hnext : a.next? = some next) : Moves status (.act a) next
  /-- A node is deleted, whether it was ever created or not. -/
  | deleted {status : NodeStatus} (h : status ≠ .deleted) : Moves status .destroy .deleted

namespace NodeStatus

variable {status next : NodeStatus}

@[simp] theorem moves_create : Moves status .create next ↔ status = .pending ∧ next = .created :=
  ⟨by rintro ⟨⟩; exact ⟨rfl, rfl⟩, by rintro ⟨rfl, rfl⟩; exact .created⟩

@[simp] theorem moves_act {a : Node.Action} :
    Moves status (.act a) next ↔ status.isCreated = true ∧ a.next? = some next :=
  ⟨by rintro ⟨⟩; exact ⟨‹_›, ‹_›⟩, fun h => .acted h.1 h.2⟩

@[simp] theorem moves_destroy : Moves status .destroy next ↔ status ≠ .deleted ∧ next = .deleted :=
  ⟨by rintro ⟨⟩; exact ⟨‹_›, rfl⟩, by rintro ⟨h, rfl⟩; exact .deleted h⟩

/-- No arrow leads out of the deletion. A node that is gone stays gone. -/
theorem not_moves_deleted {step : NodeStep} : ¬ Moves .deleted step next := by
  rintro ⟨⟩
  · contradiction
  · contradiction

end NodeStatus

/-- Whether an operation needs the node to exist on its engine. All do but its creation and its
deletion, a caller's own requests, and looks. -/
def NodeStep.needsNode : NodeStep → Bool
  | create | destroy | post .. | delete _ | nio _ | inspect => false
  | act _ | update _ | addNio .. | removeNio _ | startCapture .. | stopCapture _ => true

namespace Node

variable {n m : Node} {step : NodeStep} {t : Record Outcome}

/-- **Nothing is bound to a node that is deleted.** While a node is not deleted, this says nothing.
-/
def Bare (n : Node) : Prop := n.status = .deleted → n.nios = .empty

/-- **The status goes by the diagram** while an operation is performed. It moves along an arrow when
the operation succeeds, stays when it does not, and is the old one at every question in between. -/
structure Charted (n : Node) (step : NodeStep) (t : Record Outcome) : Prop where
  /-- It stays as long as a question is open. -/
  waits : ∀ x ∈ t.exchanges, x.state.status = n.status
  /-- If the operation succeeds, it takes the arrow of the operation. -/
  moves : ∀ next, n.status.Moves step next → ended t = some true → t.after.status = next
  /-- If it is another one in the end, it has taken an arrow. -/
  moved : t.after.status ≠ n.status → ended t = some true ∧ n.status.Moves step t.after.status

/-- **An operation that took place heeds the lifecycle.** Besides the diagram, an operation that the
status forbids is refused with the error that names the status, without a single exchange. -/
structure Episode.Lawful (e : Episode) : Prop extends Charted e.before e.step e.record where
  /-- One that needs the node to exist, where it does not, is refused: nothing is asked and nothing
  changes. -/
  refused : e.step.needsNode = true → e.before.status.isCreated = false →
    ∃ verb, e.record = ⟨[], some (.error (.conflict
      (.notCreated verb e.before.id e.before.status))), e.before⟩
  /-- So is a second creation. -/
  once : e.step = .create → e.before.status ≠ .pending →
    e.record = ⟨[], some (.error (.conflict
      (.alreadyCreated e.before.id e.before.status))), e.before⟩
  /-- A deleted node stays deleted. -/
  final : e.before.status = .deleted → e.record.after.status = .deleted

/-! ## Where the diagram has no arrow

An operation for which the diagram has no arrow leaves the status alone, be it refused or carried
out. -/

/-- **An operation that needs the node to exist is refused where it does not.** The refusal is a
conflict and names the operation in the words of its own check. -/
theorem agenda_of_needsNode (hstep : step.needsNode = true) (h : n.status.isCreated = false) :
    ∃ verb, n.agenda step = .refuse (.conflict (.notCreated verb n.id n.status)) := by
  have hrefuse (verb : NodeVerb) (a : Agenda) :
      n.whenCreated verb a = .refuse (.conflict (.notCreated verb n.id n.status)) :=
    if_neg (Bool.eq_false_iff.mp h)
  cases step with
  | create | destroy | post | delete | nio | inspect => cases hstep
  | act a => exact ⟨a.verb, hrefuse ..⟩
  | update => exact ⟨.update, hrefuse ..⟩
  | addNio => exact ⟨.addNio, hrefuse ..⟩
  | removeNio => exact ⟨.removeNio, hrefuse ..⟩
  | startCapture => exact ⟨.startCapture, hrefuse ..⟩
  | stopCapture => exact ⟨.stopCapture, hrefuse ..⟩

/-- A status that is left alone goes by the diagram where that has no arrow. It may have succeeded
all the same, like an update. -/
theorem Charted.of_still (h : t.Throughout fun m => m.status = n.status)
    (hnone : ∀ next, ¬ n.status.Moves step next) : Charted n step t :=
  ⟨h.1, fun next hmoves => absurd hmoves (hnone next), fun hne => absurd h.2 hne⟩

/-- So does one that is left alone by an operation that fails. Nothing was sent. -/
theorem Charted.of_refused {e : ControlError} (h : (Agenda.refuse e).Performed n t) :
    Charted n step t := by
  obtain rfl := h
  exact ⟨List.forall_mem_nil _, fun _ _ => nofun, fun hne => absurd rfl hne⟩

/-- Operations that are no arrow leave the status alone. Settings and bindings may change. -/
theorem Arises.keeps_status {a : Agenda} (ha : Arises n step a)
    (hstep : ∀ status next, ¬ NodeStatus.Moves status step next) :
    a.Keeps (fun m => m.status = n.status) n := by
  cases ha with
  | refused => trivial
  | looked => rfl
  | buried | destroyed => exact absurd (.deleted nofun) (hstep .pending .deleted)
  | created => exact absurd .created (hstep .pending .created)
  | acted a =>
    refine fun report => ⟨?_, trivial⟩
    show a.next?.getD n.status = n.status
    cases hnext : a.next? with
    | none => rfl
    | some next => exact absurd (.acted rfl hnext) (hstep .created next)
  | updated changes =>
    refine keptBy_of_forall (forall_mem_updateStages (fun keys report m hm => ?_)
      (fun _ _ _ _ hm => hm) (fun _ _ _ hm => hm) (fun _ _ _ hm => hm) n changes) rfl
    show ((m.applyKeys keys.entries).merge report).status = n.status
    simp [hm]
  | bound | unbound | captureStarted | captureStopped | posted | deleted =>
    exact fun report => ⟨rfl, trivial⟩

/-! ## Where it has one

Creating, the actions and deleting are single requests. The status goes along the arrow when the
request is confirmed and stays otherwise. -/

/-- A single stage is confirmed if the operation succeeds, and otherwise changes nothing. There is
nothing in between. -/
theorem Staged.single {stage : Stage} {log : List Exchange} {reports : List Json} {ending : Ending}
    (h : Staged n [stage] log reports ending m) :
    (∃ report, m = stage.confirm report n) ∧ ending = some (.ok ())
      ∨ m = n ∧ ending ≠ some (.ok ()) := by
  by_cases hending : ending = some (.ok ())
  · generalize hstages : [stage] = stages at h
    induction h with
    | finished => cases hstages
    | found client _ ih => exact ih hending hstages
    | confirmed client report hrest =>
      cases hstages
      cases hrest
      exact .inl ⟨⟨report, rfl⟩, rfl⟩
    | missing | unfound | refused | unanswered => cases hending
  · exact .inr ⟨(h.intact (Nat.le_refl 1)).2 hending, hending⟩

/-- **A single request whose confirmation is an arrow of the diagram.** Then the operation succeeds
exactly if its request is confirmed, and that is when the status moves. -/
theorem Charted.of_single {stage : Stage} {outcome : Outcome} {next : NodeStatus}
    (hnext : ∀ s, n.status.Moves step s ↔ s = next)
    (hconfirm : ∀ report, (stage.confirm report n).status = next)
    (h : (Agenda.single stage outcome).Performed n t) : Charted n step t := by
  obtain ⟨reports, ending, hstaged, hending⟩ := Yields.ended h
  have hwaits : ∀ x ∈ t.exchanges, x.state.status = n.status := fun x hx => by
    rw [(hstaged.intact (Nat.le_refl 1)).1 x hx]
  obtain ⟨⟨report, hafter⟩, rfl⟩ | ⟨hafter, hfailed⟩ := hstaged.single
  · have hstatus : t.after.status = next := by rw [hafter, hconfirm]
    exact ⟨hwaits, fun s hs _ => hstatus.trans ((hnext s).mp hs).symm,
      fun _ => ⟨hending, (hnext _).mpr hstatus⟩⟩
  · refine ⟨hwaits, fun s _ hok => ?_, fun hne => absurd (congrArg Node.status hafter) hne⟩
    -- an operation that did not get its stage confirmed does not succeed
    rw [hok] at hending
    rcases ending with _ | (e | ⟨⟩)
    · cases hending
    · cases hending
    · exact absurd rfl hfailed

theorem create_charted (h : (n.agenda .create).Performed n t) : Charted n .create t := by
  by_cases hpending : n.status = .pending
  · rw [agenda, if_pos hpending] at h
    exact .of_single (by simp [hpending]) (fun _ => rfl) h
  · rw [agenda, if_neg hpending] at h
    exact .of_refused h

theorem act_charted {a : Action} (h : (n.agenda (.act a)).Performed n t) :
    Charted n (.act a) t := by
  by_cases hcreated : n.status.isCreated = true
  · rw [agenda, whenCreated, if_pos hcreated] at h
    cases hnext : a.next? with
    | none =>
      -- a reload has no arrow
      have hnone : ∀ status next, ¬ NodeStatus.Moves status (.act a) next := by simp [hnext]
      exact .of_still (h.throughout rfl ((Arises.acted a hcreated).keeps_status hnone))
        (hnone n.status)
    | some next =>
      have hmoves : ∀ s, n.status.Moves (.act a) s ↔ s = next := by simp [hcreated, hnext, eq_comm]
      refine .of_single hmoves (fun report => ?_) h
      show a.next?.getD n.status = next
      simp [hnext]
  · rw [agenda, whenCreated, if_neg hcreated] at h
    exact .of_refused h

theorem destroy_charted (h : (n.agenda .destroy).Performed n t) : Charted n .destroy t := by
  unfold agenda at h
  cases hstatus : n.status with
  | deleted =>
    rw [hstatus] at h
    exact .of_refused h
  | pending =>
    -- a node that was never created is deleted without a request
    rw [hstatus] at h
    obtain rfl := h
    exact ⟨List.forall_mem_nil _, by simp [hstatus, buried],
      fun _ => ⟨rfl, by simp [hstatus, buried]⟩⟩
  | created | started | stopped | suspended =>
    rw [hstatus] at h
    exact .of_single (by simp [hstatus]) (fun _ => rfl) h

/-- **Every operation goes by the diagram.** The proof goes through the agendas, not through the
operations: an update may send many requests, and none of their confirmations touches the status. -/
theorem perform_charted (n : Node) (turn : Turn) : Charted n turn.1 (n.perform turn) := by
  have hperformed := n.perform_performed turn
  generalize n.perform turn = t at hperformed ⊢
  have hstill (hstep : ∀ status next, ¬ NodeStatus.Moves status turn.1 next) :
      Charted n turn.1 t :=
    .of_still (hperformed.throughout rfl ((n.agenda_arises turn.1).keeps_status hstep))
      (hstep n.status)
  cases hturn : turn.1 with
  | create => exact create_charted (hturn ▸ hperformed)
  | act a => exact act_charted (hturn ▸ hperformed)
  | destroy => exact destroy_charted (hturn ▸ hperformed)
  | update | post | delete | addNio | removeNio | nio | startCapture | stopCapture | inspect =>
    rw [hturn] at hstill
    exact hstill (by rintro status next ⟨⟩)

/-! ## The life of a node

Every operation by itself heeds the lifecycle, and a life consists of operations. What is asked of a
deleted node is added to that. -/

/-- Every operation of a node heeds the lifecycle. The state of the node before does not matter. -/
theorem perform_lawful (n : Node) (turn : Turn) :
    Episode.Lawful ⟨n, turn.1, n.perform turn⟩ where
  toCharted := n.perform_charted turn
  refused hstep hcreated := by
    obtain ⟨verb, hagenda⟩ := agenda_of_needsNode hstep hcreated
    have hperformed := n.perform_performed turn
    rw [hagenda] at hperformed
    exact ⟨verb, hperformed⟩
  once hstep hpending := by
    have hperformed := n.perform_performed turn
    rw [show turn.1 = .create from hstep, agenda, if_neg hpending] at hperformed
    exact hperformed
  final hdeleted := by
    by_contra hne
    have hdeleted : n.status = .deleted := hdeleted
    obtain ⟨-, hmoves⟩ := (n.perform_charted turn).moved (by rw [hdeleted]; exact hne)
    rw [hdeleted] at hmoves
    exact NodeStatus.not_moves_deleted hmoves

/-- Nothing is bound to a node that is deleted, or is left bound to it. Its deletion takes the
bindings along. -/
theorem Arises.keeps_bare {a : Agenda} (ha : Arises n step a) (h : n.Bare) : a.Keeps Bare n := by
  -- a node that exists goes on existing through the stages that do not delete it
  have hexists (hcreated : n.status.isCreated = true) {stages : List Stage}
      (hgentle : ∀ stage ∈ stages, stage.isGentle = true) : KeptBy Bare n stages :=
    (keptBy_of_forall (P := fun m => m.status.isCreated = true)
      (fun stage hstage report m => Stage.confirm_isCreated (hgentle stage hstage) report)
      hcreated).mono fun m hm hdeleted => absurd hdeleted (isCreated_iff.mp hm).2
  have hsingle {stage : Stage} (hgentle : stage.isGentle = true) :
      ∀ s ∈ [stage], s.isGentle = true := List.forall_mem_singleton.mpr hgentle
  cases ha with
  | refused => trivial
  | looked => exact h
  | buried => exact fun _ => rfl
  | destroyed => exact fun report => ⟨fun _ => rfl, trivial⟩
  | created => exact fun report => ⟨nofun, trivial⟩
  | posted | deleted => exact fun report => ⟨h, trivial⟩
  | updated changes hcreated =>
    exact hexists hcreated (forall_mem_updateStages (fun _ => rfl) (fun _ _ => rfl) (fun _ => rfl)
      (fun _ => rfl) n changes)
  | acted a hcreated => exact hexists hcreated (hsingle rfl)
  | bound hcreated | unbound hcreated => exact hexists hcreated (hsingle rfl)
  | captureStarted _ _ hcreated | captureStopped _ hcreated =>
    exact hexists hcreated (hsingle rfl)

/-- What holds of every operation on every node holds all through a life. It is why single
operations are enough. -/
theorem forall_mem_life {P : Episode → Prop} (h : ∀ n turn, P ⟨n, turn.1, perform n turn⟩)
    (n : Node) (turns : List Turn) : ∀ e ∈ n.life turns, P e := by
  induction turns generalizing n with
  | nil => exact List.forall_mem_nil _
  | cons turn rest ih => exact List.forall_mem_cons.mpr ⟨h n turn, ih _⟩

/-- **The life of a node follows the lifecycle**: whatever engines answer and report, the status
moves along the arrows of the diagram only, by operations that succeed; an operation that needs the
node to exist where it does not is refused before anything is asked; and nothing is ever bound to a
node that is deleted.

The node is one that has just been drawn up, and the operations are any, with any outside each. What
an engine says of the status of the machine is not taken over, so that a hostile engine can move the
status by confirming and refusing only. -/
theorem lifecycle_followed (project : Uuid) (captureDir : OsPath) (engine : String)
    (spec : NodeSpec) (turns : List Turn) :
    let n := draft project captureDir engine spec
    Always Bare n turns ∧ ∀ e ∈ n.life turns, e.Lawful := by
  intro n
  have hbare : n.Bare := by rintro ⟨⟩
  exact ⟨always_of_keeps (fun n step => (n.agenda_arises step).keeps_bare) hbare turns,
    forall_mem_life perform_lawful n turns⟩

/-- An engine that is found and reports a status and an identity of its own. Both are answered to
any request. -/
def presumptuous : Outside := fun _ question =>
  match question with
  | .engine _ => some (.ok (.supplied "engine"))
  | .send _ => some (.ok (.mkObj [("status", .str "deleted"), ("vm_id", .str "other")]))

/-- A node that its engine reports as deleted is started all the same, and is not started again once
it has been deleted. -/
theorem lifecycle_of_misreported :
    let turns : List Turn := [(.create, presumptuous), (.act .start, presumptuous),
      (.destroy, presumptuous), (.act .start, presumptuous), (.create, presumptuous)]
    let n := draft default "captures" "engine"
      { id := default, nodeType := .vpcs, name := "node" }
    (n.life turns).map (fun e => (e.record.after.status, ended e.record))
        = [(.created, some true), (.started, some true), (.deleted, some true),
          (.deleted, some false), (.deleted, some false)]
      ∧ ∀ e ∈ n.life turns, e.Lawful := by
  intro turns n
  exact ⟨by decide +kernel, (lifecycle_followed _ _ _ _ turns).2⟩

end Node

end Testbed

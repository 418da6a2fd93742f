import Testbed.Proofs.Node.Life
import Testbed.Proofs.Node.Paths

/-!
# A node is deleted once

What an operation can do to the fact that a node exists. Destroying a node sends the one request
that deletes it, and the node is deleted exactly if the engine confirms that; of a node that is
deleted nothing is asked any more. Every other operation sends requests for other paths or with
other methods, and neither deletes the node nor revives it.

`Fate` has these facts for all operations alike, from the exchanges of an operation and from how far
it has come. It is read off the agendas.
-/

namespace Testbed

/-- Whether an operation is none of those that could delete the node. What a caller puts together
may be anything. -/
def NodeStep.isGentle : NodeStep → Bool
  | .destroy | .post .. | .delete _ => false
  | _ => true

namespace Node

open Process (meets_andThen)

/-- **The engine confirmed the deletion of a node.** That is a confirmed request to delete the very
path of the node, whoever sent it. -/
def Buries (n : Node) (log : List Exchange) : Prop :=
  ∃ m call report, (⟨m, .send call, some (.ok report)⟩ : Exchange) ∈ log
    ∧ call.request = .delete n.path

/-- **What becomes of a node's existence** by an operation, which may be the one that deletes it. A
list of exchanges and the outcome say what has become of it. -/
structure Fate (deletes : Bool) (n : Node) (log : List Exchange) (ending : Option Bool)
    (after : Node) : Prop where
  /-- A node that was created stays so or is deleted. -/
  awake : n.status ≠ .pending → ending.isSome = true → after.status ≠ .pending
  /-- Nothing is asked about a node that is deleted. -/
  silent : n.status = .deleted → ∀ x ∈ log, ∀ call, x.question ≠ .send call
  /-- It stays deleted. -/
  dead : n.status = .deleted → ending.isSome = true → after.status = .deleted
  /-- A deletion succeeds only if it is confirmed. -/
  confirmed : deletes = true → n.status ≠ .pending → ending = some true → Buries n log
  /-- If it is confirmed, it has succeeded. -/
  buried : Buries n log → deletes = true ∧ ending = some true ∧ after.status = .deleted
  /-- Nothing else asks for it. -/
  spares : deletes = false → ∀ x ∈ log, ∀ call, x.question = .send call →
    call.request ≠ .delete n.path

/-! ## Stages

Which stages may delete the node on its engine, and that the others do not ask for it. What was
confirmed is told by the exchanges alone. -/

/-- Whether a stage is none of those that could delete the node. It is the same distinction, on
stages. -/
def Stage.isGentle : Stage → Bool
  | destroy | post .. | delete _ => false
  | _ => true

variable {n m : Node} {stage : Stage} {stages : List Stage} {log : List Exchange}
  {reports : List Json} {ending : Ending}

/-- The requests of stages are for nodes of one identity. Their settings may differ. -/
theorem Staged.sends (h : Staged n stages log reports ending m) :
    ∀ x ∈ log, ∀ call, x.question = .send call →
      ∃ stage ∈ stages, ∃ k : Node, k.identity = n.identity ∧ call.request = stage.request k := by
  induction h with
  | finished => exact List.forall_mem_nil _
  | found client _ ih => exact List.forall_mem_cons.mpr ⟨nofun, ih⟩
  | missing | unfound => exact List.forall_mem_singleton.mpr nofun
  | @confirmed n m stage rest log reports ending client report _ ih =>
    refine List.forall_mem_cons.mpr ⟨?_, fun x hx call hcall => ?_⟩
    · rintro _ ⟨⟩
      exact ⟨stage, List.mem_cons_self, n, rfl, rfl⟩
    · obtain ⟨later, hlater, k, hk, hrequest⟩ := ih x hx call hcall
      exact ⟨later, List.mem_cons_of_mem _ hlater, k, hk.trans (confirm_identity stage report n),
        hrequest⟩
  | refused n stage | unanswered n stage =>
    refine List.forall_mem_singleton.mpr ?_
    rintro _ ⟨⟩
    exact ⟨stage, List.mem_cons_self, n, rfl, rfl⟩

/-- A stage that could not delete the node does not ask for it. Method or path is another. -/
theorem Stage.request_ne_delete (h : stage.isGentle = true) (hn : m.identity = n.identity) :
    stage.request m ≠ .delete n.path := by
  intro heq
  cases stage with
  | destroy | post | delete => cases h
  | unbind index =>
    have hpath : m.adapterPath index "nio" = n.path := congrArg Request.path heq
    rw [← path_congr hn] at hpath
    exact path_ne_adapterPath index "nio" hpath.symm
  | create | act | bind | push | rename | resize | startCapture | stopCapture =>
    cases congrArg Request.method heq

/-- A stage that could not delete the node leaves it as existing as it was. The report has no say in
it. -/
theorem Stage.confirm_isCreated (h : stage.isGentle = true) (report : Json)
    (hn : n.status.isCreated = true) : (stage.confirm report n).status.isCreated = true := by
  cases stage with
  | destroy | post | delete => cases h
  | create => rfl
  | act a =>
    show ((a.next?.getD n.status).isCreated = true)
    cases a with
    | reload => exact hn
    | start | stop | suspend | resume => rfl
  | push keys =>
    show (((n.applyKeys keys.entries).merge report).status.isCreated = true)
    rw [merge_status, applyKeys_status]
    exact hn
  | bind | unbind | rename | resize | startCapture | stopCapture => exact hn

theorem isCreated_iff {status : NodeStatus} :
    status.isCreated = true ↔ status ≠ .pending ∧ status ≠ .deleted := by
  cases status <;> decide

/-- Stages that could not delete the node. Whether they were carried out to the end does not matter.
-/
theorem Staged.fate (h : Staged n stages log reports ending m)
    (hstages : ∀ stage ∈ stages, stage.isGentle = true) (hn : n.status ≠ .deleted) :
    Fate false n log (ending.map Except.toBool) m := by
  have hspares : ∀ x ∈ log, ∀ call, x.question = .send call → call.request ≠ .delete n.path := by
    intro x hx call hcall
    obtain ⟨stage, hstage, k, hk, hrequest⟩ := h.sends x hx call hcall
    rw [hrequest]
    exact Stage.request_ne_delete (hstages stage hstage) hk
  refine ⟨fun hpending _ => ?_, fun hdead => absurd hdead hn, fun hdead => absurd hdead hn, nofun,
    fun hburies => ?_, fun _ => hspares⟩
  · have hcreated := isCreated_iff.mpr ⟨hpending, hn⟩
    have hkept := keptBy_of_forall (P := fun k => k.status.isCreated = true)
      (fun stage hstage report k => Stage.confirm_isCreated (hstages stage hstage) report) hcreated
    exact (isCreated_iff.mp (h.throughout hcreated hkept).2).1
  · obtain ⟨k, call, report, hmem, hrequest⟩ := hburies
    exact absurd hrequest (hspares _ hmem call rfl)

/-- A request was answered. The answer may be a failure. -/
def Replied (log : List Exchange) (call : Call) (answer : Answer) : Prop :=
  ∃ m, (⟨m, .send call, some answer⟩ : Exchange) ∈ log

theorem replied_append {later : List Exchange} {call : Call} {answer : Answer} :
    Replied (log ++ later) call answer ↔ Replied log call answer ∨ Replied later call answer := by
  unfold Replied
  rw [← exists_or]
  exact exists_congr fun m => List.mem_append

theorem not_replied_nil {call : Call} {answer : Answer} : ¬ Replied [] call answer :=
  fun ⟨_, hmem⟩ => List.not_mem_nil hmem

theorem replied_single {x : Exchange} {call : Call} {answer : Answer} :
    Replied [x] call answer ↔ ∃ m, x = ⟨m, .send call, some answer⟩ :=
  exists_congr fun _ => List.mem_singleton.trans eq_comm

/-- The deletion was confirmed if a request for it was answered well. Which node it was put for does
not come into it. -/
theorem buries_iff : Buries n log ↔
    ∃ call report, Replied log call (.ok report) ∧ call.request = .delete n.path := by
  constructor
  · rintro ⟨m, call, report, hmem, hrequest⟩
    exact ⟨call, report, ⟨m, hmem⟩, hrequest⟩
  · rintro ⟨call, report, ⟨m, hmem⟩, hrequest⟩
    exact ⟨m, call, report, hmem, hrequest⟩

/-- What was confirmed depends on the answers only. So the exchanges of a controller and of its node
are as good as each other. -/
theorem buries_congr {log' : List Exchange}
    (h : ∀ call answer, Replied log' call answer ↔ Replied log call answer) :
    Buries n log' ↔ Buries n log := by
  rw [buries_iff, buries_iff]
  exact exists_congr fun call => exists_congr fun report => and_congr_left fun _ => h call _

theorem buries_append {later : List Exchange} :
    Buries n (log ++ later) ↔ Buries n log ∨ Buries n later := by
  rw [buries_iff, buries_iff, buries_iff, ← exists_or]
  refine exists_congr fun call => ?_
  rw [← exists_or]
  refine exists_congr fun report => ?_
  rw [replied_append, or_and_right]

theorem not_buries_nil : ¬ Buries n [] := fun ⟨_, _, _, hmem, _⟩ => List.not_mem_nil hmem

/-- Nothing else than a confirmed request deletes the node. A look for the engine deletes nothing.
-/
theorem not_buries_single {x : Exchange}
    (hx : ∀ k call report, x ≠ ⟨k, .send call, some (.ok report)⟩) : ¬ Buries n [x] := by
  rintro ⟨k, call, report, hmem, -⟩
  exact hx k call report (List.mem_singleton.mp hmem).symm

/-- The stage that deletes the node is carried out, or leaves it as it was. A request that was not
answered counts for the second. -/
theorem Staged.destroyed (h : Staged n [.destroy] log reports ending m) :
    Buries n log ∧ ending = some (.ok ()) ∧ m = n.buried
      ∨ ¬ Buries n log ∧ ending ≠ some (.ok ()) ∧ m = n := by
  generalize hstages : [Stage.destroy] = stages at h
  induction h with
  | finished => cases hstages
  | @found n m stage rest log reports ending client _ ih =>
    have hsame : Buries n (⟨n, .engine n.engine, some (.ok client)⟩ :: log) ↔ Buries n log :=
      buries_append.trans (or_iff_right (not_buries_single (by rintro k call report ⟨⟩)))
    rw [hsame]
    exact ih hstages
  | confirmed client report hrest =>
    cases hstages
    cases hrest
    exact .inl ⟨⟨_, _, report, List.mem_cons_self, rfl⟩, rfl, rfl⟩
  | missing | unfound | refused | unanswered =>
    exact .inr ⟨not_buries_single (by rintro k call report ⟨⟩), nofun, rfl⟩

theorem Staged.fate_destroy (h : Staged n [.destroy] log reports ending m)
    (hn : n.status.isCreated = true) : Fate true n log (ending.map Except.toBool) m := by
  obtain ⟨hpending, hdeleted⟩ := isCreated_iff.mp hn
  obtain ⟨hburies, rfl, rfl⟩ | ⟨hburies, hending, rfl⟩ := h.destroyed
  · exact ⟨nofun, fun hdead => absurd hdead hdeleted, fun _ _ => rfl, fun _ _ _ => hburies,
      fun _ => ⟨rfl, rfl, rfl⟩, nofun⟩
  · refine ⟨fun _ _ => hpending, fun hdead => absurd hdead hdeleted,
      fun hdead => absurd hdead hdeleted, fun _ _ hok => ?_, fun hyes => absurd hyes hburies, nofun⟩
    cases ending with
    | none => cases hok
    | some result =>
      cases result with
      | ok => exact absurd rfl hending
      | error e => cases hok

/-! ## Operations

The same for whole operations, each with its own request if it has one. -/

/-- An operation that asks nothing and neither creates nor deletes the node. It may succeed or fail.
-/
theorem fate_of_quiet {deletes : Bool} (ok : Bool) (hm : m.status = n.status)
    (hok : deletes = true → ok = false) : Fate deletes n [] (some ok) m := by
  refine ⟨fun hpending _ => by rw [hm]; exact hpending, fun _ => List.forall_mem_nil _,
    fun hdead _ => hm.trans hdead, fun hdeletes _ hyes => ?_,
    fun hburies => absurd hburies not_buries_nil, fun _ => List.forall_mem_nil _⟩
  rw [hok hdeletes] at hyes
  cases hyes

/-- How far an operation has come, without what it gives. There is nothing if it was given up. -/
def ended {α : Type} (u : Record α) : Option Bool := u.result.map Except.toBool

theorem ended_eq_some_true {α : Type} {u : Record α} :
    ended u = some true ↔ ∃ a, u.result = some (.ok a) := by
  unfold ended
  rcases u.result with _ | (e | a)
  · exact iff_of_false nofun nofun
  · exact iff_of_false nofun nofun
  · exact iff_of_true rfl ⟨a, rfl⟩

/-- How far an operation that carries out stages has come is how far they were carried out. What
they give does not matter for that. -/
theorem Yields.ended {α : Type} {value : List Json → α} {u : Record α}
    (h : Yields n stages value u) :
    ∃ reports ending, Staged n stages u.exchanges reports ending u.after
      ∧ ended u = ending.map Except.toBool := by
  obtain ⟨reports, ending, hs, hresult⟩ := h
  refine ⟨reports, ending, hs, ?_⟩
  unfold Node.ended
  rw [hresult]
  rcases ending with _ | (e | ⟨⟩) <;> rfl

theorem Yields.fate {α : Type} {deletes : Bool} {value : List Json → α} {u : Record α}
    (h : Yields n stages value u)
    (hstaged : ∀ {log reports ending m}, Staged n stages log reports ending m →
      Fate deletes n log (ending.map Except.toBool) m) :
    Fate deletes n u.exchanges (Node.ended u) u.after := by
  obtain ⟨reports, ending, hs, hended⟩ := h.ended
  rw [hended]
  exact hstaged hs

/-- **An operation that is none of those that could delete the node** does not delete it. The
condition rules out destroying the node, and a caller's own requests below it, which may be for any
path there. -/
theorem nodeOp_fate {step : NodeStep} (h : step.isGentle = true) (n : Node) :
    (Scenario.nodeOp step).run.Meets n fun u => Fate false n u.exchanges (ended u) u.after := by
  refine (nodeOp_performed n step).mono fun u hu => ?_
  generalize hagenda : n.agenda step = agenda at hu
  have hyields {stages : List Stage} {outcome : List Json → Outcome}
      (hu : (Agenda.carryOut stages outcome).Performed n u)
      (hstages : ∀ stage ∈ stages, stage.isGentle = true) (hn : n.status ≠ .deleted) :
      Fate false n u.exchanges (ended u) u.after :=
    Yields.fate hu fun hs => hs.fate hstages hn
  have hsingle {stage : Stage} (hstage : stage.isGentle = true) :
      ∀ s ∈ [stage], s.isGentle = true := List.forall_mem_singleton.mpr hstage
  cases hagenda ▸ agenda_arises n step with
  | refused e =>
    obtain rfl := hu
    exact fate_of_quiet false rfl nofun
  | looked outcome =>
    obtain rfl := hu
    exact fate_of_quiet true rfl nofun
  | buried | destroyed | posted | deleted => cases h
  | created hn => exact hyields hu (hsingle rfl) (by rw [hn]; nofun)
  | acted a hn | bound hn | unbound hn | captureStarted index file hn | captureStopped index hn =>
    exact hyields hu (hsingle rfl) (isCreated_iff.mp hn).2
  | updated changes hn =>
    refine hyields hu ?_ (isCreated_iff.mp hn).2
    exact forall_mem_updateStages (fun _ => rfl) (fun _ _ => rfl) (fun _ => rfl) (fun _ => rfl) n
      changes

theorem ended_give {α β : Type} (g : α → β) (u : Record α) : ended (give g u) = ended u := by
  unfold ended give
  rcases u.result with _ | (e | a) <;> rfl

/-- **Destroying a node** deletes it if the engine confirms that, and else leaves it as it was. A
node that was never created is deleted without a request, and one that is deleted already is left
alone with a conflict. -/
theorem destroy_fate (n : Node) :
    destroy.run.Meets n fun u => Fate true n u.exchanges (ended u) u.after := by
  refine (destroy_performed n).mono fun u hu => ?_
  rw [← ended_give (fun _ => Outcome.done) u]
  show Fate true n (give (fun _ => Outcome.done) u).exchanges _
    (give (fun _ => Outcome.done) u).after
  generalize give (fun _ => Outcome.done) u = t at hu
  unfold agenda at hu
  cases hstatus : n.status with
  | deleted =>
    rw [hstatus] at hu
    obtain rfl := hu
    exact fate_of_quiet false rfl fun _ => rfl
  | pending =>
    rw [hstatus] at hu
    obtain rfl := hu
    -- a node that was never created is deleted without a request
    refine ⟨fun hn => absurd hstatus hn, fun _ => List.forall_mem_nil _, fun _ _ => rfl,
      fun _ hn => absurd hstatus hn, fun hburies => absurd hburies not_buries_nil, nofun⟩
  | created | started | stopped | suspended =>
    rw [hstatus] at hu
    exact Yields.fate hu fun hs => hs.fate_destroy (by rw [hstatus]; rfl)

/-- **Creating a node** deletes nothing, and a node that was created with success is created. The
requests of a creation are all of another method than a deletion, so that they can be no deletion of
this node or of any other. -/
theorem create_created (n : Node) :
    create.run.Meets n fun u => (∀ x ∈ u.exchanges, ∀ call, x.question = .send call →
        call.request.method = .post) ∧ (u.result = some (.ok ()) → u.after.status = .created) := by
  unfold create
  rw [meets_self_andThen]
  by_cases hn : n.status ≠ .pending
  · rw [if_pos hn]
    exact meets_andThen.mpr (meets_throw.mpr ⟨List.forall_mem_nil _, nofun⟩)
  rw [if_neg hn]
  have hengine (reply : Option (Except RegistryError Client)) :
      ∀ x ∈ [(⟨n, .engine n.engine, reply⟩ : Exchange)], ∀ call, x.question = .send call →
        call.request.method = .post := List.forall_mem_singleton.mpr nofun
  have hpost (client : Client) (reply : Option Answer) :
      ∀ x ∈ [(⟨n, .engine n.engine, some (.ok client)⟩ : Exchange),
          ⟨n, .send ⟨client, .post n.collectionPath (some (.ofDict n.createBody))⟩, reply⟩],
        ∀ call, x.question = .send call → call.request.method = .post := by
    refine List.forall_mem_cons.mpr ⟨nofun, List.forall_mem_singleton.mpr ?_⟩
    rintro _ ⟨⟩
    rfl
  refine meets_andThen.mpr (meets_findEngine.mpr ⟨fun client => ?_, fun e => ⟨hengine _, nofun⟩,
    hengine _, nofun⟩)
  refine meets_andThen.mpr (meets_send.mpr ⟨fun report => ?_, fun e => ⟨hpost client _, nofun⟩,
    hpost client _, nofun⟩)
  exact meets_edit.mpr ⟨hpost client _, fun _ => rfl⟩

end Node

end Testbed

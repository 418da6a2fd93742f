import Testbed.Proofs.Project.Course

/-!
# Which projects can be closed

Closing a project deletes its nodes one after another and stops at the first that cannot be deleted.
One would think that with engines that are there and agree to everything no node is in the way. But
a node that is deleted already refuses to be deleted, and a project does not learn of it when a node
is destroyed through its handle. Such a node stays in the table for good: deleting it fails every
time, and so does closing the project (`closed_iff`, `destroyed_node_in_the_way`).

There is no other obstacle. Whatever a project has been through, and whatever engines made of it,
closing succeeds and leaves no node exactly if none of the nodes it still has was destroyed through
its handle.
-/

namespace Testbed.Controller

/-- **A project without nodes, with nothing going on.** That is a project as it is opened. -/
structure Vacant (p : ProjectHandle) (c : Controller) : Prop where
  locks : ∀ h, (c.cell h).held = false
  registry : c.registry.held = false
  nodes : (c.project p).nodes = .empty

/-- **Engines that are there and accept every request**: every node of the project leads to a
client, and whatever is asked is confirmed with some report. A registry that has no such engine any
more would be an obstacle of its own, and is excluded here. -/
structure Willing (p : ProjectHandle) (c : Controller)
    (outside : Process.Outside Controller Call fun _ => Answer) : Prop where
  reached : ∀ id h, (c.project p).nodes.get? id = some h →
    ∃ client, c.registry.reach (c.node h).engine = .ok client
  accepts : ∀ log call, ∃ report, outside log call = some (.ok report)

/-- Where every request is accepted, engines have agreed to everything. -/
theorem agreed_transcript {α : Type} {outside : Process.Outside Controller Call fun _ => Answer}
    (h : ∀ log call, ∃ report, outside log call = some (.ok report)) (q : Task α)
    (c : Controller) : Agreed (q.transcript outside c).exchanges := by
  -- the outside is shown more and more, so it changes along with the process
  induction q generalizing c outside with
  | done a => exact List.forall_mem_nil _
  | step ready update next abandon ih =>
    unfold Process.transcript
    split
    · exact ih c h _
    · exact List.forall_mem_nil _
  | ask call next abandon ih =>
    obtain ⟨report, hreport⟩ := h [] call
    unfold Process.transcript
    rw [hreport]
    exact List.forall_mem_cons.mpr ⟨⟨report, rfl⟩, ih _ (fun log => h _) c⟩

/-- **Which projects can be closed.** Let a project be opened, and let calls be made on it and on
its nodes through their handles, one after another, whatever engines answer and wherever a call is
given up. If the engines of its nodes are there from then on and accept every request, closing it
returns with success and leaves no nodes exactly if no node that it still has was destroyed through
its handle.

The condition is about the record of the calls, so that it can be decided without looking into the
control plane. It is necessary because a node that was destroyed through its handle refuses to be
destroyed again, and sufficient because everything else that a call may leave behind – a creation
that failed, a deletion that was refused or given up – leaves the table and the nodes in it in a
state from which they can be deleted. -/
theorem closed_iff (p : ProjectHandle) (c₀ : Controller) (hvacant : Vacant p c₀) (log : List Event)
    (c : Controller) (hcourse : Course p c₀ log c)
    (outside : Process.Outside Controller Call fun _ => Answer) (hwilling : Willing p c outside) :
    let t := (closeProject p).run.transcript outside c
    t.result = some (.ok ()) ∧ (t.after.project p).nodes = .empty ↔
      ∀ id h, (c.project p).nodes.get? id = some h → ¬ Destroyed log h := by
  intro t
  have hsound : Sound p log c :=
    hcourse.sound (.start hvacant.locks hvacant.registry hvacant.nodes)
  have hclearing : Clearing c.registry p (c.project p).nodes.keys c t :=
    (closeProject_alone hsound).transcript outside
  constructor
  · rintro ⟨-, hempty⟩ id h hget hdestroyed
    -- the entry of a node that was deleted before is there to the end
    have hstuck := hclearing.shrinks.stuck id h hget ((hsound.deleted id h hget).mpr hdestroyed)
    rw [hempty] at hstuck
    cases hstuck
  · intro hpresent
    have hok : t.result = some (.ok ()) := by
      refine hclearing.granted (agreed_transcript hwilling.accepts _ c) fun id hid => ?_
      obtain ⟨h, hget⟩ := Option.isSome_iff_exists.mp ((Dict.mem_keys_iff _ id).mp hid)
      exact ⟨h, hget, hwilling.reached id h hget,
        fun hdeleted => hpresent id h hget ((hsound.deleted id h hget).mp hdeleted)⟩
    refine ⟨hok, Dict.ext_get fun id => ?_⟩
    show (t.after.project p).nodes.get? id = none
    by_cases hid : id ∈ (c.project p).nodes.keys
    · exact hclearing.success hok id hid
    · refine Option.eq_none_iff_forall_ne_some.mpr fun h hget => hid ?_
      exact (Dict.mem_keys_iff _ id).mpr
        (Option.isSome_iff_exists.mpr ⟨h, (hclearing.shrinks.kept id h hget).1⟩)

/-! ## Two projects

The two sides of the equivalence occur: one project has a node that was destroyed through its
handle, and the other has one that was not. Everything else is the same for both, and the engines
confirm whatever they are asked. -/

/-- A project that was just opened, with an engine at hand. It has no nodes yet. -/
def opened : Controller :=
  (openProject default "lab" ((initial default).setRegistry Registry.lab)).2

theorem opened_vacant : Vacant 0 opened := ⟨fun _ => rfl, rfl, rfl⟩

/-- Engines that confirm everything. -/
def confirming : Process.Outside Controller Call fun _ => Answer := fun _ _ => some (.ok (.obj []))

/-- The record of a call that has engines that confirm everything. The project is the first one that
was opened. -/
def confirmed (chore : Chore) (c : Controller) : Record chore.Result :=
  (chore.task 0).transcript confirming c

/-- Engines that confirm everything are willing if they are found, entry by entry. -/
theorem willing_confirming {c : Controller} (h : ∀ e ∈ (c.project 0).nodes.entries,
    (c.registry.reach (c.node e.2).engine).isOk = true) : Willing 0 c confirming where
  reached id node hget := by
    have hok := h (id, node) ((Dict.mem_entries_iff _ id node).mpr hget)
    cases hreach : c.registry.reach (c.node node).engine with
    | ok client => exact ⟨client, rfl⟩
    | error e =>
      rw [hreach] at hok
      cases hok
  accepts _ _ := ⟨_, rfl⟩

/-- A course in which a node is added. -/
theorem course_add (spec : NodeSpec) {h : NodeHandle}
    (hok : ((confirmed (.add "local" spec) opened).result.bind Except.toOption) = some h) :
    Course 0 opened [⟨.add "local" spec, some (.ok h)⟩]
      (confirmed (.add "local" spec) opened).after := by
  have hstart : Course 0 opened [] opened := .start
  have hcourse := hstart.called (.add "local" spec) trivial confirming
  have hresult : (confirmed (.add "local" spec) opened).result = some (.ok h) := by
    generalize (confirmed (.add "local" spec) opened).result = result at hok
    rcases result with _ | (e | a)
    · cases hok
    · cases hok
    · exact congrArg (some ∘ Except.ok) (Option.some.inj hok)
  rw [show ((Chore.add "local" spec).task 0).transcript confirming opened
    = confirmed (.add "local" spec) opened from rfl, hresult] at hcourse
  exact hcourse

/-- **A node is added and destroyed through its handle**, and with every engine willing the project
cannot be closed. -/
theorem destroyed_node_in_the_way :
    Vacant 0 opened ∧ ∃ log c, Course 0 opened log c ∧ Willing 0 c confirming
      ∧ (((closeProject 0).run.transcript confirming c).result.any fun r => !r.toBool) = true := by
  let spec : NodeSpec := { id := default, nodeType := .vpcs, name := "pc1" }
  have hadded := course_add spec (h := 1) (by decide +kernel)
  have hdestroyed := hadded.called (.operate 1 .destroy) ⟨_, List.mem_cons_self, _, _, rfl⟩
    confirming
  exact ⟨opened_vacant, _, _, hdestroyed, willing_confirming (by decide +kernel),
    by decide +kernel⟩

/-- A node is added, and the project is closed. -/
theorem closed_with_a_node :
    let spec : NodeSpec := { id := default, nodeType := .vpcs, name := "pc1" }
    let c := (confirmed (.add "local" spec) opened).after
    ∃ log, Vacant 0 opened ∧ Course 0 opened log c ∧ Willing 0 c confirming
      ∧ (c.project 0).nodes.keys = [default]
      ∧ (((closeProject 0).run.transcript confirming c).after.project 0).nodes = .empty := by
  intro spec c
  have hadded := course_add spec (h := 1) (by decide +kernel)
  have hwilling : Willing 0 c confirming := willing_confirming (by decide +kernel)
  refine ⟨_, opened_vacant, hadded, hwilling, by decide +kernel, ?_⟩
  refine ((closed_iff 0 opened opened_vacant _ c hadded confirming hwilling).mpr fun id h _ => ?_).2
  rintro ⟨e, hmem, outcome, rfl⟩
  cases List.mem_singleton.mp hmem

end Testbed.Controller

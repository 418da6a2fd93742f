import Testbed.Proofs.Controller.Alone
import Testbed.Proofs.Node.Destruction
import Testbed.Proofs.Project.OpenCloseSteps

/-!
# Deleting nodes while nothing else is going on

A project forgets a node after the engine has deleted it, and it is the node that decides whether
the engine is asked. So there are two sides to a deletion: what becomes of the project's table, and
what becomes of the node under the handle that the table has. `Shrinks` holds them together. It says
of any number of deletions that the table only loses entries, that a node whose entry stays is the
node it was, and that the entry of a node that was deleted already *does* stay.

The last part is what a loop over the table needs to know. Whether it gets to its end depends on how
each deletion ends, and `deleteNodes_clears` gives both from the state at its beginning: with
engines that are there and agree to everything, the nodes are deleted and forgotten one after
another unless one of them is deleted already. That one deletion leaves the nodes of the others
alone takes that no two entries lead to one node (`Separate`).

Nothing is said of requests here. Whether a deletion succeeds is a matter of the node and its
engine, and what matters to the project is the order: the engine first, then the table.
-/

namespace Testbed.Controller

open Process (Transcript meets_andThen)

variable {α : Type} {r₀ : Registry} {p : ProjectHandle} {h : NodeHandle} {id : Uuid}
  {c c' c'' : Controller}

/-- The record of an operation of the control plane. -/
abbrev Record (α : Type) := Transcript Controller Call (fun _ => Answer) (Except ControlError α)

/-- **The engines agreed to everything.** Every question was answered, and every answer is a
confirmation. -/
def Agreed (log : List (Process.Exchange Controller Call fun _ => Answer)) : Prop :=
  ∀ x ∈ log, ∃ report, x.answer = some (.ok report)

/-! ## Operations through a handle

While nothing else is going on, a lock is free when it is asked for. An operation through a handle
is then the operation of the node, with the engines as the registry has them. -/

/-- A process whose steps are calm is calm. -/
theorem meets_calm {q : Task α} {post : Transcript Controller Call (fun _ => Answer) α → Prop}
    (h : q.Meets c post) (hq : q.Obeys calmly (fun _ _ => True) ()) :
    q.Meets c fun t => post t ∧ Calm c t.after := by
  induction q generalizing c post with
  | done a => exact ⟨h, .refl c⟩
  | step ready update next abandon ih =>
    obtain ⟨hready, hnext⟩ := h
    obtain ⟨⟨⟩, hmove, hrest⟩ := hq.1 c trivial hready
    exact ⟨hready, (ih c hnext hrest).mono fun t ht => ⟨ht.1, hmove.trans ht.2⟩⟩
  | ask question next abandon ih =>
    obtain ⟨-, hnext, hquit⟩ := hq
    obtain ⟨⟨⟩, hgone⟩ := hquit c trivial
    exact ⟨fun r => ih r (h.1 r) (hnext r), h.2, hgone⟩

/-- **An operation through a handle** does to the cell what it does to the node, and no project
notices. Nobody else wants the lock, so that the operation runs on the node as it is found. -/
theorem withNode_alone (hc : Resting r₀ c) {op : Node.Op α} {post : Node.Record α → Prop}
    (hmeets : op.run.Meets (c.node h) post) :
    (withNode h op).run.Meets c fun t => (∃ u, post u ∧ Mirrors r₀ h c t u) ∧ Calm c t.after :=
  meets_calm (withNode_mirrors hc.grown hc.registry (hc.locks h) hmeets) (withNode_calm op)

/-- **If the engines agreed to everything**, and the one that was looked for is there, nothing was
answered with an error. The registry may refuse to look up an engine, and that is the other way in
which an operation can be answered with an error. -/
theorem Mirrors.welcome {t : Record α} {u : Node.Record α} (hm : Mirrors r₀ h c t u)
    (hagreed : Agreed t.exchanges) {engine : String} {client : Client}
    (hlooks : ∀ x ∈ u.exchanges, ∀ id, x.question = .engine id → id = engine)
    (hreach : r₀.reach engine = .ok client) : ∀ x ∈ u.exchanges, Node.Exchange.Welcome x := by
  rintro ⟨n, question, answer⟩ hx
  cases question with
  | engine id =>
    obtain ⟨found, rfl, halike⟩ := hm.found _ hx
    rw [hlooks _ hx id rfl, hreach] at halike
    cases found with
    | ok client => trivial
    | error e => cases halike
  | send call =>
    obtain ⟨y, hy, heq⟩ := hm.passed hx
    obtain ⟨report, hreport⟩ := hagreed y hy
    obtain rfl : answer = some (.ok report) := (congrArg Prod.snd heq).symm.trans hreport
    trivial

/-- A node can be deleted: its engine is there, and it is not deleted yet. -/
structure Deletable (r₀ : Registry) (n : Node) : Prop where
  reached : ∃ client, r₀.reach n.engine = .ok client
  present : n.status ≠ .deleted

/-- **What comes of destroying a node through its handle.** It gathers what was proved of the node
by itself and of the control plane around it. -/
structure Destruction (r₀ : Registry) (h : NodeHandle) (c : Controller) (t : Record Unit) :
    Prop where
  /-- Nothing is going on afterwards. -/
  resting : Resting r₀ t.after
  /-- No project notices. -/
  calm : Calm c t.after
  /-- The other nodes stay. -/
  others : ∀ h', h' ≠ h → t.after.node h' = c.node h'
  /-- If it succeeds the node was not deleted before. -/
  success : t.result = some (.ok ()) → (c.node h).status ≠ .deleted
  /-- If it does not, the node is as it was. -/
  failure : t.result ≠ some (.ok ()) → t.after.node h = c.node h
  /-- It succeeds if the node can be deleted and engines agree. -/
  granted : Agreed t.exchanges → Deletable r₀ (c.node h) → t.result = some (.ok ())

theorem destroyNode_alone (hc : Resting r₀ c) (h : NodeHandle) :
    (withNode h Node.destroy).run.Meets c (Destruction r₀ h c) := by
  refine (withNode_alone hc (Node.destroy_demise (c.node h))).result.mono ?_
  rintro t ⟨⟨⟨u, hdemise, hm⟩, hcalm⟩, hresult⟩
  have hended : Node.ended u = some true ↔ t.result = some (.ok ()) := by
    rw [hm.result, Node.ended_eq_some_true]
    exact ⟨fun ⟨_, hok⟩ => hok, fun hok => ⟨(), hok⟩⟩
  refine ⟨hm.resting hc, hcalm, fun h' hne => congrArg NodeCell.node (hm.others h' hne),
    fun hok => (hdemise.success (hended.mpr hok)).1,
    fun hfailed => hm.node.trans (hdemise.failure fun hyes => hfailed (hended.mp hyes)),
    fun hagreed hdeletable => ?_⟩
  obtain ⟨client, hreach⟩ := hdeletable.reached
  have hwelcome := hm.welcome hagreed hdemise.looks hreach
  cases hcase : t.result with
  | none =>
    have hsome := hresult fun x hx => by
      obtain ⟨report, hreport⟩ := hagreed x hx
      rw [hreport]
      rfl
    rw [hcase] at hsome
    cases hsome
  | some result =>
    cases result with
    | ok a => rfl
    | error e =>
      refine absurd (hdemise.refused hwelcome ?_) hdeletable.present
      unfold Node.ended
      rw [← hm.result, hcase]
      rfl

/-! ## Deletions

A deletion is an operation of the node and, if that succeeds, the removal of the entry. From one
deletion it goes to a list of them, whose records stand one after another. -/

/-- **No two entries of a project lead to one node.** It holds wherever nodes are found under their
own identifiers. -/
def Separate (p : ProjectHandle) (c : Controller) : Prop :=
  ∀ id id' h, (c.project p).nodes.get? id = some h → (c.project p).nodes.get? id' = some h →
    id = id'

/-- **What any number of deletions do to a project.** It is transitive, which is what makes it fit
for a loop. -/
structure Shrinks (r₀ : Registry) (p : ProjectHandle) (c c' : Controller) : Prop where
  /-- Nothing is going on afterwards. -/
  resting : Resting r₀ c'
  /-- The handles given out stay given out. -/
  allocated : c.allocated ≤ c'.allocated
  /-- No entry is added, and a node whose entry stays is the node it was. -/
  kept : ∀ id h, (c'.project p).nodes.get? id = some h →
    (c.project p).nodes.get? id = some h ∧ c'.node h = c.node h
  /-- The entry of a node that was deleted before stays. -/
  stuck : ∀ id h, (c.project p).nodes.get? id = some h → (c.node h).status = .deleted →
    (c'.project p).nodes.get? id = some h

namespace Shrinks

theorem refl (hc : Resting r₀ c) : Shrinks r₀ p c c :=
  ⟨hc, Nat.le_refl _, fun _ _ hget => ⟨hget, rfl⟩, fun _ _ hget _ => hget⟩

theorem trans (hfirst : Shrinks r₀ p c c') (hlater : Shrinks r₀ p c' c'') :
    Shrinks r₀ p c c'' where
  resting := hlater.resting
  allocated := Nat.le_trans hfirst.allocated hlater.allocated
  kept id h hget := by
    obtain ⟨hget', hnode'⟩ := hlater.kept id h hget
    obtain ⟨hget, hnode⟩ := hfirst.kept id h hget'
    exact ⟨hget, hnode'.trans hnode⟩
  stuck id h hget hdeleted := by
    have hget' := hfirst.stuck id h hget hdeleted
    refine hlater.stuck id h hget' ?_
    rw [(hfirst.kept id h hget').2]
    exact hdeleted

theorem separate (hs : Shrinks r₀ p c c') (hc : Separate p c) : Separate p c' :=
  fun id id' h hget hget' => hc id id' h (hs.kept id h hget).1 (hs.kept id' h hget').1

end Shrinks

/-- **What comes of deleting a node of a project.** It says when the deletion succeeds, besides what
it does. -/
structure Removal (r₀ : Registry) (p : ProjectHandle) (id : Uuid) (c : Controller)
    (t : Record Unit) : Prop where
  shrinks : Shrinks r₀ p c t.after
  /-- If it succeeds, the entry is the one that is gone. -/
  success : t.result = some (.ok ()) →
    (t.after.project p).nodes = (c.project p).nodes.erase id
  /-- It succeeds if the node can be deleted and engines agree. -/
  granted : Agreed t.exchanges →
    (∃ h, (c.project p).nodes.get? id = some h ∧ Deletable r₀ (c.node h)) →
    t.result = some (.ok ())

theorem findNode_settles (p : ProjectHandle) (id : Uuid) (c : Controller) :
    (findNode p id).run.Settles c
      (match (c.project p).nodes.get? id with
        | some h => .ok h
        | none => .error (.notFound (.node id (c.project p).id))) c := by
  refine ⟨rfl, ?_⟩
  show Process.Meets (ExceptT.run (match (c.project p).nodes.get? id with
    | some h => pure h
    | none => throw _ : Op NodeHandle)) c _
  cases (c.project p).nodes.get? id with
  | some h => rfl
  | none => rfl

theorem Resting.editProject (hc : Resting r₀ c) (p : ProjectHandle) (f : Project → Project) :
    Resting r₀ (c.editProject p f) := ⟨hc.locks, hc.registry, hc.grown⟩

/-- The nodes are destroyed before their entries are dropped. -/
theorem Destruction.removal {t : Record Unit} (hd : Destruction r₀ h c t)
    (hget : (c.project p).nodes.get? id = some h) (hsep : Separate p c)
    (hok : t.result = some (.ok ())) :
    Shrinks r₀ p c (editProject p (·.drop id) t.after) where
  resting := hd.resting.editProject p _
  allocated := hd.calm.allocated
  kept id' h' hget' := by
    rw [nodes_drop, hd.calm.nodes, Dict.get_erase_eq_update] at hget'
    by_cases hid : id' = id
    · rw [hid, Function.update_self] at hget'
      cases hget'
    · rw [Function.update_of_ne hid] at hget'
      refine ⟨hget', hd.others h' ?_⟩
      rintro rfl
      exact hid (hsep id' id h' hget' hget)
  stuck id' h' hget' hdeleted := by
    rw [nodes_drop, hd.calm.nodes, Dict.get_erase_eq_update, Function.update_of_ne]
    · exact hget'
    · rintro rfl
      -- the node that was destroyed with success is none that was deleted before
      cases hget.symm.trans hget'
      exact hd.success hok hdeleted

/-- Without success nothing is lost. The entry stays and can be tried again. -/
theorem Destruction.shrinks {t : Record Unit} (hd : Destruction r₀ h c t)
    (hfailed : t.result ≠ some (.ok ())) : Shrinks r₀ p c t.after where
  resting := hd.resting
  allocated := hd.calm.allocated
  kept id' h' hget' := by
    rw [hd.calm.nodes] at hget'
    refine ⟨hget', ?_⟩
    by_cases hh : h' = h
    · rw [hh]
      exact hd.failure hfailed
    · exact hd.others h' hh
  stuck id' h' hget' _ := by
    rw [hd.calm.nodes]
    exact hget'

/-- **Deleting a node of a project.** The lock is given back before the table is changed, and in
between nobody else has a turn. -/
theorem deleteNode_alone (hc : Resting r₀ c) (hsep : Separate p c) (id : Uuid) :
    (deleteNode p id).run.Meets c (Removal r₀ p id c) := by
  refine meets_andThen.mpr ((findNode_settles p id c).mono ?_)
  rintro _ rfl
  cases hget : (c.project p).nodes.get? id with
  | none =>
    refine ⟨.refl hc, nofun, ?_⟩
    rintro - ⟨h, hsome, -⟩
    cases hget.symm.trans hsome
  | some h =>
    refine meets_andThen.mpr ((destroyNode_alone hc h).mono fun t hd => ?_)
    have hgranted (hagreed : Agreed t.exchanges)
        (hdeletable : ∃ h', (c.project p).nodes.get? id = some h' ∧ Deletable r₀ (c.node h')) :
        t.result = some (.ok ()) := by
      obtain ⟨h', hget', hdeletable⟩ := hdeletable
      cases hget.symm.trans hget'
      exact hd.granted hagreed hdeletable
    obtain ⟨log, result, after⟩ := t
    match result with
    | some (.ok ()) =>
      refine ⟨rfl, hd.removal hget hsep rfl, fun _ => ?_, fun _ _ => rfl⟩
      exact (nodes_drop id after).trans (congrArg (·.erase id) (hd.calm.nodes p))
    | some (.error e) => exact ⟨hd.shrinks nofun, nofun, hgranted⟩
    | none => exact ⟨hd.shrinks nofun, nofun, hgranted⟩

/-- **What comes of deleting nodes of a project one after another.** The condition for success is on
the nodes at the beginning. -/
structure Clearing (r₀ : Registry) (p : ProjectHandle) (ids : List Uuid) (c : Controller)
    (t : Record Unit) : Prop where
  shrinks : Shrinks r₀ p c t.after
  /-- If it succeeds, the entries are gone. -/
  success : t.result = some (.ok ()) → ∀ id ∈ ids, (t.after.project p).nodes.get? id = none
  /-- It succeeds if the nodes can be deleted and engines agree. -/
  granted : Agreed t.exchanges →
    (∀ id ∈ ids, ∃ h, (c.project p).nodes.get? id = some h ∧ Deletable r₀ (c.node h)) →
    t.result = some (.ok ())

/-- A deletion that succeeds, and what comes after it. -/
theorem Removal.andThen {ids : List Uuid} {t later : Record Unit} (hr : Removal r₀ p id c t)
    (hok : t.result = some (.ok ())) (hnotMem : id ∉ ids)
    (hl : Clearing r₀ p ids t.after later) : Clearing r₀ p (id :: ids) c (t.append later) where
  shrinks := hr.shrinks.trans hl.shrinks
  success := by
    intro hlater
    refine List.forall_mem_cons.mpr ⟨?_, hl.success hlater⟩
    refine Option.eq_none_iff_forall_ne_some.mpr fun h hget => ?_
    have hget' := (hl.shrinks.kept id h hget).1
    rw [hr.success hok, Dict.get_erase_eq_update, Function.update_self] at hget'
    cases hget'
  granted := by
    intro hagreed hdeletable
    refine hl.granted (fun x hx => hagreed x (List.mem_append_right _ hx)) fun id' hmem => ?_
    obtain ⟨h, hget, hdel⟩ := hdeletable id' (List.mem_cons_of_mem _ hmem)
    have hget' : (t.after.project p).nodes.get? id' = some h := by
      rw [hr.success hok, Dict.get_erase_eq_update, Function.update_of_ne]
      · exact hget
      · rintro rfl
        exact hnotMem hmem
    refine ⟨h, hget', ?_⟩
    rw [(hr.shrinks.kept id' h hget').2]
    exact hdel

/-- A deletion that fails is the last one. -/
theorem Removal.ends {ids : List Uuid} {t : Record Unit} (hr : Removal r₀ p id c t)
    (hfailed : t.result ≠ some (.ok ())) : Clearing r₀ p (id :: ids) c t where
  shrinks := hr.shrinks
  success hok := absurd hok hfailed
  granted hagreed hdeletable := hr.granted hagreed (hdeletable id List.mem_cons_self)

/-- **Deleting nodes of a project one after another.** The induction is on the list. After the first
deletion the rest of the list is as it was, since no other entry leads to the node that is gone. -/
theorem deleteNodes_clears {ids : List Uuid} (hc : Resting r₀ c) (hsep : Separate p c)
    (hids : ids.Nodup) : (deleteNodes p ids).run.Meets c (Clearing r₀ p ids c) := by
  induction ids generalizing c with
  | nil => exact ⟨.refl hc, fun _ => List.forall_mem_nil _, fun _ _ => rfl⟩
  | cons id rest ih =>
    obtain ⟨hnotMem, hrest⟩ := List.nodup_cons.mp hids
    refine meets_andThen.mpr ((deleteNode_alone hc hsep id).mono fun t hr => ?_)
    obtain ⟨log, result, after⟩ := t
    match result with
    | some (.ok ()) =>
      refine (ih hr.shrinks.resting (hr.shrinks.separate hsep) hrest).mono fun later hl => ?_
      exact hr.andThen rfl hnotMem hl
    | some (.error e) => exact hr.ends nofun
    | none => exact hr.ends nofun

end Testbed.Controller

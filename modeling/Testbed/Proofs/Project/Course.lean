import Testbed.Proofs.Project.Addition

/-!
# What has become of a project

A project is worked with through its own operations and through the handles of its nodes, and only
the former pass through its table. A node can therefore be in the table and be deleted: its handle
was used to destroy it. `Course` is what calls, one after another, make of a project, with the calls
and how each of them ended on record, whatever engines answered and wherever a call was given up.

The state at the end of a course says little by itself and everything with the record. The table has
one node for each entry, every call has given back what it took, and **a node in the table is
deleted exactly if the record has a call that destroyed it** (`Sound`). That is the one invariant;
there is a lemma for each way in which a call can go, and `Course.sound` is the induction.
-/

namespace Testbed.Controller

open Process (meets_andThen)

/-! ## Calls on record

What a caller can do with a project is listed, with the result that each call may give. Calls follow
one another here, each of them to its end or to where it was given up. -/

/-- **A call on a project**, or on a node through its handle. The handle of an operation is one that
a call has given out before. -/
inductive Chore where
  /-- Adds a node. -/
  | add (engine : String) (spec : NodeSpec)
  /-- Deletes a node. -/
  | remove (id : Uuid)
  /-- Deletes all nodes. -/
  | close
  /-- Starts a capture on a node. -/
  | startCapture (id : Uuid) (index : Nat) (file : String)
  /-- Stops a capture on a node. -/
  | stopCapture (id : Uuid) (index : Nat)
  /-- Performs an operation on a node, with the node's lock held. -/
  | operate (h : NodeHandle) (step : NodeStep)

/-- What a call gives. -/
@[reducible] def Chore.Result : Chore → Type
  | add .. => NodeHandle
  | remove _ | close | stopCapture .. => Unit
  | startCapture .. => OsPath
  | operate .. => Outcome

/-- What a call does. -/
def Chore.task (p : ProjectHandle) : (chore : Chore) → Task (Except ControlError chore.Result)
  | add engine spec => (addNodeTo p engine spec).run
  | remove id => (deleteNode p id).run
  | close => (closeProject p).run
  | startCapture id index file => (Controller.startCapture p id index file).run
  | stopCapture id index => (Controller.stopCapture p id index).run
  | operate h step => (withNode h (Scenario.nodeOp step)).run

/-- **A call on record**, with its result. There is none if the call was given up. It is kept with
the call, so that the record tells what was tried from what was achieved. -/
structure Event where
  /-- The call. -/
  chore : Chore
  /-- How it ended. -/
  result : Option (Except ControlError chore.Result)

/-- A call added a node and gave out its handle. -/
def Event.HandsOut (e : Event) (h : NodeHandle) : Prop :=
  ∃ engine spec, e = ⟨.add engine spec, some (.ok h)⟩

/-- A call destroyed a node through its handle. -/
def Event.Destroys (e : Event) (h : NodeHandle) : Prop :=
  ∃ outcome, e = ⟨.operate h .destroy, some (.ok outcome)⟩

/-- The handle of a node was given out. It may have been deleted since. -/
def HandedOut (log : List Event) (h : NodeHandle) : Prop := ∃ e ∈ log, e.HandsOut h

/-- **A node was destroyed through its handle.** That is the destruction of the node by an operation
on its handle that returned with success. -/
def Destroyed (log : List Event) (h : NodeHandle) : Prop := ∃ e ∈ log, e.Destroys h

/-- Operations are performed through handles that were given out. -/
def Chore.Known (log : List Event) : Chore → Prop
  | operate h _ => HandedOut log h
  | _ => True

/-- **Something else has happened**: the project and the nodes in it stay, and nothing goes on.
Other projects may be worked with, engines registered and settings applied. -/
structure Elsewhere (p : ProjectHandle) (c c' : Controller) : Prop where
  locks : ∀ h, (c'.cell h).held = false
  registry : c'.registry.held = false
  nodes : (c'.project p).nodes = (c.project p).nodes
  allocated : c.allocated ≤ c'.allocated
  node : ∀ id h, (c.project p).nodes.get? id = some h → c'.node h = c.node h

/-- **What calls make of a project**, one after another, with the record of the calls. The calls are
made one after another, each with an outside of its own, and between them anything may happen that
leaves the project alone. -/
inductive Course (p : ProjectHandle) (c₀ : Controller) : List Event → Controller → Prop
  /-- There were no calls. -/
  | start : Course p c₀ [] c₀
  /-- One more call was made. -/
  | called {log : List Event} {c : Controller} (h : Course p c₀ log c) (chore : Chore)
      (hknown : chore.Known log) (outside : Process.Outside Controller Call fun _ => Answer) :
      Course p c₀ (log ++ [⟨chore, ((chore.task p).transcript outside c).result⟩])
        ((chore.task p).transcript outside c).after
  /-- Something else has happened. -/
  | elsewhere {log : List Event} {c c' : Controller} (h : Course p c₀ log c)
      (hc : Elsewhere p c c') : Course p c₀ log c'

variable {p : ProjectHandle} {h : NodeHandle} {log : List Event} {e : Event}
  {c c' : Controller} {r₀ : Registry}

theorem handedOut_concat : HandedOut (log ++ [e]) h ↔ HandedOut log h ∨ e.HandsOut h := by
  unfold HandedOut
  simp only [List.mem_append, List.mem_singleton, or_and_right, exists_or, exists_eq_left]

theorem destroyed_concat : Destroyed (log ++ [e]) h ↔ Destroyed log h ∨ e.Destroys h := by
  unfold Destroyed
  simp only [List.mem_append, List.mem_singleton, or_and_right, exists_or, exists_eq_left]

theorem handsOut_add_iff {engine : String} {spec : NodeSpec}
    {result : Option (Except ControlError NodeHandle)} :
    Event.HandsOut ⟨.add engine spec, result⟩ h ↔ result = some (.ok h) := by
  constructor
  · rintro ⟨_, _, heq⟩
    cases heq
    rfl
  · rintro rfl
    exact ⟨engine, spec, rfl⟩

theorem destroys_operate_iff {h' : NodeHandle} {step : NodeStep}
    {result : Option (Except ControlError Outcome)} :
    Event.Destroys ⟨.operate h step, result⟩ h'
      ↔ h' = h ∧ step = .destroy ∧ ∃ outcome, result = some (.ok outcome) := by
  constructor
  · rintro ⟨outcome, heq⟩
    cases heq
    exact ⟨rfl, rfl, outcome, rfl⟩
  · rintro ⟨rfl, rfl, outcome, rfl⟩
    exact ⟨outcome, rfl⟩

/-! ## The invariant

It relates the table and the record, and says besides that nothing is going on between two calls.
Both are needed for the next call. -/

/-- **What holds of a project with a record.** It has the locks, the handles, and each node in the
table with its identifier and its status. -/
structure Sound (p : ProjectHandle) (log : List Event) (c : Controller) : Prop where
  /-- The locks are free. -/
  locks : ∀ h, (c.cell h).held = false
  /-- The registry is free. -/
  registry : c.registry.held = false
  /-- Handles that were given out are not given out again. -/
  handedOut : ∀ h, HandedOut log h → h < c.allocated
  /-- Neither are those of nodes that were destroyed. -/
  destroyed : ∀ h, Destroyed log h → h < c.allocated
  /-- Neither are those of nodes in the table. -/
  allocated : ∀ id h, (c.project p).nodes.get? id = some h → h < c.allocated
  /-- The nodes are found under their identifiers. -/
  named : ∀ id h, (c.project p).nodes.get? id = some h → (c.node h).id = id
  /-- They are deleted exactly if they were destroyed. -/
  deleted : ∀ id h, (c.project p).nodes.get? id = some h →
    ((c.node h).status = .deleted ↔ Destroyed log h)

namespace Sound

theorem resting (hs : Sound p log c) : Resting c.registry c :=
  ⟨hs.locks, hs.registry, .refl _⟩

theorem separate (hs : Sound p log c) : Separate p c :=
  fun id id' h hget hget' => (hs.named id h hget).symm.trans (hs.named id' h hget')

/-- A project without nodes. -/
theorem start (hlocks : ∀ h, (c.cell h).held = false) (hregistry : c.registry.held = false)
    (hempty : (c.project p).nodes = .empty) : Sound p [] c := by
  have hnone (id : Uuid) (h : NodeHandle) : (c.project p).nodes.get? id ≠ some h := by
    rw [hempty]
    exact nofun
  exact ⟨hlocks, hregistry, fun _ ⟨_, hmem, _⟩ => (List.not_mem_nil hmem).elim,
    fun _ ⟨_, hmem, _⟩ => (List.not_mem_nil hmem).elim, fun id h hget => absurd hget (hnone id h),
    fun id h hget => absurd hget (hnone id h), fun id h hget => absurd hget (hnone id h)⟩

theorem elsewhere (hs : Sound p log c) (hc : Elsewhere p c c') : Sound p log c' where
  locks := hc.locks
  registry := hc.registry
  handedOut h hh := Nat.lt_of_lt_of_le (hs.handedOut h hh) hc.allocated
  destroyed h hh := Nat.lt_of_lt_of_le (hs.destroyed h hh) hc.allocated
  allocated id h hget := by
    rw [hc.nodes] at hget
    exact Nat.lt_of_lt_of_le (hs.allocated id h hget) hc.allocated
  named id h hget := by
    rw [hc.nodes] at hget
    rw [hc.node id h hget]
    exact hs.named id h hget
  deleted id h hget := by
    rw [hc.nodes] at hget
    rw [hc.node id h hget]
    exact hs.deleted id h hget

/-- A call that deletes nodes of the project. -/
theorem shrinks (hs : Sound p log c) (hshrinks : Shrinks r₀ p c c')
    (hhands : ∀ h, ¬ e.HandsOut h) (hdestroys : ∀ h, ¬ e.Destroys h) :
    Sound p (log ++ [e]) c' where
  locks := hshrinks.resting.locks
  registry := hshrinks.resting.registry
  handedOut h hh := Nat.lt_of_lt_of_le
    (hs.handedOut h ((handedOut_concat.mp hh).resolve_right (hhands h))) hshrinks.allocated
  destroyed h hh := Nat.lt_of_lt_of_le
    (hs.destroyed h ((destroyed_concat.mp hh).resolve_right (hdestroys h))) hshrinks.allocated
  allocated id h hget :=
    Nat.lt_of_lt_of_le (hs.allocated id h (hshrinks.kept id h hget).1) hshrinks.allocated
  named id h hget := by
    obtain ⟨hbefore, hnode⟩ := hshrinks.kept id h hget
    rw [hnode]
    exact hs.named id h hbefore
  deleted id h hget := by
    obtain ⟨hbefore, hnode⟩ := hshrinks.kept id h hget
    rw [hnode, destroyed_concat, or_iff_left (hdestroys h)]
    exact hs.deleted id h hbefore

end Sound

/-! ## Operations through handles

Operations on a node leave the tables of projects alone. What they can do is to destroy the node,
and then the table still has it. -/

/-- **What an operation through a handle does**, which may be the one that destroys the node. It
says of the one node what it was and is, and of all others that they are the same. -/
structure Handles (r₀ : Registry) (h : NodeHandle) (destroys : Prop) (c c' : Controller) :
    Prop where
  /-- Nothing is going on afterwards. -/
  resting : Resting r₀ c'
  /-- No project notices. -/
  calm : Calm c c'
  /-- The other nodes stay. -/
  others : ∀ h', h' ≠ h → c'.node h' = c.node h'
  /-- The node stays who it is. -/
  id : (c'.node h).id = (c.node h).id
  /-- It is deleted if it was or is destroyed. -/
  deleted : (c'.node h).status = .deleted ↔ (c.node h).status = .deleted ∨ destroys

/-- An operation through a handle, from what the operation does to the node. -/
theorem withNode_handles {α : Type} (hc : Resting r₀ c) {op : Node.Op α}
    (destroys : Option (Except ControlError α) → Prop)
    (hid : op.run.Meets (c.node h) fun u => u.after.identity = (c.node h).identity)
    (hdeleted : op.run.Meets (c.node h) fun u =>
      u.after.status = .deleted ↔ (c.node h).status = .deleted ∨ destroys u.result) :
    (withNode h op).run.Meets c fun t => Handles r₀ h (destroys t.result) c t.after := by
  refine (withNode_alone hc (hid.and hdeleted)).mono ?_
  rintro t ⟨⟨u, ⟨hid, hdeleted⟩, hm⟩, hcalm⟩
  refine ⟨hm.resting hc, hcalm, fun h' hne => congrArg NodeCell.node (hm.others h' hne), ?_, ?_⟩
  · rw [hm.node]
    exact congrArg (·.1) hid
  · rw [hm.node, hm.result]
    exact hdeleted

/-- A call on a node through its handle. -/
theorem Sound.handles (hs : Sound p log c) {destroys : Prop}
    (hh : Handles r₀ h destroys c c') (hhands : ∀ h', ¬ e.HandsOut h')
    (hdestroys : ∀ h', e.Destroys h' ↔ h' = h ∧ destroys) (hknown : destroys → h < c.allocated) :
    Sound p (log ++ [e]) c' where
  locks := hh.resting.locks
  registry := hh.resting.registry
  handedOut h' hh' := Nat.lt_of_lt_of_le
    (hs.handedOut h' ((handedOut_concat.mp hh').resolve_right (hhands h'))) hh.calm.allocated
  destroyed h' hh' := by
    refine Nat.lt_of_lt_of_le ?_ hh.calm.allocated
    obtain hbefore | hnow := destroyed_concat.mp hh'
    · exact hs.destroyed h' hbefore
    · obtain ⟨rfl, hyes⟩ := (hdestroys h').mp hnow
      exact hknown hyes
  allocated id h' hget := by
    rw [hh.calm.nodes] at hget
    exact Nat.lt_of_lt_of_le (hs.allocated id h' hget) hh.calm.allocated
  named id h' hget := by
    rw [hh.calm.nodes] at hget
    by_cases heq : h' = h
    · rw [heq] at hget ⊢
      exact hh.id.trans (hs.named id h hget)
    · rw [hh.others h' heq]
      exact hs.named id h' hget
  deleted id h' hget := by
    rw [hh.calm.nodes] at hget
    rw [destroyed_concat, hdestroys h']
    by_cases heq : h' = h
    · rw [heq] at hget ⊢
      rw [hh.deleted, hs.deleted id h hget, and_iff_right rfl]
    · rw [hh.others h' heq, hs.deleted id h' hget]
      exact (or_iff_left fun hyes => heq hyes.1).symm

/-- An operation on a node that is looked for in the project, and that does not destroy it. -/
theorem findNode_handles {α : Type} (hc : Resting r₀ c) (step : NodeStep)
    (hstep : step ≠ .destroy) {op : Node.Op α} {g : α → Outcome}
    (hop : Scenario.nodeOp step = g <$> op) (id : Uuid) :
    (findNode p id >>= fun h => withNode h op).run.Meets c fun t =>
      t.after = c ∨ ∃ h, Handles r₀ h False c t.after := by
  refine meets_andThen.mpr ((findNode_settles p id c).mono ?_)
  rintro _ rfl
  cases (c.project p).nodes.get? id with
  | none => exact .inl rfl
  | some h =>
    have hid := Node.nodeOp_identity (c.node h) step
    have hdeleted := Node.nodeOp_deleted_iff (c.node h) step
    rw [hop] at hid hdeleted
    refine (withNode_handles hc (fun _ => False) (Node.meets_map.mp hid)
      ((Node.meets_map.mp hdeleted).mono fun u hu => ?_)).mono fun t ht => .inr ⟨h, ht⟩
    exact hu.trans (or_congr_right (iff_of_false (fun hyes => hstep hyes.1) not_false))

/-- A call that destroys no node. -/
theorem Sound.spared (hs : Sound p log c) (hspared : c' = c ∨ ∃ h, Handles r₀ h False c c')
    (hhands : ∀ h, ¬ e.HandsOut h) (hdestroys : ∀ h, ¬ e.Destroys h) : Sound p (log ++ [e]) c' := by
  obtain rfl | ⟨h, hh⟩ := hspared
  · exact hs.shrinks (.refl hs.resting) hhands hdestroys
  · exact hs.handles hh hhands (fun h' => iff_of_false (hdestroys h') And.right) False.elim

/-! ## The induction

The course is extended by one call. Calls are grouped by what they may do: add a node, delete nodes,
or work on one, with or without destroying it. -/

/-- A call that adds a node. -/
theorem Sound.adds (hs : Sound p log c) {engine : String} {spec : NodeSpec}
    {t : Record NodeHandle} (ha : Adds p spec.id c t) :
    Sound p (log ++ [⟨.add engine spec, t.result⟩]) t.after := by
  have hdestroys (h : NodeHandle) : ¬ Event.Destroys ⟨.add engine spec, t.result⟩ h := nofun
  have hold (h : NodeHandle) (hlt : h < c.allocated) : t.after.node h = c.node h :=
    ha.others h (Nat.ne_of_lt hlt)
  -- every entry is an old one or the one of the node that was added
  have hentries : ∀ id h, (t.after.project p).nodes.get? id = some h →
      (c.project p).nodes.get? id = some h
        ∨ h = c.allocated ∧ (t.after.node h).id = id ∧ (t.after.node h).status ≠ .deleted := by
    intro id h hget
    by_cases hok : ∃ h', t.result = some (.ok h')
    · obtain ⟨h', hok⟩ := hok
      obtain ⟨hnew, hnodes, hid, hstatus⟩ := ha.success h' hok
      rw [hnodes, Dict.get_insert_eq_update] at hget
      by_cases heq : id = spec.id
      · rw [heq, Function.update_self] at hget
        obtain rfl := Option.some.inj hget
        exact .inr ⟨hnew, hid.trans heq.symm, by rw [hstatus]; exact nofun⟩
      · rw [Function.update_of_ne heq] at hget
        exact .inl hget
    · rw [ha.failure fun h' hok' => hok ⟨h', hok'⟩] at hget
      exact .inl hget
  refine ⟨ha.resting.locks, ha.resting.registry, fun h hh => ?_, fun h hh => ?_,
    fun id h hget => ?_, fun id h hget => ?_, fun id h hget => ?_⟩
  · obtain hbefore | hnow := handedOut_concat.mp hh
    · exact Nat.lt_trans (hs.handedOut h hbefore) ha.allocated
    · rw [(ha.success h (handsOut_add_iff.mp hnow)).1]
      exact ha.allocated
  · exact Nat.lt_trans (hs.destroyed h ((destroyed_concat.mp hh).resolve_right (hdestroys h)))
      ha.allocated
  · obtain hbefore | ⟨rfl, -⟩ := hentries id h hget
    · exact Nat.lt_trans (hs.allocated id h hbefore) ha.allocated
    · exact ha.allocated
  · obtain hbefore | ⟨-, hid, -⟩ := hentries id h hget
    · rw [hold h (hs.allocated id h hbefore)]
      exact hs.named id h hbefore
    · exact hid
  · rw [destroyed_concat, or_iff_left (hdestroys h)]
    obtain hbefore | ⟨rfl, -, hstatus⟩ := hentries id h hget
    · rw [hold h (hs.allocated id h hbefore)]
      exact hs.deleted id h hbefore
    · -- a handle that was not given out is none of a node that was destroyed
      exact iff_of_false hstatus fun hh => Nat.lt_irrefl _ (hs.destroyed _ hh)

theorem closeProject_alone (hs : Sound p log c) :
    (closeProject p).run.Meets c (Clearing c.registry p (c.project p).nodes.keys c) := by
  refine ⟨rfl, ?_⟩
  exact deleteNodes_clears hs.resting hs.separate (Dict.nodup_keys _)

/-- **A call keeps the invariant**, with itself on record. There is a case for each kind of call,
and in each of them the record grows by the call itself. -/
theorem Sound.called (hs : Sound p log c) (chore : Chore) (hknown : chore.Known log) :
    (chore.task p).Meets c fun t => Sound p (log ++ [⟨chore, t.result⟩]) t.after := by
  cases chore with
  | add engine spec =>
    exact (addNodeTo_adds hs.locks hs.registry p engine spec).mono fun t ha => hs.adds ha
  | remove id =>
    exact (deleteNode_alone hs.resting hs.separate id).mono fun t hr =>
      hs.shrinks hr.shrinks (fun h => nofun) (fun h => nofun)
  | close =>
    exact (closeProject_alone hs).mono fun t hcl =>
      hs.shrinks hcl.shrinks (fun h => nofun) (fun h => nofun)
  | startCapture id index file =>
    exact (findNode_handles hs.resting (.startCapture index file) nofun rfl id).mono fun t ht =>
        hs.spared ht (fun h => nofun) (fun h => nofun)
  | stopCapture id index =>
    exact (findNode_handles hs.resting (.stopCapture index) nofun rfl id).mono fun t ht =>
        hs.spared ht (fun h => nofun) (fun h => nofun)
  | operate h step =>
    refine (withNode_handles hs.resting
      (fun result => step = .destroy ∧ ∃ outcome, result = some (.ok outcome))
      (Node.nodeOp_identity _ step) ((Node.nodeOp_deleted_iff _ step).mono fun u hu => ?_)).mono
      fun t ht => ?_
    · rw [← Node.ended_eq_some_true]
      exact hu
    · exact hs.handles ht (fun h' => nofun) (fun h' => destroys_operate_iff)
        fun _ => hs.handedOut h hknown

/-- **The invariant holds all along.** So whatever a project has been through, its present state can
be read off the record. -/
theorem Course.sound {c₀ : Controller} (hc : Course p c₀ log c) (hstart : Sound p [] c₀) :
    Sound p log c := by
  induction hc with
  | start => exact hstart
  | called _ chore hknown outside ih => exact (ih.called chore hknown).transcript outside
  | elsewhere _ hc ih => exact ih.elsewhere hc

end Testbed.Controller

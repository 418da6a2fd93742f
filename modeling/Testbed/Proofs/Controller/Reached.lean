import Testbed.Controller.Engines
import Testbed.Proofs.Project.Closure
import Testbed.Proofs.Project.Course

/-!
# What a control plane can have come to

A control plane begins without projects. Then projects are opened, nodes are added to them, operated
and deleted, projects are closed, and engines and settings come and go; all of this one after
another, whatever engines answer, and wherever a call is given up. `Reached` has the states to which
this leads.

Much can be wrong with such a state: engines may be missing, nodes may be deleted that their
projects still have. What cannot be wrong is that it is in order (`Reached.orderly`): a node is in
one project only and under its own identifier, it was created, and nothing is left locked behind. So
what is done to the nodes of one project is done to no other.

The description is generous on purpose. A call may be given up at any request, as the outside of a
transcript can leave any question without an answer. Changes to engines and settings are not told
apart: any change that leaves the projects and the cells alone is allowed between calls, as long as
the registry is free at its end. It is a larger set of states than can come about, and what is
proved of all of them is proved of those that do.

The invariant is kept by every kind of call for the same reason. A call on a node changes that node
only, and none of its agendas takes an identity away or makes a node that was created one that was
not (`Node.Arises.keeps_born`); a call on a project puts an entry in or takes one out.
-/

namespace Testbed

open Process (meets_andThen meets_bind)

namespace Node

variable {n : Node}

/-- Agendas do not make a node that was created one that was not. A node that was created may be
deleted, and then it was created still. -/
theorem Arises.keeps_born {step : NodeStep} {a : Agenda} (ha : Arises n step a)
    (hn : n.status ≠ .pending) : a.Keeps (fun m => m.status ≠ .pending) n := by
  cases ha with
  | refused => trivial
  | looked => exact hn
  | buried h => exact absurd h hn
  | destroyed => exact fun report => ⟨nofun, trivial⟩
  | created h => exact absurd h hn
  | acted a h =>
    refine fun report => ⟨?_, trivial⟩
    cases a with
    | reload => exact hn
    | start | stop | suspend | resume => exact nofun
  | updated changes h =>
    refine keptBy_of_forall ?_ hn
    refine forall_mem_updateStages (fun keys report m hm => ?_) (fun _ _ _ _ hm => hm)
      (fun _ _ _ hm => hm) (fun _ _ _ hm => hm) n changes
    show ((m.applyKeys keys.entries).merge report).status ≠ .pending
    rw [merge_status, applyKeys_status]
    exact hm
  | bound | unbound | captureStarted | captureStopped | posted | deleted =>
    exact fun report => ⟨hn, trivial⟩

/-- What an operation of a node keeps: its identity, and that it was created. Both are wanted for
the invariant on projects. -/
def Stays (n : Node) {α : Type} (u : Record α) : Prop :=
  u.after.identity = n.identity ∧ (n.status ≠ .pending → u.after.status ≠ .pending)

theorem nodeOp_stays (n : Node) (step : NodeStep) :
    (Scenario.nodeOp step).run.Meets n n.Stays := by
  refine (nodeOp_identity n step).and ((nodeOp_performed n step).mono fun u hu hn => ?_)
  exact (hu.throughout (P := fun m => m.status ≠ .pending) hn
    ((agenda_arises n step).keeps_born hn)).2

end Node

namespace Controller

variable {r₀ : Registry} {p : ProjectHandle} {c c' : Controller}

/-- **Something has happened to engines and settings only**, and the registry is free. How the
change comes about is left open: engines may be registered and forgotten, clients connected and
dropped, and settings applied. -/
structure Refitted (c c' : Controller) : Prop where
  registry : c'.registry.held = false
  openProjects : c'.openProjects = c.openProjects
  projects : c'.projects = c.projects
  cells : c'.cells = c.cells
  allocated : c'.allocated = c.allocated

/-- **The states that a control plane can come to** while its calls are made one after another.
Whatever the engines answer is admitted, also silence. -/
inductive Reached : Controller → Prop
  /-- It begins with settings. -/
  | start (s : Settings) : Reached (initial s)
  /-- Something happens to engines and settings. -/
  | refitted {c c' : Controller} (h : Reached c) (hc : Refitted c c') : Reached c'
  /-- A project is opened, or is not because its identifier is taken. -/
  | opened {c : Controller} (h : Reached c) (id : Uuid) (name : String) :
      Reached (openProject id name c).2
  /-- A call is made on a project or on a node. -/
  | called {c : Controller} (h : Reached c) (p : ProjectHandle) (chore : Chore)
      (outside : Process.Outside Controller Call fun _ => Answer) :
      Reached ((chore.task p).transcript outside c).after
  /-- A project is closed and forgotten. -/
  | deleted {c : Controller} (h : Reached c) (id : Uuid)
      (outside : Process.Outside Controller Call fun _ => Answer) :
      Reached ((deleteProject id).run.transcript outside c).after
  /-- All projects are closed and forgotten. -/
  | closed {c : Controller} (h : Reached c)
      (outside : Process.Outside Controller Call fun _ => Answer) :
      Reached (closeAll.run.transcript outside c).after

namespace Orderly

variable {id : Uuid} {h : NodeHandle}

theorem initial (s : Settings) : Orderly (initial s) where
  locks _ := rfl
  registry := rfl
  allocated _ _ _ := nofun
  named _ _ _ := nofun
  born _ _ _ := nofun
  apart _ _ _ _ _ := nofun
  known _ _ := nofun
  distinct _ _ _ := nofun

theorem refitted (ho : Orderly c) (hc : Refitted c c') : Orderly c' := by
  have hcell (h : NodeHandle) : c'.cell h = c.cell h := by
    unfold cell
    rw [hc.cells]
  have hnode (h : NodeHandle) : c'.node h = c.node h := congrArg NodeCell.node (hcell h)
  refine ho.evolves ⟨fun h => (congrArg NodeCell.held (hcell h)).trans (ho.locks h), hc.registry,
    Nat.le_of_eq hc.allocated.symm, ⟨0, fun p id h hget => .inl ⟨?_, ?_, ?_⟩⟩,
    ⟨default, fun id p hp => .inl ?_⟩⟩
  · unfold handleAt? project at hget
    rw [hc.projects] at hget
    exact hget
  · rw [hnode]
  · rw [hnode]
    exact fun hborn => hborn
  · rw [hc.openProjects] at hp
    exact hp

/-- A project that is opened has no nodes, and its handle is new. The other projects keep their
nodes. -/
theorem opened (ho : Orderly c) (id : Uuid) (name : String) :
    Orderly (openProject id name c).2 := by
  unfold openProject
  split
  · exact ho
  refine ho.evolves ⟨ho.locks, ho.registry, Nat.le_succ _, ⟨0, fun q id' h hget => .inl ?_⟩,
    ⟨id, fun id' p hp => ?_⟩⟩
  · have hget : (c.setProject c.allocated (.new c.projectsRoot id name)).handleAt? q id' = some h :=
      hget
    by_cases hq : q = c.allocated
    · subst hq
      unfold handleAt? at hget
      rw [project_setProject] at hget
      cases hget
    · unfold handleAt? project setProject at hget
      rw [Dict.get_insert_ne _ _ hq] at hget
      exact ⟨hget, rfl, fun hborn => hborn⟩
  · have hp : (c.openProjects.insert id c.allocated).get? id' = some p := hp
    by_cases hid : id' = id
    · rw [hid, Dict.get_insert_self] at hp
      cases hp
      exact .inr ⟨hid, rfl, Nat.lt_succ_self _⟩
    · rw [Dict.get_insert_ne _ _ hid] at hp
      exact .inl hp

/-- A node is added, or is not. If it is not, its handle is used up all the same. -/
theorem added (ho : Orderly c) {t : Record NodeHandle} (ha : Adds p id c t) :
    Orderly t.after := by
  have hold {q : ProjectHandle} {id' : Uuid} {h : NodeHandle} (hget : c.handleAt? q id' = some h) :
      Remains c t.after q id' h := by
    have hnode := ha.others h (Nat.ne_of_lt (ho.allocated q id' h hget))
    exact ⟨hget, congrArg (·.id) hnode, fun hborn => hnode.symm ▸ hborn⟩
  refine ho.evolves ⟨ha.resting.locks, ha.resting.registry, Nat.le_of_lt ha.allocated,
    ⟨p, fun q id' h hget => ?_⟩, ⟨default, fun id' q hq => .inl (ha.openProjects ▸ hq)⟩⟩
  by_cases hq : q = p
  · subst hq
    by_cases hok : ∃ h', t.result = some (.ok h')
    · obtain ⟨h', hok⟩ := hok
      obtain ⟨hnew, hnodes, hid, hstatus⟩ := ha.success h' hok
      unfold handleAt? at hget
      rw [hnodes, Dict.get_insert_eq_update] at hget
      by_cases heq : id' = id
      · rw [heq, Function.update_self] at hget
        obtain rfl := Option.some.inj hget
        refine .inr ⟨rfl, hnew, hnew ▸ ha.allocated, hid.trans heq.symm, ?_⟩
        rw [hstatus]
        exact nofun
      · rw [Function.update_of_ne heq] at hget
        exact .inl (hold hget)
    · unfold handleAt? at hget
      rw [ha.failure fun h' hok' => hok ⟨h', hok'⟩] at hget
      exact .inl (hold hget)
  · unfold handleAt? at hget
    rw [ha.elsewhere q hq] at hget
    exact .inl (hold hget)

/-- An operation of a node, through its handle. An error leaves the order as well. -/
theorem touched {α : Type} (ho : Orderly c) {op : Node.Op α}
    (hop : op.run.Meets (c.node h) (c.node h).Stays) :
    (withNode h op).run.Meets c fun t => Orderly t.after := by
  refine (withNode_alone ho.resting hop).mono ?_
  rintro t ⟨⟨u, ⟨hidentity, hborn⟩, hm⟩, hcalm⟩
  have hresting := hm.resting ho.resting
  refine ho.evolves ⟨hresting.locks, hresting.registry, hcalm.allocated,
    ⟨0, fun q id h' hget => .inl ?_⟩, ⟨default, fun id q hq => .inl (hcalm.openProjects ▸ hq)⟩⟩
  unfold handleAt? at hget
  rw [hcalm.nodes] at hget
  by_cases heq : h' = h
  · subst heq
    refine ⟨hget, ?_, ?_⟩
    · rw [hm.node]
      exact congrArg (·.1) hidentity
    · rw [hm.node]
      exact hborn
  · have hnode : t.after.node h' = c.node h' := congrArg NodeCell.node (hm.others h' heq)
    exact ⟨hget, congrArg (·.id) hnode, fun hborn => hnode.symm ▸ hborn⟩

/-- An operation of a node that is looked for in a project. It need not be found. -/
theorem found {α : Type} (ho : Orderly c) {op : Node.Op α}
    (hop : ∀ n : Node, op.run.Meets n n.Stays) (id : Uuid) :
    (findNode p id >>= fun h => withNode h op).run.Meets c fun t => Orderly t.after := by
  refine meets_andThen.mpr ((findNode_settles p id c).mono ?_)
  rintro _ rfl
  cases (c.project p).nodes.get? id with
  | none => exact ho
  | some h => exact ho.touched (hop (c.node h))

/-- A node of a project is deleted. The entry goes after the node. -/
theorem removed (ho : Orderly c) (id : Uuid) :
    (deleteNode p id).run.Meets c fun t => Orderly t.after := by
  cases hget : c.handleAt? p id with
  | none =>
    refine meets_andThen.mpr ((findNode_settles p id c).mono ?_)
    rintro _ rfl
    rw [show (c.project p).nodes.get? id = none from hget]
    exact ho
  | some h =>
    refine (deleteNode_drops ho.resting ho hget).mono fun t hd => ?_
    have hopen (id : Uuid) (p : ProjectHandle) (hp : t.after.openProjects.get? id = some p) :
        c.openProjects.get? id = some p := hd.openProjects ▸ hp
    by_cases hok : t.result = some (.ok ())
    · exact (hd.success hok).orderly ho hd.resting hopen
    · exact (hd.failure hok).orderly ho hd.resting hopen

theorem cleared (ho : Orderly c) {gone left : List Uuid} {t : Record Unit}
    (hc : Clears r₀ p gone left c t) : Orderly t.after :=
  hc.without.orderly ho hc.resting fun _ _ hp => hc.openProjects ▸ hp

theorem left (ho : Orderly c) {gone left : List Uuid} {t : Record Unit}
    (hl : Leaves r₀ p id gone left c t) : Orderly t.after :=
  hl.without.orderly ho hl.resting fun _ _ hq => (hl.get_openProjects.mp hq).1

/-- A project is closed and forgotten, or is not open. Its handle remains, and what it leads to. -/
theorem deleted (ho : Orderly c) (id : Uuid) :
    (deleteProject id).run.Meets c fun t => Orderly t.after := by
  cases hp : c.openProjects.get? id with
  | none =>
    refine meets_andThen.mpr ((findProject_settles id c).mono ?_)
    rintro _ rfl
    rw [hp]
    exact ho
  | some p =>
    exact (deleteProject_leaves ho.resting ho hp).mono fun t ⟨_, _, _, hl⟩ => ho.left hl

/-- Projects are closed and forgotten, one after another. The first failure does not end that. -/
theorem deletedAll (ho : Orderly c) (ids : List Uuid) :
    (deleteProjects ids).Meets c fun t => Orderly t.after := by
  induction ids generalizing c with
  | nil => exact ho
  | cons id rest ih =>
    refine meets_bind.mpr ((ho.deleted id).mono ?_)
    rintro ⟨log, result, after⟩ (ho : Orderly after)
    cases result with
    | none => exact ho
    | some result =>
      refine meets_bind.mpr ((ih ho).mono ?_)
      rintro ⟨log', errors, after'⟩ ho'
      cases errors with
      | none => exact ho'
      | some errors =>
        cases result with
        | ok a => exact ho'
        | error e => exact ho'

/-- **A call keeps things in order.** The cases are those of `Chore`: a node is added or deleted,
all nodes are, or a node is operated, by its handle or by its identifier in the project. Only the
first three change the table of a project, and of the others it is enough that the node stays
itself. -/
theorem called (ho : Orderly c) (p : ProjectHandle) (chore : Chore) :
    (chore.task p).Meets c fun t => Orderly t.after := by
  have hcapture {α : Type} {op : Node.Op α} {g : α → Outcome} (step : NodeStep)
      (hop : Scenario.nodeOp step = g <$> op) (n : Node) : op.run.Meets n n.Stays :=
    Node.meets_map.mp (hop ▸ Node.nodeOp_stays n step)
  cases chore with
  | add engine spec =>
    exact (addNodeTo_adds ho.locks ho.registry p engine spec).mono fun t ha => ho.added ha
  | remove id => exact ho.removed id
  | close =>
    exact (closeProject_clears ho.resting ho p).mono fun t ⟨_, _, _, hc⟩ => ho.cleared hc
  | startCapture id index file =>
    exact ho.found (hcapture (.startCapture index file) rfl) id
  | stopCapture id index => exact ho.found (hcapture (.stopCapture index) rfl) id
  | operate h step => exact ho.touched (Node.nodeOp_stays (c.node h) step)

end Orderly

/-- **Whatever a control plane has come to, it is in order.** By induction over the calls. This is
what the theorems about closing are applied to: they need to know that no node is in two projects
and that no lock was left behind, and this is known of every state that a control plane can be in
between its calls. -/
theorem Reached.orderly (hc : Reached c) : Orderly c := by
  induction hc with
  | start s => exact .initial s
  | refitted _ hc ih => exact ih.refitted hc
  | opened _ id name ih => exact ih.opened id name
  | called _ p chore outside ih => exact (ih.called p chore).transcript outside
  | deleted _ id outside ih => exact (ih.deleted id).transcript outside
  | @closed c _ outside ih =>
    have hall : closeAll.run.Meets c fun t => Orderly t.after := by
      refine meets_bind.mpr ⟨rfl, meets_bind.mpr ((ih.deletedAll c.openProjects.keys).mono ?_)⟩
      rintro ⟨log, errors, after⟩ ho
      cases errors with
      | none => exact ho
      | some errors => exact ho
    exact hall.transcript outside

end Controller

end Testbed

import Testbed.Controller.Projects
import Testbed.Proofs.Dict
import Testbed.Proofs.Project.AddDeleteSteps

/-!
# Opening and closing projects, phase by phase

What calls that open projects, look for them, close them and add nodes to them do to the table of
projects, step by step. Most of what such a call does is *calm*: it works on a node, asks an engine,
waits for a lock, claims an identifier, and no project gets or loses a node. `Phase` has the parts
of a call between the steps that are not, and `Acts` has all the steps.

A call that closes a project looks for it, lists its nodes, deletes those that were listed and takes
out of the register *whatever is open under the identifier by then*. Nothing connects these steps,
which is why a phase has to remember what was found and how much of it is left. A call that adds a
node looks for the project once and keeps the handle. What follows from that when such calls run
side by side is the matter of `Testbed.Proofs.Project.Closing`.
-/

namespace Testbed

open Process (obeys_andThen obeys_bind)

/-- The protocol that allows everything. What a process may do is then told by the place at which it
is embedded. -/
def Protocol.free (σ Q : Type) : Protocol Unit σ Q where
  knows _ _ := True
  moves _ _ _ _ := True
  puts _ _ := True
  quits _ _ _ _ := True

/-- Every process obeys a protocol that allows everything. -/
theorem Process.obeys_free {σ Q α : Type} {R : Q → Type} (p : Process σ Q R α) :
    p.Obeys (.free σ Q) (fun _ _ => True) () := by
  induction p with
  | done a => trivial
  | step ready update next abandon ih =>
    exact ⟨fun s _ _ => ⟨(), trivial, ih s⟩, fun _ _ => ⟨(), trivial⟩⟩
  | ask question next abandon ih => exact ⟨trivial, ih, fun _ _ => ⟨(), trivial⟩⟩

namespace Controller

/-! ## Calm steps

Calm steps leave the nodes of every project and the register of projects alone. They compose, so
whole operations can be calm, and these need not be looked at again. -/

/-- **A change at which no project is opened or closed** and none gets or loses a node. Locks,
nodes, the registry and the claims of a project may all change. -/
structure Calm (c c' : Controller) : Prop where
  /-- The nodes of the projects stay. -/
  nodes : ∀ p, (c'.project p).nodes = (c.project p).nodes
  /-- The open projects stay open. -/
  openProjects : c'.openProjects = c.openProjects
  /-- The handles given out stay given out. -/
  allocated : c.allocated ≤ c'.allocated

/-- The nodes of the other projects stay. -/
theorem nodes_editProject_of_ne {c : Controller} {p q : ProjectHandle} (f : Project → Project)
    (hne : q ≠ p) : ((editProject p f c).project q).nodes = (c.project q).nodes := by
  unfold editProject project setProject
  rw [Dict.get_insert_ne _ _ hne]

namespace Calm

variable {c c' c'' : Controller}

theorem refl (c : Controller) : Calm c c := ⟨fun _ => rfl, rfl, Nat.le_refl _⟩

theorem trans (h : Calm c c') (h' : Calm c' c'') : Calm c c'' :=
  ⟨fun p => (h'.nodes p).trans (h.nodes p), h'.openProjects.trans h.openProjects,
    Nat.le_trans h.allocated h'.allocated⟩

theorem setCell (h : NodeHandle) (cell : NodeCell) (c : Controller) : Calm c (c.setCell h cell) :=
  ⟨fun _ => rfl, rfl, Nat.le_refl _⟩

theorem setRegistry (r : Registry) (c : Controller) : Calm c (c.setRegistry r) :=
  ⟨fun _ => rfl, rfl, Nat.le_refl _⟩

/-- Changing something else about a project than its nodes. -/
theorem editProject {p : ProjectHandle} {f : Project → Project}
    (hf : (f (c.project p)).nodes = (c.project p).nodes) : Calm c (c.editProject p f) where
  nodes q := by
    by_cases hq : q = p
    · subst hq
      rw [project_editProject]
      exact hf
    · exact nodes_editProject_of_ne f hq
  openProjects := rfl
  allocated := Nat.le_refl _

end Calm

/-- The protocol of calm processes. Nothing has to be known for it, so others may do anything in
between. -/
def calmly : Protocol Unit Controller Call where
  knows _ _ := True
  moves _ c c' _ := Calm c c'
  puts _ _ := True
  quits _ c c' _ := Calm c c'

section Nodes

variable {α : Type} {h : NodeHandle}

/-- **Whatever an operation on a node does is calm.** The operation is any, of the project's own or
of a caller who has the handle. -/
theorem onNode_calm (op : Node.Op α) :
    (onNode h op).run.Obeys calmly (fun _ _ => True) () := by
  have hzoom := Process.Obeys.zoom (fun c : Controller => c.node h) (setNode h)
    (Process.obeys_free op.run)
  refine Process.Obeys.handle (fun _ _ _ => trivial) ?_ ?_ ?_ hzoom
  · rintro ⟨⟩ c _ ⟨⟩ - ⟨n, -, rfl⟩
    exact .setCell h _ c
  · rintro ⟨⟩ c _ ⟨⟩ - ⟨n, -, rfl⟩
    exact .setCell h _ c
  · rintro ⟨⟩ question abandon - hquit
    have habandon : ∀ c, Calm c (abandon c) := by
      intro c
      obtain ⟨⟨⟩, n, -, heq⟩ := hquit c trivial
      rw [heq]
      exact .setCell h _ c
    cases question with
    | send call => exact ⟨trivial, fun answer => rfl, fun c _ => ⟨(), habandon c⟩⟩
    | engine id =>
      have hclient := Process.Obeys.zoom Controller.registry setRegistry
        (Process.obeys_free (Registry.client id : Process Registry Call (fun _ => Answer) _))
      refine Process.Obeys.onAbandon (hclient.embed (fun _ _ => trivial) ?_ ?_ ?_ (fun _ _ => rfl))
      · rintro c _ ⟨⟩ - ⟨r, -, rfl⟩
        exact ⟨rfl, .setRegistry r c⟩
      · exact fun _ _ => trivial
      · rintro c _ ⟨⟩ - ⟨r, -, rfl⟩
        exact ⟨(), (Calm.setRegistry r c).trans (habandon _)⟩

/-- An operation with the lock of its node held is calm. Taking and giving back the lock changes no
project either. -/
theorem withNode_calm (op : Node.Op α) :
    (withNode h op).run.Obeys calmly (fun _ _ => True) () := by
  refine obeys_andThen.mpr ⟨fun c _ _ => ⟨(), .setCell h _ c, ?_⟩, fun c _ => ⟨(), .refl c⟩⟩
  refine ensuring_obeys ((onNode_calm op).embed (fun _ _ => trivial) ?_ ?_ ?_ fun _ _ => ?_)
  · exact fun c c' _ _ hs => ⟨rfl, hs⟩
  · exact fun _ _ => trivial
  · exact fun c c' _ _ hs => ⟨(), hs.trans (.setCell h _ c')⟩
  · exact ⟨fun c _ => ⟨(), .setCell h _ c, trivial⟩, fun c _ => ⟨(), .setCell h _ c⟩⟩

end Nodes

/-! ## Phases

What remains are a few steps at which a project is found, opened, changed or taken out. A phase
holds what a call has learned at them. -/

/-- **A call on projects.** A call names a project by its identifier and not by a handle, so that it
first has to look for it. -/
inductive Undertaking where
  /-- Opens a project. -/
  | create (id : Uuid) (name : String)
  /-- Looks for a project. -/
  | get (id : Uuid)
  /-- Closes a project. -/
  | delete (id : Uuid)
  /-- Adds a node to the project that it finds. -/
  | add (id : Uuid) (engine : String) (spec : NodeSpec)

namespace Undertaking

/-- What a call returns if it does not fail. -/
def Result : Undertaking → Type
  | create .. | get _ => ProjectHandle
  | delete _ => Unit
  | add .. => NodeHandle

/-- What a call does. -/
def task : (u : Undertaking) → Task (Except ControlError u.Result)
  | create id name => (createProject id name).run
  | get id => (findProject id).run
  | delete id => (deleteProject id).run
  | add id engine spec => (findProject id >>= fun p => addNodeTo p engine spec).run

end Undertaking

/-- **How far a call is.** The number of handles is remembered because it tells what was there when
the project was found from what was made since: the latter has a handle from that number on. -/
inductive Phase where
  /-- It has taken no step. -/
  | fresh
  /-- It found a project and adds a node to it. -/
  | adding (p : ProjectHandle)
  /-- It found a project to close, at a time when a number of handles was given out. The nodes that
  are still to be deleted are known once they are listed. -/
  | closing (p : ProjectHandle) (mark : Nat) (left : Option (List Uuid))
  /-- It has nothing left to do to a project. -/
  | finished

/-- **The steps of a call on projects.** All but the first two are single steps of the program at
which the table of projects, or a project's table of nodes, is read or written. -/
inductive Acts : Undertaking → Phase → Controller → Controller → Phase → Prop
  | works {u : Undertaking} {g : Phase} {c c' : Controller} (hg : g ≠ .fresh) (h : Calm c c') :
      Acts u g c c' g
  | retires {u : Undertaking} {g : Phase} {c c' : Controller} (h : Calm c c') :
      Acts u g c c' .finished
  | opens {c : Controller} {id : Uuid} {name : String} :
      Acts (.create id name) .fresh c (openProject id name c).2 .finished
  | findsToAdd {c : Controller} {id : Uuid} {engine : String} {spec : NodeSpec} {p : ProjectHandle}
      (hp : c.openProjects.get? id = some p) : Acts (.add id engine spec) .fresh c c (.adding p)
  | findsToClose {c : Controller} {id : Uuid} {p : ProjectHandle}
      (hp : c.openProjects.get? id = some p) :
      Acts (.delete id) .fresh c c (.closing p c.allocated none)
  | enters {u : Undertaking} {c : Controller} {p : ProjectHandle} (id : Uuid) (h : NodeHandle) :
      Acts u (.adding p) c (editProject p (·.put id h) c) (.adding p)
  | lists {u : Undertaking} {c : Controller} {p : ProjectHandle} {mark : Nat} :
      Acts u (.closing p mark none) c c (.closing p mark (some (c.project p).nodes.keys))
  | drops {u : Undertaking} {c : Controller} {p : ProjectHandle} {mark : Nat} {id : Uuid}
      {rest : List Uuid} :
      Acts u (.closing p mark (some (id :: rest))) c (editProject p (·.drop id) c)
        (.closing p mark (some rest))
  | forgets {c : Controller} {id : Uuid} {p : ProjectHandle} {mark : Nat} :
      Acts (.delete id) (.closing p mark (some [])) c (forgetProject id c) .finished

/-- **The protocol of calls on projects.** Nobody is asked at first, and a call that is abandoned
retires calmly. Every request of such a call is about a node of the project that it found. -/
def undertaking (u : Undertaking) : Protocol Phase Controller Call where
  knows _ _ := True
  moves := Acts u
  puts g _ := g ≠ .fresh
  quits _ c c' g' := Calm c c' ∧ g' = .finished

section Tasks

variable {u : Undertaking} {α : Type}

/-- What is calm may be done in any phase but the first. -/
theorem obeys_of_calm {x : Op α} (h : x.run.Obeys calmly (fun _ _ => True) ()) {g : Phase}
    (hg : g ≠ .fresh) : x.run.Obeys (undertaking u) (fun g' _ => g' = g) g :=
  h.embed (fun _ _ => trivial) (fun _ _ _ _ hs => ⟨rfl, .works hg hs⟩) (fun _ _ => hg)
    (fun _ _ _ _ hs => ⟨.finished, hs, rfl⟩) (fun _ _ => rfl)

/-- Looking for a project, in the phase that finding it makes. -/
theorem findProject_acts {id : Uuid} (found : Phase → ProjectHandle → Prop)
    (hfound : ∀ c p, c.openProjects.get? id = some p → ∃ g, Acts u .fresh c c g ∧ found g p) :
    (findProject id).run.Obeys (undertaking u) (fun g result =>
      match result with
      | .ok p => found g p
      | .error _ => True) .fresh := by
  refine obeys_andThen.mpr ⟨fun c _ _ => ?_, fun c _ => ⟨.finished, .refl c, rfl⟩⟩
  show ∃ g, Acts u .fresh c c g ∧ Process.Obeys _ _ _
    (Process.done (Except.ok (c.openProjects.get? id)))
  dsimp only [Process.Obeys]
  cases hp : c.openProjects.get? id with
  | none => exact ⟨.finished, .retires (.refl c), trivial⟩
  | some p => exact hfound c p hp

/-- Claiming an identifier is calm. -/
theorem claimNode_calm (p : ProjectHandle) (id : Uuid) (c : Controller) :
    Calm c (claimNode p id c).2 := by
  by_cases hfree : (c.project p).isFree id = true
  · rw [claimNode_of_free hfree]
    exact Calm.editProject (p := p) (f := (·.claim id)) rfl
  · rw [claimNode_of_taken hfree]
    exact .refl c

/-- **A call that adds a node to the project it found** enters it there and nowhere else. The
project may have been closed in the meantime; the call does not look again. -/
theorem addNodeTo_acts (p : ProjectHandle) (engine : String) (spec : NodeSpec) :
    (addNodeTo p engine spec).run.Obeys (undertaking u) (fun _ _ => True) (.adding p) := by
  have hunclaim (c : Controller) : Calm c (editProject p (·.unclaim spec.id) c) := .editProject rfl
  refine obeys_andThen.mpr ⟨fun c _ _ => ⟨.adding p, ?_, ?_⟩, fun c _ => ⟨.finished, .refl c, rfl⟩⟩
  · exact .works (by rintro ⟨⟩) ⟨fun _ => rfl, rfl, Nat.le_succ _⟩
  have hclaim : (Process.atomically (claimNode p spec.id) : Task _).Obeys (undertaking u)
      (fun g _ => g = .adding p) (.adding p) :=
    ⟨fun c _ _ => ⟨_, .works (by rintro ⟨⟩) (claimNode_calm p spec.id c), rfl⟩,
      fun c _ => ⟨.finished, .refl c, rfl⟩⟩
  refine obeys_andThen.mpr (hclaim.mono ?_)
  rintro _ (e | ⟨⟩) rfl
  · trivial
  -- wherever it is abandoned or ends from here, the claim is given up
  have hends : (∀ c, (undertaking u).knows (.adding p) c →
      ∃ g', (undertaking u).moves (.adding p) c (editProject p (·.unclaim spec.id) c) g' ∧ True)
      ∧ ∀ c, (undertaking u).knows (.adding p) c →
        ∃ g', (undertaking u).quits (.adding p) c (editProject p (·.unclaim spec.id) c) g' :=
    ⟨fun c _ => ⟨.finished, .retires (hunclaim c), trivial⟩,
      fun c _ => ⟨.finished, hunclaim c, rfl⟩⟩
  have hcreate : (onNode (draftNode p engine spec c).1 Node.create).run.Obeys
      ((undertaking u).onAbandon (editProject p (·.unclaim spec.id))) (fun g _ => g = .adding p)
      (.adding p) :=
    (onNode_calm Node.create).embed (fun _ _ => trivial)
      (fun _ _ _ _ hs => ⟨rfl, .works (by rintro ⟨⟩) hs⟩) (fun _ _ => by rintro ⟨⟩)
      (fun _ _ _ _ hs => ⟨.finished, Calm.trans hs (hunclaim _), rfl⟩) (fun _ _ => rfl)
  refine ensuring_obeys (obeys_andThen.mpr (hcreate.mono ?_))
  rintro _ (e | ⟨⟩) rfl
  · exact hends
  · exact ⟨fun c _ _ => ⟨_, .enters spec.id _, hends⟩, fun c _ => ⟨.finished, hunclaim c, rfl⟩⟩

/-- **Deleting listed nodes** drops one after another. If a deletion fails the call ends there, with
the rest of the list undone. -/
theorem deleteNodes_acts (p : ProjectHandle) (mark : Nat) (ids : List Uuid) :
    (deleteNodes p ids).run.Obeys (undertaking u)
      (fun g result => result = .ok () → g = .closing p mark (some []))
      (.closing p mark (some ids)) := by
  induction ids with
  | nil => exact fun _ => rfl
  | cons id rest ih =>
    have hfind : (findNode p id).run.Obeys calmly (fun _ _ => True) () := by
      refine obeys_andThen.mpr ⟨fun c _ _ => ⟨(), .refl c, ?_⟩, fun c _ => ⟨(), .refl c⟩⟩
      show Process.Obeys _ _ _ (Process.done (Except.ok (c.project p)))
      dsimp only [Process.Obeys]
      cases (c.project p).nodes.get? id with
      | some h => trivial
      | none => trivial
    refine obeys_andThen.mpr (obeys_andThen.mpr ((obeys_of_calm hfind (by rintro ⟨⟩)).mono ?_))
    rintro _ (e | h) rfl
    · rintro ⟨⟩
    refine obeys_andThen.mpr ((obeys_of_calm (withNode_calm Node.destroy)
      (by rintro ⟨⟩)).mono ?_)
    rintro _ (e | ⟨⟩) rfl
    · rintro ⟨⟩
    · exact ⟨fun c _ _ => ⟨_, .drops, ih⟩, fun c _ => ⟨.finished, .refl c, rfl⟩⟩

/-- **Every call on projects takes its steps and no others.** So what calls do to each other can be
argued about phases, of which there are few, instead of programs. -/
theorem Undertaking.task_obeys (u : Undertaking) :
    u.task.Obeys (undertaking u) (fun _ _ => True) .fresh := by
  cases u with
  | create id name =>
    exact ⟨fun c _ _ => ⟨.finished, .opens, trivial⟩, fun c _ => ⟨.finished, .refl c, rfl⟩⟩
  | get id =>
    exact (findProject_acts (fun _ _ => True) fun c p _ =>
      ⟨.finished, .retires (.refl c), trivial⟩).mono fun _ _ _ => trivial
  | add id engine spec =>
    refine obeys_andThen.mpr ((findProject_acts (fun g p => g = .adding p) fun c p hp =>
      ⟨_, .findsToAdd hp, rfl⟩).mono ?_)
    rintro g (e | p) hfound
    · trivial
    · cases hfound
      exact addNodeTo_acts p engine spec
  | delete id =>
    refine obeys_andThen.mpr ((findProject_acts (fun g p => ∃ mark, g = .closing p mark none)
      fun c p hp => ⟨_, .findsToClose hp, c.allocated, rfl⟩).mono ?_)
    rintro g (e | p) hfound
    · trivial
    obtain ⟨mark, rfl⟩ := hfound
    refine obeys_andThen.mpr ⟨fun c _ _ => ⟨_, .lists, ?_⟩, fun c _ => ⟨.finished, .refl c, rfl⟩⟩
    refine (deleteNodes_acts p mark _).mono ?_
    rintro g (e | ⟨⟩) hg
    · trivial
    · rw [hg rfl]
      exact ⟨fun c _ _ => ⟨.finished, .forgets, trivial⟩, fun c _ => ⟨.finished, .refl c, rfl⟩⟩

end Tasks

end Controller

end Testbed

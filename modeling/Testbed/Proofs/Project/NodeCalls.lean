import Testbed.Proofs.Controller.Work
import Testbed.Proofs.Node.Existence
import Testbed.Proofs.Project.Ledger

/-!
# Dealings with the nodes of a project

Calls add nodes to a project, delete them, and perform operations on them, be it on a node that they
look up or on one whose handle they have already. `Part` is how far such a call is, with what it
learned: which node it got hold of, what it did there, whether that succeeded.
`Dealing.task_follows` says that the calls play these parts and no others.

What the parts amount to for the claims of the project is the matter of `Role` (`Part.role`), and
for the existence of the nodes that of `Node.Fate`.
-/

namespace Testbed.Controller

open Process (follows_andThen)

/-- **A dealing with the nodes of a project.** An operation on a node is one of those that could not
delete it.

Whoever gets hold of a node while others are at work, be it as the one who added it, does no more
than who looks it up when it is there (`operate`): looking up changes nothing, and any amount of
time may pass until the lock is taken. The handles of `use` are those that were known before. -/
inductive Dealing where
  /-- A node is added. -/
  | add (engine : String) (spec : NodeSpec)
  /-- A node is deleted. -/
  | delete (id : Uuid)
  /-- A node is looked up and operated on. -/
  | operate (id : Uuid) (step : NodeStep) (h : step.isGentle = true)
  /-- A node is operated on under a handle. -/
  | use (handle : NodeHandle) (step : NodeStep) (h : step.isGentle = true)

namespace Dealing

/-- The identifier of the node that is added or looked up. -/
def id : Dealing → Uuid
  | add _ spec => spec.id
  | delete id | operate id .. => id
  | use .. => default

/-- Whether a node is to be added. Such a call knows the node before anybody else does. -/
def adds : Dealing → Bool
  | add .. => true
  | delete _ | operate .. | use .. => false

/-- Whether a node is to be deleted. -/
def deletes : Dealing → Bool
  | delete _ => true
  | add .. | operate .. | use .. => false

/-- Whether a node is looked up. It then waits for the lock of what it has found, which may be
deleted in the meantime. -/
def looksUp : Dealing → Bool
  | delete _ | operate .. => true
  | add .. | use .. => false

/-- What a call returns if it does not fail. -/
def Result : Dealing → Type
  | add .. => NodeHandle
  | delete _ => Unit
  | operate .. | use .. => Outcome

theorem adds_of_deletes {d : Dealing} (hd : d.deletes = true) : d.adds = false := by
  cases d with
  | delete id => rfl
  | add | operate | use => cases hd

theorem looksUp_of_deletes {d : Dealing} (hd : d.deletes = true) : d.looksUp = true := by
  cases d with
  | delete id => rfl
  | add | operate | use => cases hd

/-- What a call does on the project under a handle. -/
def task (p : ProjectHandle) : (d : Dealing) → Task (Except ControlError d.Result)
  | add engine spec => (addNodeTo p engine spec).run
  | delete id => (deleteNode p id).run
  | operate id step _ => (findNode p id >>= fun h => withNode h (Scenario.nodeOp step)).run
  | use h step _ => (withNode h (Scenario.nodeOp step)).run

end Dealing

/-- **How far a dealing is.** It remembers more than a role does: the work on the node, with the
exchanges of the operation so far and the node that it began with. -/
inductive Part where
  /-- Nothing is done yet about the node to be added. -/
  | fresh
  /-- The node is drawn up. -/
  | drafted (h : NodeHandle)
  /-- Its identifier was taken. -/
  | lost
  /-- Its identifier is claimed, and it is being created. -/
  | creating (h : NodeHandle) (w : Work)
  /-- It is entered, and its identifier is still claimed. -/
  | entered
  /-- The claim is given up. -/
  | released
  /-- A node is looked for. -/
  | seeking
  /-- There is none. -/
  | missed
  /-- The lock of the node is waited for. -/
  | waiting (h : NodeHandle)
  /-- The lock is held, and the operation is at work. -/
  | inside (h : NodeHandle) (w : Work)
  /-- The lock is given back, after a success or a failure. -/
  | left (h : NodeHandle) (w : Work) (ok : Bool)
  /-- The node was deleted and is forgotten. -/
  | dropped (h : NodeHandle) (w : Work)

namespace Part

/-- The part for the claims of the project. -/
def role : Part → Role
  | fresh => .fresh
  | drafted h => .drafted h
  | lost => .lost
  | creating h _ => .creating h
  | entered => .entered
  | released => .released
  | seeking | missed | waiting _ | inside .. | left .. | dropped .. => .deleting

/-- The part at the beginning. -/
def first : Dealing → Part
  | .add .. => fresh
  | .delete _ | .operate .. => seeking
  | .use h .. => waiting h

/-- **The steps of a dealing**, with what they do to the project and its nodes. The two tables that
are involved are the project's, of nodes and claims, and that of the nodes with their locks. -/
inductive Moves (p : ProjectHandle) (d : Dealing) : Part → Controller → Controller → Part → Prop
  | draws {c : Controller} {engine : String} {spec : NodeSpec} (hspec : spec.id = d.id) :
      Moves p d fresh c (c.draftNode p engine spec).2 (drafted c.allocated)
  | loses {c : Controller} {h : NodeHandle} : Moves p d (drafted h) c c lost
  | claims {c : Controller} {h : NodeHandle} (hfree : (c.project p).isFree d.id = true) :
      Moves p d (drafted h) c (c.editProject p (·.claim d.id)) (creating h (.start (c.node h)))
  | creates {c c' : Controller} {h : NodeHandle} {w w' : Work} (hw : Work.Moves h w c c' w') :
      Moves p d (creating h w) c c' (creating h w')
  | enters {c : Controller} {h : NodeHandle} {w : Work} (hw : w.node.status = .created) :
      Moves p d (creating h w) c (c.editProject p (·.put d.id h)) entered
  | releases {c : Controller} {g : Part} (hg : g.role.holds = true) :
      Moves p d g c (c.editProject p (·.unclaim d.id)) released
  | finds {c : Controller} {h : NodeHandle} (hh : (c.project p).nodes.get? d.id = some h) :
      Moves p d seeking c c (waiting h)
  | misses {c : Controller} : Moves p d seeking c c missed
  | locks {c : Controller} {h : NodeHandle} (hfree : (c.cell h).held = false) :
      Moves p d (waiting h) c (c.setHeld h true) (inside h (.start (c.node h)))
  | works {c c' : Controller} {h : NodeHandle} {w w' : Work} (hw : Work.Moves h w c c' w') :
      Moves p d (inside h w) c c' (inside h w')
  | unlocks {c : Controller} {h : NodeHandle} {w : Work} {ok : Bool} (hw : w.wait = .nothing)
      (hfate : Node.Fate d.deletes w.first w.log (some ok) w.node) :
      Moves p d (inside h w) c (c.setHeld h false) (left h w ok)
  | drops {c : Controller} {h : NodeHandle} {w : Work} (hd : d.deletes = true) :
      Moves p d (left h w true) c (c.editProject p (·.drop d.id)) (dropped h w)

/-- **The requests of a dealing.** A dealing asks while it works on a node and at no other time, and
waits for the answer before it goes on. -/
inductive Asks (d : Dealing) : Part → Call → Part → Prop
  | creating {h : NodeHandle} {w : Work} {call : Call} (hw : w.wait = .nothing)
      (hpost : call.request.method = .post) :
      Asks d (creating h w) call (creating h { w with wait := .answer call })
  | inside {h : NodeHandle} {w : Work} {call : Call} {m : Node} (hw : w.wait = .nothing)
      (hfate : Node.Fate d.deletes w.first (w.log ++ [⟨w.node, .send call, none⟩]) none m) :
      Asks d (inside h w) call (inside h { w with wait := .answer call })

/-- What is learned from the answer to a request. -/
inductive Hears : Part → Call → Answer → Part → Prop
  | creating {h : NodeHandle} {w : Work} {call : Call} {answer : Answer}
      (hw : w.wait = .answer call) :
      Hears (creating h w) call answer (creating h (w.learn (.send call) answer))
  | inside {h : NodeHandle} {w : Work} {call : Call} {answer : Answer}
      (hw : w.wait = .answer call) :
      Hears (inside h w) call answer (inside h (w.learn (.send call) answer))

/-- What a dealing has returned, in the part in which it ends. A deletion that succeeded has ended
with the entry removed, and not before. -/
def Ends (d : Dealing) {α : Type} : Part → Except ControlError α → Prop
  | lost, result | missed, result => result.toBool = false
  | released, _ => d.deletes = false
  | left _ _ ok, result => result.toBool = ok ∧ (d.deletes = true → ok = false)
  | dropped .., result => result.toBool = true
  | _, _ => False

end Part

/-- **The dialogue of a dealing** on the project under a handle. It differs from a protocol in that
questions and answers are told apart from the steps. -/
def dealing (p : ProjectHandle) (d : Dealing) :
    Dialogue Part Controller Call (fun _ => Answer) where
  knows
    | .creating h w, c | .inside h w, c => c.node h = w.node
    | _, _ => True
  moves := Part.Moves p d
  asks := Part.Asks d
  hears := Part.Hears

/-! ## Operations with a lock or a claim

An operation is performed on a node that nobody else can work on, be it by its lock or because
nobody else knows it. How far it is can then be said without regard to the others. -/

section Follows

variable {α : Type} {p : ProjectHandle} {d : Dealing} {h : NodeHandle}

/-- How far a visit is, as a part. -/
def Visit.part (h : NodeHandle) : Visit α → Part
  | .waiting => .waiting h
  | .inside w => .inside h w
  | .left w result => .left h w result.toBool

/-- **An operation on a node with its lock held.** The hypotheses are what is known of operations on
a node in general: what they do is determined by their answers, and what may become of the node. -/
theorem visit_follows {op : Node.Op α} (hop : Node.Twins op.run op.run)
    (hfate : ∀ n, op.run.Meets n fun u =>
      Node.Fate d.deletes n u.exchanges (Node.ended u) u.after) :
    (withNode h op).run.Follows (dealing p d) (fun g result => ∃ w, g = .left h w result.toBool)
      (.waiting h) := by
  have hvisit := withNode_follows (h := h) hop hfate
  refine hvisit.embed (Visit.part h) ?_ ?_ ?_ ?_ ?_
  · intro v c hc
    cases v with
    | inside w => exact hc
    | waiting | left => trivial
  · intro v c c' v' _ hmoves
    cases hmoves with
    | enters hfree => exact .locks hfree
    | works hw => exact .works hw
    | leaves hw hpost => exact .unlocks hw hpost
  · rintro _ call _ ⟨w, w', rfl, rfl, hw, rfl, m, hpost⟩
    exact .inside hw hpost
  · rintro _ call answer _ ⟨w, w', rfl, rfl, hw, rfl⟩
    exact .inside hw
  · rintro _ result ⟨w, rfl⟩
    exact ⟨w, rfl⟩

/-- Creating the node whose identifier is claimed. -/
theorem create_follows (n : Node) :
    (onNode h Node.create).run.Follows (dealing p d)
      (fun g result => ∃ w, g = .creating h w ∧ (result = .ok () → w.node.status = .created))
      (.creating h (.start n)) := by
  let post (_ : Node) (u : Node.Record Unit) : Prop :=
    (∀ x ∈ u.exchanges, ∀ call, x.question = .send call → call.request.method = .post)
      ∧ (u.result = some (.ok ()) → u.after.status = .created)
  have hwork : (onNode h Node.create).run.Follows (working h post) _ (.start n) :=
    onNode_follows Node.create_twins rfl (Node.create_created n)
  refine hwork.embed (Part.creating h) (fun _ _ hc => hc) ?_ ?_ ?_ ?_
  · exact fun _ _ _ _ _ hmoves => .creates hmoves
  · rintro w call _ ⟨hw, rfl, m, hposts, -⟩
    exact .creating hw (hposts _ (List.mem_append_right _ List.mem_cons_self) call rfl)
  · rintro w call answer _ ⟨hw, rfl⟩
    exact .creating hw
  · rintro w result ⟨-, -, hpost⟩
    exact ⟨w, rfl, fun hresult => hpost (congrArg some hresult)⟩

/-- Looking for a node. -/
theorem find_follows :
    (findNode p d.id).run.Follows (dealing p d) (fun g result =>
      match result with
      | .ok h => g = .waiting h
      | .error _ => g = .missed) .seeking := by
  refine follows_andThen.mpr fun c _ _ => ?_
  show ∃ g', Part.Moves p d .seeking c c g' ∧ Process.Follows _ _ g'
    (Process.done (Except.ok (c.project p)))
  dsimp only [Process.Follows]
  cases hget : (c.project p).nodes.get? d.id with
  | some h => exact ⟨_, .finds hget, rfl⟩
  | none => exact ⟨_, .misses, rfl⟩

/-- Claiming the identifier of the node that was drawn up. -/
theorem claim_follows :
    (Process.atomically (claimNode p d.id) : Task (Except ControlError Unit)).Follows (dealing p d)
      (fun g result =>
        match result with
        | .ok () => ∃ n, g = .creating h (.start n)
        | .error _ => g = .lost) (.drafted h) := by
  intro c _ _
  dsimp only
  by_cases hfree : (c.project p).isFree d.id = true
  · rw [claimNode_of_free hfree]
    exact ⟨_, .claims hfree, c.node h, rfl⟩
  · rw [claimNode_of_taken hfree]
    exact ⟨_, .loses, rfl⟩

/-- Giving the claim up. It is done whether the node was entered or not. -/
theorem release_follows (hd : d.deletes = false) {g : Part} (hg : g.role.holds = true)
    (result : Except ControlError α) (c : Controller) :
    ∃ g', (dealing p d).moves g c (editProject p (·.unclaim d.id) c) g'
      ∧ Part.Ends d g' result :=
  ⟨.released, .releases hg, hd⟩

end Follows

/-! ## The calls

The parts are put together to whole calls. A call ends in a part that agrees with its result. -/

section Calls

variable {p : ProjectHandle}

theorem add_follows (engine : String) (spec : NodeSpec) :
    (addNodeTo p engine spec).run.Follows (dealing p (.add engine spec))
      (Part.Ends (.add engine spec)) .fresh := by
  refine follows_andThen.mpr fun c _ _ => ⟨.drafted c.allocated, .draws rfl, ?_⟩
  refine follows_andThen.mpr (claim_follows.mono ?_)
  rintro _ (e | ⟨⟩) hclaim
  · obtain rfl := hclaim
    rfl
  obtain ⟨n, rfl⟩ := hclaim
  refine ensuring_follows (follows_andThen.mpr ((create_follows n).mono ?_))
  rintro _ (e | ⟨⟩) ⟨w, rfl, hw⟩
  · exact fun c _ => release_follows rfl rfl _ c
  · exact fun c _ _ => ⟨.entered, .enters (hw rfl), fun c _ => release_follows rfl rfl _ c⟩

theorem delete_follows (id : Uuid) :
    (deleteNode p id).run.Follows (dealing p (.delete id)) (Part.Ends (.delete id)) .seeking := by
  refine follows_andThen.mpr (Process.Follows.mono (find_follows (d := .delete id)) ?_)
  rintro _ (e | h) rfl
  · rfl
  have hvisit := visit_follows (p := p) (d := .delete id) (h := h) Node.destroy_twins
    Node.destroy_fate
  refine follows_andThen.mpr (hvisit.mono ?_)
  rintro _ (e | ⟨⟩) ⟨w, rfl⟩
  · exact ⟨rfl, fun _ => rfl⟩
  · exact fun c _ _ => ⟨.dropped h w, .drops rfl, rfl⟩

/-- An operation that could not delete the node. -/
theorem use_follows {d : Dealing} (hd : d.deletes = false) {step : NodeStep}
    (hstep : step.isGentle = true) (h : NodeHandle) :
    (withNode h (Scenario.nodeOp step)).run.Follows (dealing p d) (Part.Ends d) (.waiting h) := by
  have hfate := hd ▸ Node.nodeOp_fate hstep
  refine (visit_follows (Node.nodeOp_twins step) hfate).mono ?_
  rintro _ result ⟨w, rfl⟩
  refine ⟨rfl, fun hdeletes => ?_⟩
  rw [hd] at hdeletes
  cases hdeletes

/-- **A dealing goes as its part has it.** There is one case for each of the four kinds of calls. -/
theorem Dealing.task_follows (p : ProjectHandle) (d : Dealing) :
    (d.task p).Follows (dealing p d) (Part.Ends d) (.first d) := by
  cases d with
  | add engine spec => exact add_follows engine spec
  | delete id => exact delete_follows id
  | operate id step hstep =>
    refine follows_andThen.mpr
      (Process.Follows.mono (find_follows (d := .operate id step hstep)) ?_)
    rintro _ (e | h) rfl
    · rfl
    · exact use_follows rfl hstep h
  | use h step hstep => exact use_follows rfl hstep h

end Calls

/-! ## Claims

The claims of the project are only about the calls that add nodes. Each part has a role in this, so
what was shown of roles holds of dealings. -/

section Claims

variable {p : ProjectHandle} {d : Dealing} {c c' : Controller} {g g' : Part}

/-- A working operation leaves the project alone, and every node what it is. -/
theorem Work.Moves.steady {h : NodeHandle} {w w' : Work} (p : ProjectHandle)
    (hm : Work.Moves h w c c' w') (hc : c.node h = w.node) :
    Steady p (fun project => project) c c' := by
  cases hm with
  | edits hw hn => exact .setNode p (by rw [hc]; exact hn)
  | finds | misses => exact .refl p c
  | marks | connects => exact .setRegistry p _ c

/-- **The steps of a dealing are those of a call** that adds a node or deletes one. This makes
everything that is proved about claims available for dealings. -/
theorem Part.Moves.proceeds (hm : Part.Moves p d g c c' g') (hc : (dealing p d).knows g c) :
    Proceeds p d.id g.role c c' g'.role := by
  cases hm with
  | draws hspec =>
    refine .draws (.draftNode p _ _ c) (Nat.lt_succ_self _) ?_
    show ((c.setCell c.allocated _).node c.allocated).id = d.id
    unfold node
    rw [cell_setCell]
    exact hspec
  | loses => exact .loses (.refl p c)
  | claims hfree => exact .claims hfree (.editProject p _ c)
  | creates hw => exact .works (hw.steady p hc)
  | enters hw => exact .enters (.editProject p _ c)
  | releases hg => exact .releases hg (.editProject p _ c)
  | finds | misses => exact .seeks (.refl p c)
  | locks => exact .seeks (.setHeld p _ true c)
  | works hw => exact .seeks (hw.steady p hc)
  | unlocks => exact .seeks (.setHeld p _ false c)
  | drops => exact .drops (.editProject p _ c)

end Claims

end Testbed.Controller

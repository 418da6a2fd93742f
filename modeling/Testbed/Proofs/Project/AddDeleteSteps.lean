import Testbed.Proofs.Controller.Conduct
import Testbed.Proofs.Node.Creation

/-!
# Adding and deleting nodes, role by role

What a call that adds a node to a project, or deletes one, does to the project, step by step. A call
that adds a node draws it up, claims its identifier or loses it to another, works for it on the
engine while it has the claim, enters it into the project, and releases the claim. A call that
deletes a node drops it from the project and claims nothing.

`Role` has the parts of that story and `Proceeds` the steps between them; `Errand.task_obeys` says
that the calls take no others. What the calls do to each other is the matter of
`Testbed.Proofs.Project.Claims`.
-/

namespace Testbed.Controller

open Process (obeys_andThen obeys_bind)

/-- **How far a call is.** The first ones belong to a call that adds a node and are gone through in
their order, as far as the call gets; the role of a call that deletes a node never changes while it
is at it. -/
inductive Role where
  /-- Nothing is done yet. -/
  | fresh
  /-- The node is drawn up under a handle. -/
  | drafted (h : NodeHandle)
  /-- The identifier was taken. -/
  | lost
  /-- The call was abandoned before it claimed anything. -/
  | withdrawn
  /-- The identifier is claimed, and the node is being created. -/
  | creating (h : NodeHandle)
  /-- The node is entered, and the identifier is still claimed. -/
  | entered
  /-- The claim is given up. -/
  | released
  /-- The call deletes a node. -/
  | deleting

namespace Role

/-- Whether a call may still claim its identifier. At the claim itself it is decided whether it gets
it. -/
def drafting : Role → Bool
  | fresh | drafted _ => true
  | _ => false

/-- Whether a call is creating a node. -/
def creates : Role → Bool
  | creating _ => true
  | _ => false

/-- Whether a call has the claim. -/
def holds : Role → Bool
  | creating _ | entered => true
  | _ => false

/-- Whether a call has or had the claim. A call that released its claim has had one for good. -/
def reserved : Role → Bool
  | creating _ | entered | released => true
  | _ => false

/-- Whether a call that adds a node never had the claim. These are the roles of a call that lost as
well as of one that has not asked yet. -/
def idle : Role → Bool
  | fresh | drafted _ | lost | withdrawn => true
  | _ => false

/-- Whether a call deletes a node. -/
def deletes : Role → Bool
  | deleting => true
  | _ => false

/-- Whether a call may end. A call that has its claim cannot end before the cleanup has run. -/
def mayEnd : Role → Bool
  | lost | withdrawn | released | deleting => true
  | _ => false

theorem holds_of_creates {g : Role} (h : g.creates = true) : g.holds = true := by
  cases g with
  | creating h => rfl
  | _ => cases h

theorem reserved_of_holds {g : Role} (h : g.holds = true) : g.reserved = true := by
  cases g with
  | creating h | entered => rfl
  | _ => cases h

theorem holds_or_released {g : Role} (h : g.reserved = true) : g.holds = true ∨ g = .released := by
  cases g with
  | creating h | entered => exact .inl rfl
  | released => exact .inr rfl
  | _ => cases h

theorem deletes_of_holds {g : Role} (h : g.holds = true) : g.deletes = false := by
  cases g with
  | creating h | entered => rfl
  | _ => cases h

theorem idle_of_reserved {g : Role} (h : g.reserved = false) (hd : g.deletes = false) :
    g.idle = true := by
  cases g with
  | fresh | drafted h | lost | withdrawn => rfl
  | deleting => cases hd
  | _ => cases h

theorem idle_of_drafting {g : Role} (h : g.drafting = true) : g.idle = true := by
  cases g with
  | fresh | drafted h => rfl
  | _ => cases h

theorem reserved_of_idle {g : Role} (h : g.idle = true) : g.reserved = false := by
  cases g with
  | fresh | drafted h | lost | withdrawn => rfl
  | _ => cases h

theorem holds_of_idle {g : Role} (h : g.idle = true) : g.holds = false :=
  Bool.eq_false_iff.mpr fun hg =>
    Bool.eq_false_iff.mp (reserved_of_idle h) (reserved_of_holds hg)

theorem holds_of_mayEnd {g : Role} (h : g.mayEnd = true) : g.holds = false := by
  cases g with
  | lost | withdrawn | released | deleting => rfl
  | _ => cases h

end Role

/-- **The steps of a call** about the node with an identifier, with what they do to the project. A
step is given by what it does to the project, which is known, and to everything else, of which only
that it stays in good order is known (`Steady`). -/
inductive Proceeds (p : ProjectHandle) (id : Uuid) : Role → Controller → Controller → Role → Prop
  | draws {h : NodeHandle} {c c' : Controller} (hs : Steady p (fun project => project) c c')
      (hh : h < c'.allocated) (hid : (c'.node h).id = id) : Proceeds p id .fresh c c' (.drafted h)
  | withdraws {g : Role} {c c' : Controller} (hg : g.drafting = true)
      (hs : Steady p (fun project => project) c c') : Proceeds p id g c c' .withdrawn
  | loses {h : NodeHandle} {c c' : Controller} (hs : Steady p (fun project => project) c c') :
      Proceeds p id (.drafted h) c c' .lost
  | claims {h : NodeHandle} {c c' : Controller} (hfree : (c.project p).isFree id = true)
      (hs : Steady p (·.claim id) c c') : Proceeds p id (.drafted h) c c' (.creating h)
  | works {h : NodeHandle} {c c' : Controller} (hs : Steady p (fun project => project) c c') :
      Proceeds p id (.creating h) c c' (.creating h)
  | enters {h : NodeHandle} {c c' : Controller} (hs : Steady p (·.put id h) c c') :
      Proceeds p id (.creating h) c c' .entered
  | releases {g : Role} {c c' : Controller} (hg : g.holds = true)
      (hs : Steady p (·.unclaim id) c c') : Proceeds p id g c c' .released
  | seeks {c c' : Controller} (hs : Steady p (fun project => project) c c') :
      Proceeds p id .deleting c c' .deleting
  | drops {c c' : Controller} (hs : Steady p (·.drop id) c c') :
      Proceeds p id .deleting c c' .deleting

/-- **The protocol of calls** about the node with an identifier, in the project with another one. It
says what may be asked in which role. An engine is asked to create the node by a call that holds the
claim, and by no other. -/
def calling (p : ProjectHandle) (pid id : Uuid) : Protocol Role Controller Call where
  knows
    | .drafted h, c => (c.project p).id = pid ∧ h < c.allocated ∧ (c.node h).id = id
    | .creating h, c => h < c.allocated ∧ (c.node h).id = id
    | _, _ => True
  moves := Proceeds p id
  puts
    | .creating _, call => Node.Creates id call.request
    | .deleting, call => call.request.method = .delete
    | _, _ => False
  quits g c c' g' := Proceeds p id g c c' g' ∧ g'.mayEnd = true

/-- How a call ends. -/
def Ends (pid id : Uuid) {α : Type} : Role → Except ControlError α → Prop
  | .lost, result => result = .error (.conflict (.nodeExists id pid))
  | .released, _ | .deleting, _ => True
  | _, _ => False

/-! ## Operations with a cleanup

A claim is released in a cleanup, which runs whether the work returns or is given up. So there is
one rule for work under a cleanup, and it asks for the release in both cases. -/

/-- An operation that cleans up when it ends obeys if the cleanup is allowed where it ends and
wherever it may be abandoned. -/
theorem ensuring_obeys {γ α : Type} {T : Protocol γ Controller Call}
    {post : γ → Except ControlError α → Prop} {g : γ} {cleanup : Controller → Controller}
    {op : Op α}
    (hop : op.run.Obeys (T.onAbandon cleanup) (fun g result =>
      (∀ c, T.knows g c → ∃ g', T.moves g c (cleanup c) g' ∧ post g' result)
        ∧ ∀ c, T.knows g c → ∃ g', T.quits g c (cleanup c) g') g) :
    (ensuring cleanup op).run.Obeys T post g := by
  refine obeys_bind.mpr (hop.onAbandon.mono fun g result h => ?_)
  exact ⟨fun c hc _ => h.1 c hc, h.2⟩

section Steps

variable {p : ProjectHandle} {pid id : Uuid}

/-! ## Adding

The parts of an addition are taken in the order in which they run. Each begins in the role in which
the one before it ended. -/

theorem claimNode_of_free {c : Controller} (h : (c.project p).isFree id = true) :
    claimNode p id c = (.ok (), editProject p (·.claim id) c) := if_pos h

theorem claimNode_of_taken {c : Controller} (h : ¬ (c.project p).isFree id = true) :
    claimNode p id c = (.error (.conflict (.nodeExists id (c.project p).id)), c) := if_neg h

/-- How claiming an identifier ends. To lose means that the identifier was claimed, or the node was
there, when the call looked. -/
def ClaimEnds (pid id : Uuid) (h : NodeHandle) : Role → Except ControlError Unit → Prop
  | g, .ok () => g = .creating h
  | g, .error e => g = .lost ∧ e = .conflict (.nodeExists id pid)

/-- Claiming the identifier. -/
theorem claim_obeys (h : NodeHandle) :
    (Process.atomically (claimNode p id) : Task (Except ControlError Unit)).Obeys (calling p pid id)
      (ClaimEnds pid id h) (.drafted h) := by
  refine ⟨fun c hc _ => ?_, fun c _ => ⟨.withdrawn, .withdraws rfl (.refl p c), rfl⟩⟩
  dsimp only
  obtain ⟨hpid, -, -⟩ := hc
  by_cases hfree : (c.project p).isFree id = true
  · rw [claimNode_of_free hfree]
    exact ⟨.creating h, .claims hfree (.editProject p _ c), rfl⟩
  · rw [claimNode_of_taken hfree, hpid]
    exact ⟨.lost, .loses (.refl p c), rfl, rfl⟩

/-- The work on the engine while the claim is held. -/
theorem create_obeys (h : NodeHandle) :
    (onNode h Node.create).run.Obeys
      ((calling p pid id).onAbandon (editProject p (·.unclaim id)))
      (fun g _ => g = .creating h) (.creating h) := by
  have hconduct := onNode_obeys (p := p) (h := h)
    (Node.create_conducted (fun identity => identity.1 = id))
  refine hconduct.embed (fun c hc => hc.2) ?_ ?_ ?_ (fun _ _ => rfl)
  · intro c c' _ _ hs
    exact ⟨rfl, .works hs⟩
  · intro call hcall
    exact hcall
  · intro c c' _ _ hs
    exact ⟨.released, .releases rfl (hs.trans (.editProject p _ c')), rfl⟩

/-- Where the claim is held, giving it up is the end. -/
theorem unclaim_ends {α : Type} {g : Role} (hg : g.holds = true) (result : Except ControlError α) :
    (∀ c, (calling p pid id).knows g c →
        ∃ g', (calling p pid id).moves g c (editProject p (·.unclaim id) c) g'
          ∧ Ends pid id g' result)
      ∧ ∀ c, (calling p pid id).knows g c →
        ∃ g', (calling p pid id).quits g c (editProject p (·.unclaim id) c) g' :=
  ⟨fun c _ => ⟨.released, .releases hg (.editProject p _ c), trivial⟩,
    fun c _ => ⟨.released, .releases hg (.editProject p _ c), rfl⟩⟩

/-- A call in possession of the claim. -/
theorem enter_obeys (h : NodeHandle) :
    (ensuring (editProject p (·.unclaim id)) (do
      onNode h Node.create
      alter (editProject p (·.put id h))
      return h)).run.Obeys (calling p pid id) (Ends pid id) (.creating h) := by
  refine ensuring_obeys (obeys_andThen.mpr ((create_obeys h).mono ?_))
  rintro _ (e | ⟨⟩) rfl
  · exact unclaim_ends rfl _
  · -- abandoned before the node is entered, the call still gives up the claim
    refine ⟨fun c _ _ => ⟨.entered, .enters (.editProject p _ c), unclaim_ends rfl _⟩,
      fun c _ => ?_⟩
    exact ⟨.released, .releases rfl (.editProject p _ c), rfl⟩

/-- **A call that adds a node takes the steps of one.** The claim is released wherever the call
ends, also where it is given up; that is the part of the protocol for processes that are abandoned.
-/
theorem add_obeys (engine : String) (spec : NodeSpec) :
    (addNodeTo p engine spec).run.Obeys (calling p pid spec.id) (Ends pid spec.id) .fresh := by
  refine obeys_andThen.mpr ⟨fun c _ _ => ⟨.drafted c.allocated, ?_, ?_⟩, fun c _ => ?_⟩
  · -- the handle is one that nobody had, so others cannot change the node's identity
    refine .draws (.draftNode p engine spec c) (Nat.lt_succ_self _) ?_
    show ((c.setCell c.allocated _).node c.allocated).id = spec.id
    unfold node
    rw [cell_setCell]
    rfl
  · refine obeys_andThen.mpr ((claim_obeys _).mono ?_)
    rintro g (e | ⟨⟩) hclaim
    · obtain ⟨rfl, rfl⟩ := hclaim
      rfl
    · cases hclaim
      exact enter_obeys _
  · exact ⟨.withdrawn, .withdraws rfl (.refl p c), rfl⟩

/-! ## Deleting

A call that deletes a node keeps its role from the beginning to the end. What it does to the node is
of no interest to the claims. -/

/-- Finding the node changes nothing. An identifier without a node ends the call. -/
theorem find_obeys :
    (findNode p id).run.Obeys (calling p pid id) (fun g _ => g = .deleting) .deleting := by
  refine obeys_andThen.mpr ⟨fun c _ _ => ⟨.deleting, .seeks (.refl p c), ?_⟩,
    fun c _ => ⟨.deleting, .seeks (.refl p c), rfl⟩⟩
  show Process.Obeys _ _ _ (Process.done (Except.ok (c.project p)))
  dsimp only [Process.Obeys]
  cases (c.project p).nodes.get? id with
  | some h => rfl
  | none => rfl

/-- Deleting the node on its engine, with its lock held. -/
theorem destroy_obeys (h : NodeHandle) :
    (withNode h Node.destroy).run.Obeys (calling p pid id) (fun g _ => g = .deleting)
      .deleting := by
  have hwork : (onNode h Node.destroy).run.Obeys ((calling p pid id).onAbandon (setHeld h false))
      (fun g _ => g = .deleting) .deleting := by
    have hconduct := onNode_obeys (p := p) (h := h) (Node.destroy_conducted (fun _ => True))
    refine hconduct.embed (fun _ _ => trivial) ?_ ?_ ?_ (fun _ _ => rfl)
    · intro c c' _ _ hs
      exact ⟨rfl, .seeks hs⟩
    · intro call hcall
      exact hcall
    · intro c c' _ _ hs
      exact ⟨.deleting, .seeks (hs.trans (.setHeld p h false c')), rfl⟩
  refine obeys_andThen.mpr ⟨fun c _ _ => ⟨.deleting, .seeks (.setHeld p h true c), ?_⟩,
    fun c _ => ⟨.deleting, .seeks (.refl p c), rfl⟩⟩
  refine ensuring_obeys (hwork.mono ?_)
  rintro _ result rfl
  exact ⟨fun c _ => ⟨.deleting, .seeks (.setHeld p h false c), rfl⟩,
    fun c _ => ⟨.deleting, .seeks (.setHeld p h false c), rfl⟩⟩

/-- **A call that deletes a node takes the steps of one.** It has no claim to release. -/
theorem delete_obeys :
    (deleteNode p id).run.Obeys (calling p pid id) (Ends pid id) .deleting := by
  refine obeys_andThen.mpr (find_obeys.mono ?_)
  rintro _ (e | h) rfl
  · trivial
  refine obeys_andThen.mpr ((destroy_obeys h).mono ?_)
  rintro _ (e | ⟨⟩) rfl
  · trivial
  exact ⟨fun c _ _ => ⟨.deleting, .drops (.editProject p _ c), trivial⟩,
    fun c _ => ⟨.deleting, .seeks (.refl p c), rfl⟩⟩

end Steps

/-! ## Calls

The two kinds of calls are put together under one type, with the identifier that each of them is
about. Calls side by side can then be a family of values of this type. -/

/-- **A call** to add a node to a project or to delete one. A call is determined by what it is asked
to do, and not by when it is made. -/
inductive Errand where
  | add (engine : String) (spec : NodeSpec)
  | delete (id : Uuid)

namespace Errand

/-- The identifier that a call is about. -/
def id : Errand → Uuid
  | add _ spec => spec.id
  | delete id => id

/-- Whether a call adds a node with an identifier. -/
def Adds (id : Uuid) : Errand → Prop
  | add _ spec => spec.id = id
  | delete _ => False

/-- Whether a call deletes a node. -/
def deletes : Errand → Bool
  | add .. => false
  | delete _ => true

theorem adds_id {errand : Errand} (h : errand.deletes = false) : errand.Adds errand.id := by
  cases errand with
  | add engine spec => rfl
  | delete id => cases h

theorem Adds.id_eq {errand : Errand} {id : Uuid} (h : errand.Adds id) : errand.id = id := by
  cases errand with
  | add engine spec => exact h
  | delete id => cases h

theorem Adds.deletes {errand : Errand} {id : Uuid} (h : errand.Adds id) :
    errand.deletes = false := by
  cases errand with
  | add engine spec => rfl
  | delete id => cases h

/-- What a call returns if it does not fail. -/
def Result : Errand → Type
  | add .. => NodeHandle
  | delete _ => Unit

/-- What a call does on the project under a handle. -/
def task (p : ProjectHandle) : (errand : Errand) → Task (Except ControlError errand.Result)
  | add engine spec => (addNodeTo p engine spec).run
  | delete id => (deleteNode p id).run

/-- The role of a call at its beginning. -/
def role : Errand → Role
  | add .. => .fresh
  | delete _ => .deleting

/-- **A call takes the steps of one.** From here on a call is its role. -/
theorem task_obeys (p : ProjectHandle) (pid : Uuid) (errand : Errand) :
    (errand.task p).Obeys (calling p pid errand.id) (Ends pid errand.id) errand.role := by
  cases errand with
  | add engine spec => exact add_obeys engine spec
  | delete id => exact delete_obeys

end Errand

end Testbed.Controller

import Testbed.Proofs.Project.Removal

/-!
# Adding a node while nothing else is going on

A node is drawn up before its identifier is claimed, and entered after the engine has created it. A
call that fails on the way, or is given up, leaves a node behind that nobody can reach: its handle
is used up and no project has it. So what a project has to fear from adding is nothing at all, and
what it gains is a single entry for a node that is new, that has the identifier it was asked for,
and that was created (`addNodeTo_adds`).

The claim does not show in any of this. It keeps calls that run side by side from entering one
identifier twice, and here it is given up before anybody could have looked.
-/

namespace Testbed.Controller

open Process (meets_andThen)

variable {p : ProjectHandle} {c c' : Controller}

/-- **What comes of adding a node.** A call that does not succeed has changed nothing that can be
reached, and one that succeeds has added an entry to one project. -/
structure Adds (p : ProjectHandle) (id : Uuid) (c : Controller) (t : Record NodeHandle) :
    Prop where
  /-- Nothing is going on afterwards. -/
  resting : Resting c.registry t.after
  /-- A handle was used up. -/
  allocated : c.allocated < t.after.allocated
  /-- The other nodes stay. -/
  others : ∀ h, h ≠ c.allocated → t.after.node h = c.node h
  /-- The other projects keep their nodes. -/
  elsewhere : ∀ q, q ≠ p → (t.after.project q).nodes = (c.project q).nodes
  /-- The open projects stay open. -/
  openProjects : t.after.openProjects = c.openProjects
  /-- If it succeeds, the node is entered under its identifier, and it was created. -/
  success : ∀ h, t.result = some (.ok h) → h = c.allocated
    ∧ (t.after.project p).nodes = (c.project p).nodes.insert id h
    ∧ (t.after.node h).id = id ∧ (t.after.node h).status = .created
  /-- If it does not, no node is entered. -/
  failure : (∀ h, t.result ≠ some (.ok h)) → (t.after.project p).nodes = (c.project p).nodes

/-- A node was drawn up and its identifier claimed. It is under no identifier in any project yet. -/
structure Drafted (id : Uuid) (c c' : Controller) : Prop where
  resting : Resting c.registry c'
  allocated : c'.allocated = c.allocated + 1
  others : ∀ h, h ≠ c.allocated → c'.node h = c.node h
  nodes : ∀ q, (c'.project q).nodes = (c.project q).nodes
  openProjects : c'.openProjects = c.openProjects
  id : (c'.node c.allocated).id = id

theorem draftNode_drafted (hlocks : ∀ h, (c.cell h).held = false)
    (hregistry : c.registry.held = false) (p : ProjectHandle) (engine : String)
    (spec : NodeSpec) : Drafted spec.id c (draftNode p engine spec c).2 where
  resting := by
    refine ⟨fun h => ?_, hregistry, .refl _⟩
    show ((c.setCell c.allocated _).cell h).held = false
    by_cases hh : h = c.allocated
    · rw [hh, cell_setCell]
    · rw [cell_setCell_of_ne _ c hh]
      exact hlocks h
  allocated := rfl
  others h hh := node_setCell_of_ne _ c hh
  nodes _ := rfl
  openProjects := rfl
  id := congrArg (fun cell : NodeCell => cell.node.id) (cell_setCell _ c)

/-- Creating a node that was drawn up, and entering it. If the creation fails the project is as
before, and the node is left without an entry. -/
theorem enter_adds {id : Uuid} (hd : Drafted id c c') :
    (ensuring (editProject p (·.unclaim id)) (do
      onNode c.allocated Node.create
      alter (editProject p (·.put id c.allocated))
      return c.allocated) : Op NodeHandle).run.Meets c' (Adds p id c) := by
  have hcreate : Node.create.run.Meets (c'.node c.allocated) fun u =>
      u.after.identity = (c'.node c.allocated).identity
        ∧ (u.result = some (.ok ()) → u.after.status = .created) :=
    (Process.Meets.and (Node.meets_map.mp (Node.nodeOp_identity _ .create))
      (Node.create_created _)).mono fun u hu => ⟨hu.1, hu.2.2⟩
  have halone := meets_calm (onNode_mirrors hd.resting.grown hd.resting.registry hcreate)
    (onNode_calm Node.create)
  refine meets_ensuring (meets_andThen.mpr (halone.mono ?_))
  rintro t ⟨⟨u, ⟨hid, hcreated⟩, hm⟩, hcalm⟩
  have hresting := hm.resting hd.resting
  have hallocated : c.allocated < t.after.allocated :=
    Nat.lt_of_lt_of_le (hd.allocated ▸ Nat.lt_succ_self _) hcalm.allocated
  have hothers (h : NodeHandle) (hh : h ≠ c.allocated) : t.after.node h = c.node h :=
    (congrArg NodeCell.node (hm.others h hh)).trans (hd.others h hh)
  have hnodes (q : ProjectHandle) := (hcalm.nodes q).trans (hd.nodes q)
  have hopen := hcalm.openProjects.trans hd.openProjects
  have hname : (t.after.node c.allocated).id = id := by
    rw [hm.node]
    exact (congrArg (·.1) hid).trans hd.id
  -- the claim is given up in any case, which is of no matter to the nodes
  have hunclaim (c : Controller) : Calm c (editProject p (·.unclaim id) c) := .editProject rfl
  have hfailed {log} {result : Option (Except ControlError NodeHandle)}
      (hresult : ∀ h, result ≠ some (.ok h)) :
      Adds p id c ⟨log, result, editProject p (·.unclaim id) t.after⟩ :=
    ⟨hresting.editProject p (·.unclaim id), hallocated, hothers,
      fun q _ => ((hunclaim _).nodes q).trans (hnodes q), hopen,
      fun h hok => absurd hok (hresult h), fun _ => ((hunclaim _).nodes p).trans (hnodes p)⟩
  cases hcase : t.result with
  | none => exact hfailed nofun
  | some result =>
    cases result with
    | error e => exact hfailed nofun
    | ok a =>
      have hentered := hresting.editProject p (·.put id c.allocated)
      refine ⟨rfl, hentered.editProject p (·.unclaim id), hallocated, hothers, fun q hne => ?_,
        hopen, ?_, fun hno => absurd rfl (hno _)⟩
      · exact ((hunclaim _).nodes q).trans ((nodes_editProject_of_ne _ hne).trans (hnodes q))
      rintro _ ⟨⟩
      refine ⟨rfl, ((hunclaim _).nodes p).trans ?_, hname, ?_⟩
      · exact (nodes_put id c.allocated t.after).trans
          (congrArg (·.insert id c.allocated) (hnodes p))
      · show (t.after.node c.allocated).status = .created
        rw [hm.node]
        exact hcreated (hm.result.symm.trans hcase)

/-- Claiming an identifier leaves a node that was drawn up as it is. -/
theorem Drafted.claim {id : Uuid} (hd : Drafted id c c') (p : ProjectHandle) (id' : Uuid) :
    Drafted id c (editProject p (·.claim id') c') where
  resting := hd.resting.editProject p _
  allocated := hd.allocated
  others := hd.others
  nodes q := ((Calm.editProject (p := p) (f := (·.claim id')) rfl).nodes q).trans (hd.nodes q)
  openProjects := hd.openProjects
  id := hd.id

/-- A node that was drawn up for an identifier that is taken. -/
theorem Drafted.adds {id : Uuid} (hd : Drafted id c c') (p : ProjectHandle) (e : ControlError) :
    Adds p id c ⟨[], some (.error e), c'⟩ where
  resting := hd.resting
  allocated := hd.allocated ▸ Nat.lt_succ_self _
  others := hd.others
  elsewhere q _ := hd.nodes q
  openProjects := hd.openProjects
  success := nofun
  failure _ := hd.nodes p

/-- **Adding a node.** The hypotheses say that nobody else is at work, so that no lock has to be
waited for. The calls of others are the matter of the modules on claims. -/
theorem addNodeTo_adds (hlocks : ∀ h, (c.cell h).held = false)
    (hregistry : c.registry.held = false) (p : ProjectHandle) (engine : String)
    (spec : NodeSpec) : (addNodeTo p engine spec).run.Meets c (Adds p spec.id c) := by
  have hd := draftNode_drafted hlocks hregistry p engine spec
  refine ⟨rfl, ?_⟩
  show ((ExceptT.mk (Process.atomically (claimNode p spec.id)) >>= fun _ =>
    ensuring (editProject p (·.unclaim spec.id)) (do
      onNode c.allocated Node.create
      alter (editProject p (·.put spec.id c.allocated))
      return c.allocated) : Op NodeHandle)).run.Meets (draftNode p engine spec c).2 _
  generalize (draftNode p engine spec c).2 = c' at hd ⊢
  have hclaim := Process.settles_atomically (Q := Call) (R := fun _ => Answer)
    (claimNode p spec.id) c'
  refine meets_andThen.mpr (hclaim.mono ?_)
  rintro _ rfl
  by_cases hfree : (c'.project p).isFree spec.id = true
  · rw [claimNode_of_free hfree]
    exact enter_adds (hd.claim p spec.id)
  · rw [claimNode_of_taken hfree]
    exact hd.adds p _

end Testbed.Controller

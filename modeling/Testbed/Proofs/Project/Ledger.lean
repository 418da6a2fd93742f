import Testbed.Proofs.Dict
import Testbed.Proofs.Process.Crew
import Testbed.Proofs.Project.AddDeleteSteps

/-!
# The claims of a project and the roles of the calls on it

With calls that add nodes and delete them taking turns, every claim is somebody's: `Ledger` says
that the claims are those of the calls in a role with a claim, that no two calls have the same, and
that the node somebody is creating is not in the project. Every step that a call can take keeps it
so (`Ledger.proceeds`).

The reservation is one step of the program, and that it is one is all that the claims rest on. If
looking at the table and writing to it were two steps, two calls could find the identifier free.
-/

namespace Testbed

namespace Project

theorem isFree_iff (project : Project) (id : Uuid) :
    project.isFree id = true ↔ project.nodes.contains id = false ∧ id ∉ project.claimed := by
  unfold isFree
  rw [Bool.and_eq_true, Bool.not_eq_true', Bool.not_eq_true', List.contains_eq_mem,
    decide_eq_false_iff_not]

theorem mem_unclaim (project : Project) (id id' : Uuid) :
    id' ∈ (project.unclaim id).claimed ↔ id' ∈ project.claimed ∧ id' ≠ id := by
  unfold unclaim
  rw [List.mem_filter, decide_eq_true_iff]

end Project

namespace Controller

section Steps

variable {p : ProjectHandle} {pid id : Uuid} {c c' : Controller} {g g' : Role}

/-- What a call knows is not taken from it by changes that keep the project's identifier. -/
theorem knows_of_steady {f : Project → Project} (hs : Steady p f c c')
    (hid : (f (c.project p)).id = (c.project p).id) (h : (calling p pid id).knows g c) :
    (calling p pid id).knows g c' := by
  cases g with
  | drafted h =>
    obtain ⟨hpid, hlt, hnode⟩ := h
    refine ⟨?_, Nat.lt_of_lt_of_le hlt hs.allocated, ?_⟩
    · rw [hs.project, hid, hpid]
    · exact (congrArg Prod.fst (hs.identity _ hlt)).trans hnode
  | creating h =>
    obtain ⟨hlt, hnode⟩ := h
    refine ⟨Nat.lt_of_lt_of_le hlt hs.allocated, ?_⟩
    exact (congrArg Prod.fst (hs.identity _ hlt)).trans hnode
  | _ => trivial

/-- Every step is a change of the project that keeps its identifier. -/
theorem Proceeds.steady (h : Proceeds p id g c c' g') :
    ∃ f : Project → Project, Steady p f c c' ∧ ∀ project, (f project).id = project.id := by
  cases h with
  | draws hs | withdraws _ hs | loses hs | claims _ hs | works hs | enters hs | releases _ hs
  | seeks hs | drops hs => exact ⟨_, hs, fun _ => rfl⟩

/-- After a step a call knows what its new role is to know. -/
theorem Proceeds.knows (h : Proceeds p id g c c' g') (hpid : (c.project p).id = pid)
    (hknows : (calling p pid id).knows g c) : (calling p pid id).knows g' c' := by
  cases h with
  | draws hs hh hid => exact ⟨by rw [hs.project, hpid], hh, hid⟩
  | claims hfree hs => exact (knows_of_steady hs rfl hknows).2
  | works hs => exact knows_of_steady hs rfl hknows
  | _ => trivial

end Steps

/-- What happened to calls on the control plane. -/
abbrev Happening := Crew.Happening Controller Call (fun _ => Answer)

/-- **The claims of a project and the roles of the calls** agree. Call number `i` is about the node
with identifier `about i`. A role that has a claim is one between the reservation and the release;
the node of such a call is entered towards the end of it, and then the claim and the entry are there
together. -/
structure Ledger {ι : Type} (p : ProjectHandle) (pid : Uuid) (about : ι → Uuid) (c : Controller)
    (role : ι → Role) : Prop where
  /-- The project is the one with the identifier. -/
  project : (c.project p).id = pid
  /-- Each call knows what its role is to know. -/
  knows : ∀ i, (calling p pid (about i)).knows (role i) c
  /-- The claims are those that calls have. -/
  claimed : ∀ id, id ∈ (c.project p).claimed ↔ ∃ i, about i = id ∧ (role i).holds = true
  /-- No two calls have the same claim. -/
  exclusive : ∀ i j, about i = about j → (role i).holds = true → (role j).holds = true → i = j
  /-- The node that a call is creating is not there yet. -/
  absent : ∀ i, (role i).creates = true → (c.project p).nodes.contains (about i) = false

namespace Ledger

variable {ι : Type} [DecidableEq ι] {p : ProjectHandle} {pid : Uuid} {about : ι → Uuid}
  {c c' : Controller} {role : ι → Role} {i : ι} {g' : Role}

/-- Each call knows its part after a step of one of them. -/
theorem knows_update (hl : Ledger p pid about c role)
    (h : Proceeds p (about i) (role i) c c' g') :
    ∀ j, (calling p pid (about j)).knows (Function.update role i g' j) c' := by
  obtain ⟨f, hs, hid⟩ := h.steady
  refine (Function.forall_update_iff role
    (fun j g => (calling p pid (about j)).knows g c')).mpr ⟨?_, fun j _ => ?_⟩
  · exact h.knows hl.project (hl.knows i)
  · exact knows_of_steady hs (hid _) (hl.knows j)

omit [DecidableEq ι] in
/-- The project stays the one with the identifier. -/
theorem project_of_proceeds (hl : Ledger p pid about c role)
    (h : Proceeds p (about i) (role i) c c' g') : (c'.project p).id = pid := by
  obtain ⟨f, hs, hid⟩ := h.steady
  rw [hs.project, hid, hl.project]

/-- What calls are creating is not there after a step at which no node enters. -/
theorem absent_update (hl : Ledger p pid about c role)
    (hi : g'.creates = true → (c'.project p).nodes.contains (about i) = false)
    (hnodes : ∀ id, (c.project p).nodes.contains id = false →
      (c'.project p).nodes.contains id = false) :
    ∀ j, (Function.update role i g' j).creates = true →
      (c'.project p).nodes.contains (about j) = false :=
  (Function.forall_update_iff role (fun j g => g.creates = true →
    (c'.project p).nodes.contains (about j) = false)).mpr
      ⟨hi, fun j _ hj => hnodes _ (hl.absent j hj)⟩

/-- A step that leaves the claims alone. -/
theorem rests (hl : Ledger p pid about c role) (h : Proceeds p (about i) (role i) c c' g')
    (hclaimed : (c'.project p).claimed = (c.project p).claimed)
    (hholds : g'.holds = (role i).holds)
    (habsent : ∀ j, (Function.update role i g' j).creates = true →
      (c'.project p).nodes.contains (about j) = false) :
    Ledger p pid about c' (Function.update role i g') := by
  have hsame (j : ι) : (Function.update role i g' j).holds = (role j).holds :=
    (Function.forall_update_iff role (fun j g => g.holds = (role j).holds)).mpr
      ⟨hholds, fun _ _ => rfl⟩ j
  refine ⟨hl.project_of_proceeds h, hl.knows_update h, fun id => ?_, fun j k => ?_, habsent⟩
  · rw [hclaimed, hl.claimed id]
    exact exists_congr fun j => and_congr Iff.rfl (by rw [hsame])
  · rw [hsame, hsame]
    exact hl.exclusive j k

/-- A step that leaves the project alone. -/
theorem stays (hl : Ledger p pid about c role) (h : Proceeds p (about i) (role i) c c' g')
    (hproject : c'.project p = c.project p) (hholds : g'.holds = (role i).holds)
    (hcreates : g'.creates = true → (role i).creates = true) :
    Ledger p pid about c' (Function.update role i g') := by
  refine hl.rests h (congrArg Project.claimed hproject) hholds ?_
  refine hl.absent_update (fun hg' => ?_) (fun id hid => ?_)
  · rw [hproject]
    exact hl.absent i (hcreates hg')
  · rw [hproject]
    exact hid

/-- The step at which a node enters the project. -/
theorem enters (hl : Ledger p pid about c role) (h : Proceeds p (about i) (role i) c c' g')
    {handle : NodeHandle} (hi : (role i).holds = true)
    (hproject : c'.project p = (c.project p).put (about i) handle)
    (hholds : g'.holds = true) (hcreates : g'.creates = false) :
    Ledger p pid about c' (Function.update role i g') := by
  refine hl.rests h (by rw [hproject]; rfl) (hholds.trans hi.symm) ?_
  refine (Function.forall_update_iff role (fun j g => g.creates = true →
    (c'.project p).nodes.contains (about j) = false)).mpr ⟨fun hg' => ?_, fun j hji hj => ?_⟩
  · rw [hcreates] at hg'
    cases hg'
  · rw [hproject]
    -- the node that enters is not the one another call is creating
    refine Bool.eq_false_iff.mpr fun hin => ?_
    obtain heq | hin := (Dict.contains_insert _ _ _ _).mp hin
    · exact hji (hl.exclusive j i heq (Role.holds_of_creates hj) hi)
    · exact Bool.eq_false_iff.mp (hl.absent j hj) hin

/-- The step at which a node is forgotten. -/
theorem drops (hl : Ledger p pid about c role) (h : Proceeds p (about i) (role i) c c' g')
    {id : Uuid} (hproject : c'.project p = (c.project p).drop id)
    (hholds : g'.holds = (role i).holds) (hcreates : g'.creates = false) :
    Ledger p pid about c' (Function.update role i g') := by
  refine hl.rests h (by rw [hproject]; rfl) hholds ?_
  refine hl.absent_update (fun hg' => ?_) (fun id' hid' => ?_)
  · rw [hcreates] at hg'
    cases hg'
  · rw [hproject]
    refine Bool.eq_false_iff.mpr fun hin => ?_
    exact Bool.eq_false_iff.mp hid' ((Dict.contains_erase _ _ _).mp hin).2

/-- The step at which an identifier is claimed. -/
theorem claims (hl : Ledger p pid about c role) (h : Proceeds p (about i) (role i) c c' g')
    (hfree : (c.project p).isFree (about i) = true)
    (hproject : c'.project p = (c.project p).claim (about i)) (hholds : g'.holds = true) :
    Ledger p pid about c' (Function.update role i g') := by
  -- a free identifier is held by nobody
  have hothers (j : ι) (hj : (role j).holds = true) : about i ≠ about j := fun heq =>
    ((Project.isFree_iff _ _).mp hfree).2 ((hl.claimed _).mpr ⟨j, heq.symm, hj⟩)
  refine ⟨hl.project_of_proceeds h, hl.knows_update h, fun id => ?_, fun j k hjk hj hk => ?_, ?_⟩
  · rw [hproject, Function.exists_update_iff role (fun j g => about j = id ∧ g.holds = true)]
    refine List.mem_cons.trans (or_congr ?_ ((hl.claimed id).trans (exists_congr fun j => ?_)))
    · exact ⟨fun heq => ⟨heq.symm, hholds⟩, fun heq => heq.1.symm⟩
    · exact ⟨fun hj => ⟨fun heq => hothers j hj.2 (heq ▸ rfl), hj⟩, And.right⟩
  · by_cases hji : j = i
    · by_cases hki : k = i
      · rw [hji, hki]
      · rw [Function.update_of_ne hki] at hk
        subst hji
        exact absurd hjk (hothers k hk)
    · rw [Function.update_of_ne hji] at hj
      by_cases hki : k = i
      · subst hki
        exact absurd hjk.symm (hothers j hj)
      · rw [Function.update_of_ne hki] at hk
        exact hl.exclusive j k hjk hj hk
  · refine hl.absent_update (fun _ => ?_) (fun id hid => ?_)
    · rw [hproject]
      exact ((Project.isFree_iff _ _).mp hfree).1
    · rw [hproject]
      exact hid

/-- The step at which a claim is given up. -/
theorem releases (hl : Ledger p pid about c role) (h : Proceeds p (about i) (role i) c c' g')
    (hi : (role i).holds = true) (hproject : c'.project p = (c.project p).unclaim (about i))
    (hholds : g'.holds = false) (hcreates : g'.creates = false) :
    Ledger p pid about c' (Function.update role i g') := by
  -- whoever still holds something did so before, and is another call
  have hleft (j : ι) (hj : (Function.update role i g' j).holds = true) :
      j ≠ i ∧ (role j).holds = true := by
    by_cases hji : j = i
    · subst hji
      rw [Function.update_self, hholds] at hj
      cases hj
    · rw [Function.update_of_ne hji] at hj
      exact ⟨hji, hj⟩
  refine ⟨hl.project_of_proceeds h, hl.knows_update h, fun id => ?_, fun j k hjk hj hk => ?_, ?_⟩
  · rw [hproject, Project.mem_unclaim, hl.claimed id]
    constructor
    · rintro ⟨⟨j, rfl, hj⟩, hne⟩
      have hji : j ≠ i := fun heq => hne (congrArg about heq)
      refine ⟨j, rfl, ?_⟩
      rw [Function.update_of_ne hji]
      exact hj
    · rintro ⟨j, rfl, hj⟩
      obtain ⟨hji, hj⟩ := hleft j hj
      exact ⟨⟨j, rfl, hj⟩, fun heq => hji (hl.exclusive j i heq hj hi)⟩
  · exact hl.exclusive j k hjk (hleft j hj).2 (hleft k hk).2
  · refine hl.absent_update (fun hg' => ?_) (fun id hid => ?_)
    · rw [hcreates] at hg'
      cases hg'
    · rw [hproject]
      exact hid

/-- **Every step of a call keeps the claims and the roles in agreement.** A claim appears with a
call that gets into such a role, and goes with one that leaves it. -/
theorem proceeds (hl : Ledger p pid about c role) (h : Proceeds p (about i) (role i) c c' g') :
    Ledger p pid about c' (Function.update role i g') := by
  -- the role is made a variable, for the cases to be on the step
  have h' := h
  generalize hr : role i = r at h'
  cases h' with
  | draws hs | loses hs | seeks hs =>
    exact hl.stays h hs.project (congrArg Role.holds hr).symm (fun hg' => by cases hg')
  | withdraws hg hs =>
    have hfree := Role.holds_of_idle (Role.idle_of_drafting hg)
    exact hl.stays h hs.project (by rw [hr, hfree]; rfl) (fun hg' => by cases hg')
  | works hs =>
    exact hl.stays h hs.project (congrArg Role.holds hr).symm (fun _ => congrArg Role.creates hr)
  | claims hfree hs => exact hl.claims h hfree hs.project rfl
  | enters hs => exact hl.enters h (congrArg Role.holds hr) hs.project rfl rfl
  | releases hg hs => exact hl.releases h (hr ▸ hg) hs.project rfl rfl
  | drops hs => exact hl.drops h hs.project (congrArg Role.holds hr).symm rfl

/-- **Whatever happens under the protocol keeps the claims and the roles in agreement.** Requests
and answers leave both as they are, and a call that is abandoned gives up its claim in the same
step. -/
theorem happens {happening : Happening} (hl : Ledger p pid about c role)
    (h : Crew.Happens (calling p pid (about i)) (role i) c happening c' g') :
    Ledger p pid about c' (Function.update role i g') := by
  cases h with
  | moved h => exact hl.proceeds h
  | put h | answered _ h =>
    rw [Function.update_eq_self]
    exact hl
  | quit h => exact hl.proceeds h.1

end Ledger

end Controller

end Testbed

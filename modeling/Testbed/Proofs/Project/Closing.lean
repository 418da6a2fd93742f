import Testbed.Proofs.Process.Log
import Testbed.Proofs.Project.Ledger
import Testbed.Proofs.Project.OpenCloseSteps
import Testbed.Proofs.Registry.Reach

/-!
# What is left in a project that is taken out of the register

A call that closes a project deletes the nodes that it listed, and then takes out of the register
whatever is open under the identifier. Between its steps others have their turns: a call that found
the project earlier may enter a node after the nodes were listed, or the project may have been
closed by somebody else and another one opened under its identifier, which is then taken out with
all it has.

So a project that is taken out need not be empty. What can be said is that everything in it is late:
`left_lasts` says that its nodes are those that entered it since the call that takes it out began,
and were not deleted. `taken_out_empty_iff` draws the conclusion: the project is empty, and remains
so, exactly if no node came late. This holds of all interleavings and answers, and wherever calls
are given up.

The invariant that carries it is `Closes`. It covers the project that was found and every project
whose handle was given out later, because one of these two is what the identifier leads to.
-/

namespace Testbed.Controller

open Crew (Begun Chained Lasts since)

/-- Whether a project has a node with an identifier. A project that was taken out of the register
may still house nodes. -/
def Houses (p : ProjectHandle) (id : Uuid) (c : Controller) : Prop :=
  (c.project p).nodes.contains id = true

/-- **A step that takes a project out of the register.** The project is open under the identifier
before the step and nothing is afterwards. -/
def TakesOut (p : ProjectHandle) (c c' : Controller) : Prop :=
  ∃ id, c.openProjects.get? id = some p ∧ c'.openProjects.get? id ≠ some p

/-- **Handles that were not given out lead nowhere.** Handles are given out in ascending order and
never again. -/
structure Housed (c : Controller) : Prop where
  /-- No project was kept under a handle before it was given out. -/
  fresh : ∀ p, c.allocated ≤ p → ∀ id, ¬ Houses p id c
  /-- The open projects have handles that were given out. -/
  known : ∀ id p, c.openProjects.get? id = some p → p < c.allocated

theorem housed_initial (s : Settings) (r : Registry) : Housed ((initial s).setRegistry r) where
  fresh p _ id := by rintro ⟨⟩
  known id p h := by cases h

/-! ## What the steps change

Four steps matter: a project is opened, a node is entered, one is dropped, a project is taken out of
the register. For each of them it is said which projects have which nodes afterwards. -/

section Steps

variable {u : Undertaking} {g g' : Phase} {c c' : Controller} {p q : ProjectHandle} {id : Uuid}

theorem houses_put {h : NodeHandle} {id' : Uuid} :
    Houses q id' (editProject p (·.put id h) c) ↔ q = p ∧ id' = id ∨ Houses q id' c := by
  unfold Houses
  by_cases hq : q = p
  · subst hq
    rw [project_editProject]
    refine (Dict.contains_insert _ _ _ _).trans (or_congr ?_ Iff.rfl)
    exact (and_iff_right rfl).symm
  · rw [nodes_editProject_of_ne _ hq]
    exact (or_iff_right fun h => hq h.1).symm

theorem houses_drop {id' : Uuid} :
    Houses q id' (editProject p (·.drop id) c) ↔ ¬ (q = p ∧ id' = id) ∧ Houses q id' c := by
  unfold Houses
  by_cases hq : q = p
  · subst hq
    rw [project_editProject]
    refine (Dict.contains_erase _ _ _).trans (and_congr ?_ Iff.rfl)
    exact not_congr (and_iff_right rfl).symm
  · rw [nodes_editProject_of_ne _ hq]
    exact (and_iff_right fun h => hq h.1).symm

theorem Calm.houses (h : Calm c c') : Houses q id c' ↔ Houses q id c := by
  unfold Houses
  rw [h.nodes]

/-- Opening a project opens an empty one, under a handle that was not given out. If the identifier
is in use nothing changes. -/
theorem openProject_cases (id : Uuid) (name : String) (c : Controller) :
    (openProject id name c).2 = c
      ∨ c.openProjects.get? id = none ∧ (openProject id name c).2.allocated = c.allocated + 1
        ∧ (openProject id name c).2.openProjects = c.openProjects.insert id c.allocated
        ∧ ∀ q id', Houses q id' (openProject id name c).2 → Houses q id' c := by
  unfold openProject
  by_cases hopen : c.openProjects.contains id = true
  · rw [if_pos hopen]
    exact .inl rfl
  · rw [if_neg hopen]
    refine .inr ⟨?_, rfl, rfl, fun q id' h => ?_⟩
    · exact Option.not_isSome_iff_eq_none.mp hopen
    · by_cases hq : q = c.allocated
      · subst hq
        have hempty : Houses c.allocated id'
            (c.setProject c.allocated (.new c.projectsRoot id name)) := h
        unfold Houses at hempty
        rw [project_setProject] at hempty
        cases hempty
      · have hother : Houses q id' (c.setProject c.allocated (.new c.projectsRoot id name)) := h
        unfold Houses project setProject at hother
        rw [Dict.get_insert_ne _ _ hq] at hother
        exact hother

theorem Acts.allocated_le (h : Acts u g c c' g') : c.allocated ≤ c'.allocated := by
  cases h with
  | works _ hs | retires hs => exact hs.allocated
  | @opens _ id name =>
    obtain heq | ⟨-, hallocated, -⟩ := openProject_cases id name c
    · exact Nat.le_of_eq (congrArg Controller.allocated heq.symm)
    · rw [hallocated]
      exact Nat.le_succ _
  | _ => exact Nat.le_refl _

/-- What is open after a step was open before, or is new. -/
theorem Acts.open_of_open (h : Acts u g c c' g') (hq : c'.openProjects.get? id = some q) :
    c.openProjects.get? id = some q ∨ c.allocated ≤ q := by
  cases h with
  | works _ hs | retires hs =>
    rw [hs.openProjects] at hq
    exact .inl hq
  | @opens _ id' name =>
    obtain heq | ⟨-, -, hopen, -⟩ := openProject_cases id' name c
    · rw [heq] at hq
      exact .inl hq
    · rw [hopen, Dict.get_insert] at hq
      split at hq
      · cases hq
        exact .inr (Nat.le_refl _)
      · exact .inl hq
  | forgets =>
    have hq' : (c.openProjects.erase _).get? id = some q := hq
    rw [Dict.get_erase] at hq'
    split at hq'
    · cases hq'
    · exact .inl hq'
  | _ => exact .inl hq

/-- Only the last step of a call that closes takes a project out, and the identifier is the call's
own. -/
theorem Acts.of_takesOut (h : Acts u g c c' g') (hq : c.openProjects.get? id = some q)
    (hout : c'.openProjects.get? id ≠ some q) :
    u = .delete id ∧ c' = forgetProject id c ∧ ∃ p mark, g = .closing p mark (some []) := by
  cases h with
  | works _ hs | retires hs =>
    rw [hs.openProjects] at hout
    exact absurd hq hout
  | @opens _ id' name =>
    obtain heq | ⟨hnone, -, hopen, -⟩ := openProject_cases id' name c
    · rw [heq] at hout
      exact absurd hq hout
    · rw [hopen, Dict.get_insert] at hout
      split at hout
      · rename_i heq
        obtain rfl := Std.LawfulEqOrd.eq_of_compare heq
        rw [hnone] at hq
        cases hq
      · exact absurd hq hout
  | @forgets _ id' p mark =>
    have hout' : (c.openProjects.erase id').get? id ≠ some q := hout
    rw [Dict.get_erase] at hout'
    split at hout'
    · rename_i heq
      obtain rfl := Std.LawfulEqOrd.eq_of_compare heq
      exact ⟨rfl, rfl, p, mark, rfl⟩
    · exact absurd hq hout'
  | _ => exact absurd hq hout

/-- A node that is in a project after a step was there before, or was entered by a call that adds
nodes to that project. -/
theorem Acts.houses_of_houses (h : Acts u g c c' g') (hq : Houses q id c') :
    Houses q id c ∨ g = .adding q := by
  cases h with
  | works _ hs | retires hs => exact .inl (hs.houses.mp hq)
  | @opens _ id' name =>
    obtain heq | ⟨-, -, -, hhouses⟩ := openProject_cases id' name c
    · rw [heq] at hq
      exact .inl hq
    · exact .inl (hhouses q id hq)
  | enters id' h =>
    obtain ⟨rfl, -⟩ | hq := houses_put.mp hq
    · exact .inr rfl
    · exact .inl hq
  | drops => exact .inl (houses_drop.mp hq).2
  | _ => exact .inl hq

end Steps

/-! ## What the calls know

What a call knows is a statement about the state that no step of another call can make false. Such
statements are preserved one by one, and the invariant is that every call knows what belongs to its
phase. -/

section Calls

variable {ι : Type} [DecidableEq ι] {us : ι → Undertaking} {i j : ι}

/-- **What a call that closes a project knows**, if it found the project `p` when `mark` handles
were given out. The nodes that were listed and are not deleted yet are still to come, and whatever
else is in the project has entered it since the call began. -/
structure Closes (u : Undertaking) (p : ProjectHandle) (mark : Nat) (left : Option (List Uuid))
    (during : List (ι × Happening)) (c : Controller) : Prop where
  /-- Handles have only been given out since. -/
  given : mark ≤ c.allocated
  /-- The identifier leads to the project that was found, or to one that was opened since. -/
  leads : ∀ id q, u = .delete id → c.openProjects.get? id = some q → q = p ∨ mark ≤ q
  /-- What is in a project that was opened since has entered it since. -/
  later : ∀ q id, mark ≤ q → Houses q id c → Lasts (Houses q id) during
  /-- What is in the project that was found is still to be deleted, or has entered it since. -/
  found : ∀ ids, left = some ids → ∀ id, Houses p id c → id ∈ ids ∨ Lasts (Houses p id) during

/-- What a call knows of the log and the state in a phase. -/
def Phase.Fits (u : Undertaking) (i : ι) (log : List (ι × Happening)) (c : Controller) :
    Phase → Prop
  | fresh => ¬ Begun i log
  | adding p => p < c.allocated
  | closing p mark left => Begun i log ∧ Closes u p mark left (since i log) c
  | finished => True

section Step

variable {u v : Undertaking} {g g' : Phase} {c c' : Controller} {p : ProjectHandle} {mark : Nat}
  {left : Option (List Uuid)} {log : List (ι × Happening)} {x : ι × Happening}

omit [DecidableEq ι] in
/-- What a call that closes a project knows is not taken from it by any step. -/
theorem Closes.step (h : Closes v p mark left log c) (hx : x.2.Leads c c')
    (hact : Acts u g c c' g') : Closes v p mark left (log ++ [x]) c' where
  given := Nat.le_trans h.given hact.allocated_le
  leads id q hv hq := by
    obtain hq | hq := hact.open_of_open hq
    · exact h.leads id q hv hq
    · exact .inr (Nat.le_trans h.given hq)
  later q id hq hhouses := Crew.lasts_of_leads hx (h.later q id hq) hhouses
  found ids hids id hhouses := by
    by_cases hmem : id ∈ ids
    · exact .inl hmem
    · exact .inr (Crew.lasts_of_leads hx
        (fun hc => (h.found ids hids id hc).resolve_left hmem) hhouses)

/-- What a call knows is not taken from it by any step but its own first one. -/
theorem Phase.Fits.step {k : Phase} (h : k.Fits v j log c) (hx : x.2.Leads c c')
    (hact : Acts u g c c' g') (hk : k = .fresh → x.1 ≠ j) : k.Fits v j (log ++ [x]) c' := by
  cases k with
  | fresh =>
    intro hbegun
    obtain hbegun | hxj := Crew.begun_append.mp hbegun
    · exact h hbegun
    · exact hk rfl hxj
  | adding p => exact Nat.lt_of_lt_of_le h hact.allocated_le
  | closing p mark left =>
    obtain ⟨hbegun, hcloses⟩ := h
    refine ⟨Crew.begun_append.mpr (.inl hbegun), ?_⟩
    rw [Crew.since_append hbegun]
    exact hcloses.step hx hact
  | finished => trivial

/-- Handles that are not given out lead nowhere after a step. -/
theorem Housed.step (h : Housed c) (hg : g.Fits u i log c) (hact : Acts u g c c' g') :
    Housed c' where
  fresh p hp id hhouses := by
    obtain hhouses | rfl := hact.houses_of_houses hhouses
    · exact h.fresh p (Nat.le_trans hact.allocated_le hp) id hhouses
    · have hlt : p < c.allocated := hg
      exact Nat.not_lt.mpr (Nat.le_trans hact.allocated_le hp) hlt
  known id q hq := by
    cases hact with
    | @opens _ id' name =>
      obtain heq | ⟨-, hallocated, hopen, -⟩ := openProject_cases id' name c
      · rw [heq] at hq ⊢
        exact h.known id q hq
      · rw [hopen, Dict.get_insert] at hq
        rw [hallocated]
        split at hq
        · cases hq
          exact Nat.lt_succ_self _
        · exact Nat.lt_succ_of_lt (h.known id q hq)
    | works _ hs | retires hs =>
      rw [hs.openProjects] at hq
      exact Nat.lt_of_lt_of_le (h.known id q hq) hs.allocated
    | forgets =>
      have hq' : (c.openProjects.erase _).get? id = some q := hq
      rw [Dict.get_erase] at hq'
      split at hq'
      · cases hq'
      · exact h.known id q hq'
    | _ => exact h.known id q hq

/-- **A call knows what its phase is to know after its own step.** Other calls' steps are no threat
to it, since they can only add what is late. -/
theorem Acts.fits (hact : Acts u g c c' g') (hhoused : Housed c) (hg : g.Fits u i log c)
    {happening : Happening} (hx : happening.Leads c c') :
    g'.Fits u i (log ++ [(i, happening)]) c' := by
  have hbegun : Begun i (log ++ [(i, happening)]) := Crew.begun_append.mpr (.inr rfl)
  have hstep := fun hne : g ≠ .fresh =>
    hg.step (x := (i, happening)) hx hact (fun h => absurd h hne)
  cases hact with
  | works hne hs => exact hstep hne
  | retires | opens | forgets => trivial
  | findsToAdd hp => exact hhoused.known _ _ hp
  | enters => exact hstep (by rintro ⟨⟩)
  | findsToClose hp =>
    refine ⟨hbegun, ?_⟩
    rw [Crew.since_of_not_begun hg]
    refine ⟨Nat.le_refl _, ?_, fun q id hq hhouses => absurd hhouses (hhoused.fresh q hq id), ?_⟩
    · rintro id q ⟨⟩ hq
      rw [hp] at hq
      cases hq
      exact .inl rfl
    · rintro ids ⟨⟩
  | lists =>
    obtain ⟨-, hcloses⟩ := hstep (by rintro ⟨⟩)
    refine ⟨hbegun, hcloses.given, hcloses.leads, hcloses.later, ?_⟩
    rintro ids ⟨⟩ id hhouses
    exact .inl ((Dict.mem_keys_iff _ _).mpr hhouses)
  | @drops _ _ p mark id' rest =>
    obtain ⟨-, hcloses⟩ := hstep (by rintro ⟨⟩)
    refine ⟨hbegun, hcloses.given, hcloses.leads, hcloses.later, ?_⟩
    rintro ids ⟨⟩ id hhouses
    obtain hmem | hlasts := hcloses.found _ rfl id hhouses
    · obtain rfl | hmem := List.mem_cons.mp hmem
      · exact absurd ⟨rfl, rfl⟩ (houses_drop.mp hhouses).1
      · exact .inl hmem
    · exact .inr hlasts

end Step

/-- **The invariant of calls on projects.** Besides what each call knows, handles are in order. -/
structure Register (us : ι → Undertaking) (c : Controller) (log : List (ι × Happening))
    (phase : ι → Phase) : Prop where
  /-- Handles that were not given out lead nowhere. -/
  housed : Housed c
  /-- Each call knows what its phase is to know. -/
  fits : ∀ i, (phase i).Fits (us i) i log c
  /-- What was in a project that was taken out had entered it since the call that took it out
  began, and is left in it. -/
  left : ∀ before i c₁ c₂ after p, log = before ++ (i, .moved c₁ c₂) :: after → TakesOut p c₁ c₂ →
    c₂.projects = c₁.projects ∧ ∀ id, Houses p id c₁ → Lasts (Houses p id) (since i before)

section Register

variable {c c' : Controller} {log : List (ι × Happening)} {phase : ι → Phase} {g' : Phase}

/-- A step keeps the invariant. -/
theorem Register.acts (h : Register us c log phase) (hact : Acts (us i) (phase i) c c' g')
    {happening : Happening} (hx : happening.Leads c c')
    (hmoved : ∀ c₁ c₂, happening = .moved c₁ c₂ → c₁ = c ∧ c₂ = c') :
    Register us c' (log ++ [(i, happening)]) (Function.update phase i g') where
  housed := h.housed.step (h.fits i) hact
  fits := (Function.forall_update_iff phase
    (fun j g => g.Fits (us j) j (log ++ [(i, happening)]) c')).mpr
      ⟨hact.fits h.housed (h.fits i) hx, fun j hji =>
        (h.fits j).step hx hact fun _ => Ne.symm hji⟩
  left before j c₁ c₂ after p hlog hout := by
    obtain ⟨rfl, heq, -⟩ | ⟨rest, -, hlog⟩ := Crew.cut_append hlog
    · cases heq
      obtain ⟨rfl, rfl⟩ := hmoved _ _ rfl
      -- the step is the last one of a call that has deleted all that it listed
      obtain ⟨id', hopen, hclosed⟩ := hout
      obtain ⟨hu, rfl, q, mark, hphase⟩ := hact.of_takesOut hopen hclosed
      have hfits := h.fits i
      rw [hphase] at hfits
      obtain ⟨-, hcloses⟩ := hfits
      refine ⟨rfl, fun id hhouses => ?_⟩
      obtain rfl | hlater := hcloses.leads id' p hu hopen
      · exact (hcloses.found [] rfl id hhouses).resolve_left List.not_mem_nil
      · exact hcloses.later p id hlater hhouses
    · exact h.left before j c₁ c₂ rest p hlog hout

/-- **Whatever happens under the protocol keeps the invariant.** It is the step of the induction
over a run; what follows is read off the states that a run comes to. -/
theorem Register.happens (h : Register us c log phase) {happening : Happening}
    (hhappens : Crew.Happens (undertaking (us i)) (phase i) c happening c' g') :
    Register us c' (log ++ [(i, happening)]) (Function.update phase i g') := by
  cases hhappens with
  | moved hact => exact h.acts hact ⟨rfl, rfl⟩ (by rintro _ _ ⟨⟩; exact ⟨rfl, rfl⟩)
  | quit hquit =>
    obtain ⟨hs, rfl⟩ := hquit
    exact h.acts (.retires hs) ⟨rfl, rfl⟩ (by rintro _ _ ⟨⟩)
  | put hne => exact h.acts (.works hne (.refl c)) rfl (by rintro _ _ ⟨⟩)
  | answered _ hne => exact h.acts (.works hne (.refl c)) rfl (by rintro _ _ ⟨⟩)

end Register

/-! ## Calls side by side

The invariant is carried through a run, and what is left in a project is then read off at the step
that takes it out. Nothing is assumed about the calls but that they start together. -/

/-- Calls on projects, before their first turns. The register need not be empty then. -/
def undertakings (us : ι → Undertaking) (c : Controller) :
    Crew ι Controller Call (fun _ => Answer) (fun i => Except ControlError (us i).Result) :=
  Crew.start c fun i => (us i).task

/-- **The nodes in a project that is taken out** of the register are those that entered it since the
call that takes it out began, and have not left it.

The log is cut at the step at which the project is taken out. Whether a node entered the project
since the call began, and is still there, is read off the part of the log between the beginning of
that call and the cut, and so the statement can be checked against any log. -/
theorem left_lasts (us : ι → Undertaking) {c : Controller} (h : Housed c)
    (schedule : List (ι × Crew.Turn Call (fun _ => Answer))) {before after : List (ι × Happening)}
    {c₁ c₂ : Controller} {p : ProjectHandle}
    (hlog : ((undertakings us c).run schedule).log = before ++ (i, .moved c₁ c₂) :: after)
    (hout : TakesOut p c₁ c₂) (id : Uuid) :
    Houses p id c₂ ↔ Lasts (Houses p id) (since i before) := by
  have hstart : Register us (undertakings us c).state (undertakings us c).log (fun _ => .fresh) :=
    ⟨h, fun i => by rintro ⟨_, ⟨⟩, -⟩, fun before i c₁ c₂ after p hlog =>
      absurd hlog.symm (List.append_ne_nil_of_right_ne_nil _ (List.cons_ne_nil _ _))⟩
  obtain ⟨phase, hregister, -⟩ := Crew.run_invariant (fun i => undertaking (us i))
    (fun _ _ _ => True) (Register us) (fun _ _ _ _ _ => trivial)
    (fun _ _ _ hinv _ _ _ _ hhappens => hinv.happens hhappens) hstart
    (fun i => (us i).task_obeys) schedule
  obtain ⟨hprojects, hleft⟩ := hregister.left before i c₁ c₂ after p hlog hout
  have hsame : Houses p id c₂ ↔ Houses p id c₁ := by
    unfold Houses project
    rw [hprojects]
  -- the log went through the state in which the project was taken out
  have hstart : Crew.Chained c (undertakings us c).log (undertakings us c).state := rfl
  have hchained := Crew.run_chained hstart schedule
  rw [hlog] at hchained
  obtain ⟨m, hbefore, _, ⟨rfl, -⟩, -⟩ := Crew.chained_append.mp hchained
  exact hsame.trans ⟨hleft id, hbefore.of_lasts_since⟩

/-- **When a project that is taken out is empty, and remains so.** Any number of calls open
projects, look for them, close them and add nodes to them, in any order of their steps, whatever
engines answer and wherever calls are given up. Let one of them take a project out of the register.
No node is in the project then and at any later moment exactly if no node came late: none that
entered since that call began is left, and none enters afterwards.

Both sides are about all moments from the step on, since a project that is out of the register can
still be added to by a call that found it before. The right side says, of the time before the step
and of the time after it, that nobody has done so. -/
theorem taken_out_empty_iff (us : ι → Undertaking) {c : Controller} (h : Housed c)
    (schedule : List (ι × Crew.Turn Call (fun _ => Answer))) {before after : List (ι × Happening)}
    {c₁ c₂ : Controller} {p : ProjectHandle}
    (hlog : ((undertakings us c).run schedule).log = before ++ (i, .moved c₁ c₂) :: after)
    (hout : TakesOut p c₁ c₂) :
    (∀ id, ¬ Houses p id c₂ ∧ ∀ x ∈ after, ∀ m, x.2.Makes m → ¬ Houses p id m)
      ↔ ∀ id, ¬ Lasts (Houses p id) (since i before) ∧ ∀ x ∈ after, ¬ x.2.Begins (Houses p id) := by
  have hstart : Crew.Chained c (undertakings us c).log (undertakings us c).state := rfl
  have hchained := Crew.run_chained hstart schedule
  rw [hlog] at hchained
  obtain ⟨_, -, _, ⟨-, rfl⟩, hafter⟩ := Crew.chained_append.mp hchained
  refine forall_congr' fun id => ?_
  rw [← left_lasts us h schedule hlog hout id]
  exact and_congr_right fun hempty => hafter.never_iff hempty

/-- A project that is opened and closed with nobody in between is empty. -/
theorem closed_at_once :
    let go : Crew.Turn Call (fun _ => Answer) := .go fun _ => .ok .null
    let us : Bool → Undertaking := fun b => if b then .create default "lab" else .delete default
    let crew := (undertakings us (initial default)).run
      [(true, go), (false, go), (false, go), (false, go)]
    Housed (initial default) ∧ ∃ before c₁ c₂, crew.log = before ++ [(false, .moved c₁ c₂)]
      ∧ TakesOut 0 c₁ c₂ ∧ ∀ id, ¬ Houses 0 id c₂ := by
  intro go us crew
  let c₁ := ((undertakings us (initial default)).run [(true, go), (false, go), (false, go)]).state
  have hhoused := housed_initial default (initial default).registry
  have hlog : crew.log = crew.log.take 3 ++ (false, .moved c₁ crew.state) :: [] := rfl
  have hout : TakesOut 0 c₁ crew.state := ⟨default, rfl, by rintro ⟨⟩⟩
  refine ⟨hhoused, _, _, _, hlog, hout, fun id => ?_⟩
  refine ((taken_out_empty_iff us hhoused _ hlog hout).mpr (fun id => ⟨?_, ?_⟩) id).1
  · -- since it began, the call has only listed the nodes
    intro hlasts
    have hsince : since false (crew.log.take 3) = [] ++ [(false, .moved c₁ c₁)] := rfl
    rw [hsince] at hlasts
    obtain hbegins | ⟨hnone, -⟩ := Crew.lasts_append.mp hlasts
    · have hleads : Crew.Happening.Leads (.moved c₁ c₁ : Happening) c₁ c₁ := ⟨rfl, rfl⟩
      obtain ⟨hnot, hhouses⟩ := (Crew.Happening.begins_iff hleads).mp hbegins
      exact hnot hhouses
    · exact Crew.not_lasts_nil hnone
  · exact List.forall_mem_nil _

/-- **A node that comes late**: a call finds the project, which is closed with its fifth turn, and
adds its node afterwards. It succeeds, and the node is left in a project that is no longer open. -/
theorem late_node_left_behind :
    let go : Crew.Turn Call (fun _ => Answer) := .go fun _ => .ok .null
    let spec : NodeSpec := { id := default, nodeType := .vpcs, name := "pc1" }
    let us : Fin 3 → Undertaking := fun i =>
      if i = 0 then .create default "lab"
      else if i = 1 then .add default "local" spec
      else .delete default
    let schedule := [(0, go), (1, go), (2, go), (2, go), (2, go)] ++ List.replicate 10 (1, go)
    let crew (turns : Nat) :=
      (undertakings us ((initial default).setRegistry Registry.lab)).run (schedule.take turns)
    TakesOut 0 (crew 4).state (crew 5).state ∧ Houses 0 default (crew 15).state
      ∧ ((crew 15).stand 1).result?.any (·.toBool) = true := by
  intro go spec us schedule crew
  refine ⟨⟨default, rfl, by rintro ⟨⟩⟩, ?_, by decide +kernel⟩
  unfold Houses
  decide +kernel

end Calls

end Testbed.Controller

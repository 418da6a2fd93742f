import Testbed.Proofs.Project.Ledger

/-!
# What the log says of the calls on a project

Which calls got their claims can be read off the log: they are those that took the step at which the
identifier was claimed (`Reserved`). `Chronicle` relates that to the roles of the calls, and says of
those that never got one that they left no trace: they asked nobody and changed nothing of the
project. Whatever happens under the protocol of the calls keeps it so (`Chronicle.happens`).

The log is all that an observer has: the states before and after each step, the requests and the
answers. Roles are not in it. So a statement about claims that is to be understood without knowing
the protocol has to be made in terms of the log, and this module is where the translation is.
-/

namespace Testbed.Controller

section Steps

variable {p : ProjectHandle} {id : Uuid} {c c' : Controller} {g g' : Role}

/-- Whether a step is one at which an identifier is claimed. At the step the claim is free before
and taken after. -/
def Passes (p : ProjectHandle) (id : Uuid) (c c' : Controller) : Prop :=
  id ∉ (c.project p).claimed ∧ id ∈ (c'.project p).claimed

theorem not_passes (h : (c'.project p).claimed = (c.project p).claimed) : ¬ Passes p id c c' := by
  rintro ⟨hnot, hmem⟩
  rw [h] at hmem
  exact hnot hmem

/-- **A call gets the claim at the step at which the identifier is claimed**, and remains one that
had it. A role does not go back behind the reservation. -/
theorem Proceeds.reserved_iff (h : Proceeds p id g c c' g') :
    g'.reserved = true ↔ g.reserved = true ∨ Passes p id c c' := by
  cases h with
  | draws hs | loses hs | works hs | seeks hs =>
    exact (or_iff_left (not_passes (congrArg Project.claimed hs.project))).symm
  | enters hs | drops hs =>
    exact (or_iff_left (not_passes (by rw [hs.project]; rfl))).symm
  | withdraws hg hs =>
    -- abandoned before the identifier was claimed, so neither before nor after
    refine Iff.symm ((or_iff_left (not_passes (congrArg Project.claimed hs.project))).trans ?_)
    rw [Role.reserved_of_idle (Role.idle_of_drafting hg)]
    rfl
  | claims hfree hs =>
    refine iff_of_true rfl (.inr ⟨((Project.isFree_iff _ _).mp hfree).2, ?_⟩)
    rw [hs.project]
    exact List.mem_cons_self
  | releases hg hs => exact iff_of_true rfl (.inl (Role.reserved_of_holds hg))

/-- Nobody gets the claim by ending. -/
theorem Proceeds.reserved_of_mayEnd (h : Proceeds p id g c c' g') (hend : g'.mayEnd = true) :
    g'.reserved = g.reserved := by
  cases h with
  | loses | seeks | drops => rfl
  | withdraws hg hs => exact (Role.reserved_of_idle (Role.idle_of_drafting hg)).symm
  | releases hg hs => exact (Role.reserved_of_holds hg).symm
  | _ => cases hend

/-- Whoever never had the claim has not touched the project. -/
theorem Proceeds.idle (h : Proceeds p id g c c' g') (hg' : g'.idle = true) :
    g.idle = true ∧ c'.project p = c.project p := by
  cases h with
  | draws hs | loses hs => exact ⟨rfl, hs.project⟩
  | withdraws hg hs => exact ⟨Role.idle_of_drafting hg, hs.project⟩
  | _ => cases hg'

/-- A call that deletes a node remains one, and so does a call that adds one. -/
theorem Proceeds.deletes (h : Proceeds p id g c c' g') : g'.deletes = g.deletes := by
  cases h with
  | @withdraws g _ _ hg hs =>
    cases g with
    | deleting => cases hg
    | _ => rfl
  | @releases g _ _ hg hs =>
    cases g with
    | deleting => cases hg
    | _ => rfl
  | _ => rfl

end Steps

/-- **Whether a call has passed the reservation** of an identifier: it took the step at which the
identifier was claimed. Passing the reservation is visible in the states, as a claim that was not
there before. -/
def Reserved {ι : Type} (p : ProjectHandle) (log : List (ι × Happening)) (i : ι) (id : Uuid) :
    Prop :=
  ∃ c c', (i, .moved c c') ∈ log ∧ Passes p id c c'

/-- Whether something asks nobody and leaves a project alone. Other parts of the state may change.
-/
def Traceless (p : ProjectHandle) : Happening → Prop
  | .moved c c' | .quit c c' => c'.project p = c.project p
  | .put _ | .answered _ _ => False

theorem reserved_append {ι : Type} {p : ProjectHandle} {log : List (ι × Happening)} {i j : ι}
    {happening : Happening} {id : Uuid} :
    Reserved p (log ++ [(i, happening)]) j id ↔ Reserved p log j id
      ∨ j = i ∧ ∃ c c', happening = .moved c c' ∧ Passes p id c c' := by
  constructor
  · rintro ⟨c, c', hmem, hpasses⟩
    obtain hmem | hmem := List.mem_append.mp hmem
    · exact .inl ⟨c, c', hmem, hpasses⟩
    · cases List.mem_singleton.mp hmem
      exact .inr ⟨rfl, c, c', rfl, hpasses⟩
  · rintro (⟨c, c', hmem, hpasses⟩ | ⟨rfl, c, c', rfl, hpasses⟩)
    · exact ⟨c, c', List.mem_append_left _ hmem, hpasses⟩
    · exact ⟨c, c', List.mem_append_right _ List.mem_cons_self, hpasses⟩

section Happens

variable {p : ProjectHandle} {pid id : Uuid} {c c' : Controller} {g g' : Role}
  {happening : Happening}

theorem happens_reserved (h : Crew.Happens (calling p pid id) g c happening c' g') :
    g'.reserved = true ↔ g.reserved = true
      ∨ ∃ c c', happening = .moved c c' ∧ Passes p id c c' := by
  cases h with
  | moved h =>
    refine (Proceeds.reserved_iff h).trans (or_congr Iff.rfl ?_)
    exact ⟨fun hpasses => ⟨_, _, rfl, hpasses⟩, by rintro ⟨_, _, ⟨⟩, hpasses⟩; exact hpasses⟩
  | put h | answered _ h => exact (or_iff_left (by rintro ⟨_, _, ⟨⟩, -⟩)).symm
  | quit h =>
    obtain ⟨h, hend⟩ := h
    rw [h.reserved_of_mayEnd hend]
    exact (or_iff_left (by rintro ⟨_, _, ⟨⟩, -⟩)).symm

/-- No call that never had the claim asks anybody. -/
theorem not_puts_of_idle {call : Call} (h : (calling p pid id).puts g call) : g.idle = false := by
  cases g with
  | creating h' | deleting => rfl
  | _ => cases h

theorem happens_idle (h : Crew.Happens (calling p pid id) g c happening c' g')
    (hg' : g'.idle = true) : g.idle = true ∧ Traceless p happening := by
  cases h with
  | moved h => exact Proceeds.idle h hg'
  | put h | answered _ h =>
    rw [not_puts_of_idle h] at hg'
    cases hg'
  | quit h => exact h.1.idle hg'

theorem happens_deletes (h : Crew.Happens (calling p pid id) g c happening c' g') :
    g'.deletes = g.deletes := by
  cases h with
  | moved h => exact Proceeds.deletes h
  | put h | answered _ h => rfl
  | quit h => exact h.1.deletes

end Happens

/-- **The log and the roles of the calls** agree. Its second half is about the losers, for whom the
log has to show that nothing came of their calls. -/
structure Chronicle {ι : Type} (p : ProjectHandle) (errands : ι → Errand)
    (log : List (ι × Happening)) (role : ι → Role) : Prop where
  /-- The calls that delete nodes are those that were made to. -/
  kind : ∀ i, (role i).deletes = (errands i).deletes
  /-- The calls that had their claims are those that passed the reservation. -/
  reserved : ∀ i, (role i).reserved = true ↔ Reserved p log i (errands i).id
  /-- The calls that never had one left no trace. -/
  idle : ∀ i, (role i).idle = true → ∀ happening, (i, happening) ∈ log → Traceless p happening

/-- **Whatever happens under the protocol keeps the log and the roles in agreement.** It is the step
of the induction over a run of any length. -/
theorem Chronicle.happens {ι : Type} [DecidableEq ι] {p : ProjectHandle} {pid : Uuid}
    {errands : ι → Errand} {log : List (ι × Happening)} {role : ι → Role} {c c' : Controller}
    {i : ι} {happening : Happening} {g' : Role} (hc : Chronicle p errands log role)
    (h : Crew.Happens (calling p pid (errands i).id) (role i) c happening c' g') :
    Chronicle p errands (log ++ [(i, happening)]) (Function.update role i g') where
  kind := (Function.forall_update_iff role (fun j g => g.deletes = (errands j).deletes)).mpr
    ⟨(happens_deletes h).trans (hc.kind i), fun j _ => hc.kind j⟩
  reserved := by
    refine (Function.forall_update_iff role (fun j g => g.reserved = true ↔
      Reserved p (log ++ [(i, happening)]) j (errands j).id)).mpr ⟨?_, fun j hji => ?_⟩
    · rw [reserved_append, happens_reserved h, hc.reserved i]
      exact or_congr Iff.rfl (and_iff_right rfl).symm
    · rw [reserved_append, hc.reserved j]
      exact (or_iff_left (fun hj => hji hj.1)).symm
  idle := by
    refine (Function.forall_update_iff role (fun j g => g.idle = true → ∀ happening',
      (j, happening') ∈ log ++ [(i, happening)] → Traceless p happening')).mpr
        ⟨fun hg' happening' hmem => ?_, fun j hji hj happening' hmem => ?_⟩
    · obtain ⟨hidle, htraceless⟩ := happens_idle h hg'
      obtain hmem | hmem := List.mem_append.mp hmem
      · exact hc.idle i hidle happening' hmem
      · cases List.mem_singleton.mp hmem
        exact htraceless
    · obtain hmem | hmem := List.mem_append.mp hmem
      · exact hc.idle j hj happening' hmem
      · cases List.mem_singleton.mp hmem
        exact absurd rfl hji

end Testbed.Controller

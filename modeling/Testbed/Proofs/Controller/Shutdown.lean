import Testbed.Proofs.Project.Halt
import Testbed.Proofs.Registry.Operation

/-!
# Closing everything

To close all projects is to close them one after another, smallest identifier first, and a project
that cannot be closed is no reason not to go on to the next. So there are two policies, one inside
the other. Within a project the first failure is the end; among projects a failure is kept for
later, and the first one that was kept is the result.

What makes the whole easy to describe is that projects share no nodes. An attempt at one leaves the
others what they were, so each goes as it would have gone at the beginning, and what it leaves
behind is still there at the end (`ClosingAttempt.Made`, `ClosedAll`).

When the control plane is shut down, the clients of all engines are dropped after that. It is done
on either outcome, and what it gives is the outcome (`every_project_attempted`).

The two policies are easily mixed up. If the first failure ended everything, one broken engine would
keep the projects on other engines from being closed. If failures were kept for later also within a
project, nodes would be deleted that a project still needs when it cannot be closed anyway.

Attempts are described by what they found at the beginning, and that this is right has to be shown
for each of them: an earlier attempt removes nodes of its own project only
(`ClosingAttempt.Made.before`).
-/

namespace Testbed.Controller

open Process (Transcript meets_bind)

variable {r₀ : Registry} {p : ProjectHandle} {c : Controller} {id : Uuid} {gone left : List Uuid}

/-! ## Attempts

An attempt to close a project, with what it removed and what it left. Attempts one after another
begin where the ones before have ended, and touch different projects. -/

/-- **An attempt to close an open project.** The nodes of the project are in `gone` and `left` in
the order of their identifiers, and the requests are those for the nodes in `gone`, and for the
first in `left` if one was sent for it. -/
structure ClosingAttempt where
  /-- The identifier of the project. -/
  id : Uuid
  /-- The project. -/
  project : ProjectHandle
  /-- The nodes that it deletes. -/
  gone : List Uuid
  /-- The nodes that it leaves. -/
  left : List Uuid
  /-- The requests. -/
  log : List Exchange
  /-- How it ends. -/
  result : Except ControlError Unit

namespace ClosingAttempt

/-- The error of an attempt that fails. It is that of the first node that could not be deleted. -/
def error? (a : ClosingAttempt) : Option ControlError :=
  match a.result with
  | .ok () => none
  | .error e => some e

/-- The entries that it removes. There may be some even if it fails. -/
def removed (a : ClosingAttempt) : List (ProjectHandle × Uuid) := a.gone.map (a.project, ·)

/-- **An attempt that is made**, with the nodes as they are in some state. So an attempt succeeds
exactly if it leaves nothing. -/
structure Made (r₀ : Registry) (c : Controller) (a : ClosingAttempt) : Prop where
  /-- The project is open. -/
  opened : c.openProjects.get? a.id = some a.project
  /-- Its nodes are those that are deleted, and then those that are left. -/
  keys : (c.project a.project).nodes.keys = a.gone ++ a.left
  /-- The deletions go in order, up to the first that fails. -/
  closure : Closure r₀ (c.nodeAt? a.project) a.gone a.left a.log (some a.result)

variable {a : ClosingAttempt}

theorem Made.left_eq_nil_iff (hm : a.Made r₀ c) : a.left = [] ↔ a.result = .ok () :=
  hm.closure.left_eq_nil_iff.trans Option.some_inj

end ClosingAttempt

/-- **An attempt at one project finds the others as they were.** What lies between the two states is
an attempt at another project. The nodes are found again, because no node is in two projects, and
this is the place where order is needed. -/
theorem ClosingAttempt.Made.before {a : ClosingAttempt} {t : Record Unit} (ho : Orderly c)
    (hp : c.openProjects.get? id = some p) (hl : Leaves r₀ p id gone left c t)
    (hne : a.id ≠ id) (hm : a.Made r₀ t.after) : a.Made r₀ c := by
  have hopened := (hl.get_openProjects.mp hm.opened).1
  have hother : a.project ≠ p := fun heq => hne (ho.distinct a.id id p (heq ▸ hopened) hp)
  refine ⟨hopened, ?_, hm.closure.congr fun id' _ => hl.without.nodeAt ho fun hmem => ?_⟩
  · rw [← (hl.without.spares ho a.project hother).1]
    exact hm.keys
  · obtain ⟨_, -, heq⟩ := List.mem_map.mp hmem
    exact hother (Prod.mk.inj heq).1.symm

/-- **Attempts that are made one after another**, all of them with the nodes as they were at the
beginning. -/
structure Tries (r₀ : Registry) (attempts : List ClosingAttempt) (c : Controller)
    (t : Transcript Controller Call (fun _ => Answer) (List ControlError)) : Prop where
  /-- The attempts. -/
  made : ∀ a ∈ attempts, a.Made r₀ c
  /-- The requests are theirs. -/
  exchanges : t.exchanges = attempts.flatMap (·.log)
  /-- The errors are theirs. -/
  result : t.result = some (attempts.filterMap (·.error?))
  /-- What becomes of the nodes. -/
  without : Without (attempts.flatMap (·.removed)) c t.after
  /-- Projects of which nothing is left are forgotten. -/
  openProjects : ∀ id p, t.after.openProjects.get? id = some p
    ↔ c.openProjects.get? id = some p ∧ ∀ a ∈ attempts, id = a.id → a.left ≠ []
  /-- Nothing is going on afterwards. -/
  resting : Resting r₀ t.after

/-- One attempt, and then others. The identifier may not come again. -/
theorem Tries.cons {attempts : List ClosingAttempt} {t : Record Unit}
    {result : Except ControlError Unit}
    {later : Transcript Controller Call (fun _ => Answer) (List ControlError)} (ho : Orderly c)
    (hp : c.openProjects.get? id = some p) (hkeys : (c.project p).nodes.keys = gone ++ left)
    (hl : Leaves r₀ p id gone left c t) (hresult : t.result = some result)
    (hnotMem : id ∉ attempts.map (·.id)) (hlater : Tries r₀ attempts t.after later) :
    let first : ClosingAttempt := ⟨id, p, gone, left, t.exchanges, result⟩
    Tries r₀ (first :: attempts) c
      { t.append later with result := some ((first :: attempts).filterMap (·.error?)) } := by
  intro first
  refine ⟨List.forall_mem_cons.mpr ⟨⟨hp, hkeys, hresult ▸ hl.closure⟩, fun a ha => ?_⟩, ?_, rfl,
    hl.without.trans ho hlater.without, fun id' q => ?_, hlater.resting⟩
  · refine (hlater.made a ha).before ho hp hl fun heq => hnotMem ?_
    exact List.mem_map.mpr ⟨a, ha, heq⟩
  · show t.exchanges ++ later.exchanges = _
    rw [hlater.exchanges]
    rfl
  · rw [List.forall_mem_cons, ← and_assoc, ← hl.get_openProjects]
    exact hlater.openProjects id' q

/-- **Closing projects one after another.** By induction over the identifiers. The attempts after
the first are described by the induction hypothesis in terms of the state that the first one leaves,
and are then carried back to the beginning. -/
theorem deleteProjects_tries {ids : List Uuid} (hc : Resting r₀ c) (ho : Orderly c)
    (hids : ids.Nodup) (hopen : ∀ id ∈ ids, (c.openProjects.get? id).isSome = true) :
    (deleteProjects ids).Meets c fun t => t.result.isSome = true →
      ∃ attempts : List ClosingAttempt, attempts.map (·.id) = ids ∧ Tries r₀ attempts c t := by
  induction ids generalizing c with
  | nil =>
    refine fun _ => ⟨[], rfl, List.forall_mem_nil _, rfl, rfl, .refl c, fun id p => ?_, hc⟩
    exact (and_iff_left (List.forall_mem_nil _)).symm
  | cons id rest ih =>
    obtain ⟨hnotMem, hrest⟩ := List.nodup_cons.mp hids
    obtain ⟨hfirst, hopen⟩ := List.forall_mem_cons.mp hopen
    obtain ⟨p, hp⟩ := Option.isSome_iff_exists.mp hfirst
    refine meets_bind.mpr ((deleteProject_leaves hc ho hp).mono ?_)
    rintro ⟨log, result, after⟩ ⟨gone, left, hkeys, hl⟩
    cases result with
    | none => exact nofun
    | some result =>
      -- the other projects are still open
      have hopen' (id' : Uuid) (hid' : id' ∈ rest) :
          (after.openProjects.get? id').isSome = true := by
        obtain ⟨q, hq⟩ := Option.isSome_iff_exists.mp (hopen id' hid')
        rw [hl.get_openProjects.mpr ⟨hq, fun heq => absurd (heq ▸ hid') hnotMem⟩]
        rfl
      refine meets_bind.mpr ((ih hl.resting (ho.left hl) hrest hopen').mono ?_)
      rintro ⟨log', errors, after'⟩ hlater
      cases errors with
      | none => exact nofun
      | some errors =>
        obtain ⟨attempts, rfl, htries⟩ := hlater rfl
        obtain rfl : errors = _ := Option.some.inj htries.result
        let first : ClosingAttempt := ⟨id, p, gone, left, log, result⟩
        have hdone : Tries r₀ (first :: attempts) c ⟨log ++ (log' ++ []),
            some ((first :: attempts).filterMap (·.error?)), after'⟩ := by
          rw [List.append_nil]
          exact htries.cons ho hp hkeys hl rfl hnotMem
        cases result with
        | ok => exact fun _ => ⟨_, rfl, hdone⟩
        | error e => exact fun _ => ⟨_, rfl, hdone⟩

/-! ## All projects

Every project that was open has its attempt, whatever became of the others. What is reported is the
first error, in the order of the projects. -/

/-- **What attempts come to**: success, or the error of the first that failed. Later errors are
lost, as the result has room for one. -/
inductive Reports : List ClosingAttempt → Except ControlError Unit → Prop
  /-- All succeeded. -/
  | success {attempts : List ClosingAttempt} (h : ∀ a ∈ attempts, a.result = .ok ()) :
      Reports attempts (.ok ())
  /-- One failed, and none before it. -/
  | failure (before : List ClosingAttempt) {after : List ClosingAttempt} {a : ClosingAttempt}
      {e : ControlError} (hbefore : ∀ b ∈ before, b.result = .ok ()) (ha : a.result = .error e) :
      Reports (before ++ a :: after) (.error e)

theorem reports_firstError (attempts : List ClosingAttempt) :
    Reports attempts (firstError (attempts.filterMap (·.error?))) := by
  induction attempts with
  | nil => exact .success (List.forall_mem_nil _)
  | cons a rest ih =>
    rw [List.filterMap_cons]
    unfold ClosingAttempt.error? at ih ⊢
    cases ha : a.result with
    | ok =>
      dsimp only
      generalize firstError _ = result at ih
      cases ih with
      | success h => exact .success (List.forall_mem_cons.mpr ⟨ha, h⟩)
      | @failure before after b e hbefore hb =>
        exact .failure (a :: before) (List.forall_mem_cons.mpr ⟨ha, hbefore⟩) hb
    | error e => exact .failure [] (List.forall_mem_nil _) ha

/-- **All projects were closed, as far as they could be**: what became of each, whatever became of
the others. The attempts are listed with all that happened, and every field is about the whole list.
It is the fields `ids` and `opened` together that say that no project is passed over: each open
project has an attempt, and it is closed unless this attempt has failed. -/
structure ClosedAll (attempts : List ClosingAttempt) (c : Controller) (t : Record Unit) : Prop where
  /-- Every open project is attempted once. -/
  ids : attempts.map (·.id) = c.openProjects.keys
  /-- The attempts are made in the order of the identifiers. -/
  ascending : attempts.Pairwise fun a b => compare a.id b.id = .lt
  /-- They are attempts at the projects as they were. -/
  made : ∀ a ∈ attempts, a.Made c.registry c
  /-- What an attempt leaves is there at the end. -/
  halted : ∀ a ∈ attempts, Halted a.project a.gone a.left c ⟨a.log, some a.result, t.after⟩
  /-- The requests are those of the attempts, one after another. -/
  exchanges : t.exchanges = attempts.flatMap (·.log)
  /-- The projects that could not be closed are open, and no others. -/
  opened : ∀ id p, t.after.openProjects.get? id = some p
    ↔ ∃ a ∈ attempts, a.id = id ∧ a.project = p ∧ a.result ≠ .ok ()
  /-- The first error is the result, if there is one. -/
  result : ∃ result, t.result = some result ∧ Reports attempts result

namespace Tries

variable {attempts : List ClosingAttempt} {a b : ClosingAttempt}
  {t : Transcript Controller Call (fun _ => Answer) (List ControlError)}

/-- No two attempts are made at one project. They are at different identifiers, and two open
projects are not one. -/
theorem eq_of_project (ho : Orderly c) (hids : (attempts.map (·.id)).Nodup)
    (ht : Tries r₀ attempts c t) (ha : a ∈ attempts) (hb : b ∈ attempts)
    (h : a.project = b.project) : a = b := by
  refine List.inj_on_of_nodup_map hids ha hb ?_
  exact ho.distinct a.id b.id a.project (ht.made a ha).opened (h ▸ (ht.made b hb).opened)

/-- The entries of a project that are removed are those that its attempt removes. Other attempts are
at other projects. -/
theorem mem_removed (ho : Orderly c) (hids : (attempts.map (·.id)).Nodup)
    (ht : Tries r₀ attempts c t) (ha : a ∈ attempts) (id : Uuid) :
    (a.project, id) ∈ attempts.flatMap (·.removed) ↔ id ∈ a.gone := by
  rw [List.mem_flatMap]
  constructor
  · rintro ⟨b, hb, hmem⟩
    obtain ⟨id', hgone, heq⟩ := List.mem_map.mp hmem
    obtain ⟨hproject, rfl⟩ := Prod.mk.inj heq
    rw [eq_of_project ho hids ht ha hb hproject.symm]
    exact hgone
  · exact fun hgone => ⟨a, ha, List.mem_map_of_mem hgone⟩

theorem closedAll (ho : Orderly c) (hids : attempts.map (·.id) = c.openProjects.keys)
    (ht : Tries c.registry attempts c t) :
    ClosedAll attempts c
      ⟨t.exchanges, some (firstError (attempts.filterMap (·.error?))), t.after⟩ := by
  have hascending : (attempts.map (·.id)).Pairwise fun a b => compare a b = .lt :=
    hids ▸ List.pairwise_map.mpr c.openProjects.ascending
  have hnodup : (attempts.map (·.id)).Nodup := hids ▸ Dict.nodup_keys _
  refine ⟨hids, List.pairwise_map.mp hascending, ht.made, fun a ha => ?_, ht.exchanges,
    fun id p => (ht.openProjects id p).trans ⟨?_, ?_⟩, _, rfl, reports_firstError attempts⟩
  · exact ht.without.halted ho (mem_removed ho hnodup ht ha) (ht.made a ha).keys
      (ht.made a ha).closure
  · rintro ⟨hp, hleft⟩
    have hid : id ∈ attempts.map (·.id) := by
      rw [hids, Dict.mem_keys_iff]
      exact Option.isSome_iff_exists.mpr ⟨p, hp⟩
    obtain ⟨a, ha, rfl⟩ := List.mem_map.mp hid
    exact ⟨a, ha, rfl, Option.some.inj ((ht.made a ha).opened.symm.trans hp),
      fun hok => hleft a ha rfl ((ht.made a ha).left_eq_nil_iff.mpr hok)⟩
  · rintro ⟨a, ha, rfl, rfl, hfailed⟩
    refine ⟨(ht.made a ha).opened, fun b hb heq hleft => hfailed ?_⟩
    obtain rfl := List.inj_on_of_nodup_map hnodup ha hb heq
    exact (ht.made a ha).left_eq_nil_iff.mp hleft

end Tries

theorem closeAll_closes (ho : Orderly c) :
    closeAll.run.Meets c fun t => t.result.isSome = true →
      Resting c.registry t.after ∧ ∃ attempts, ClosedAll attempts c t := by
  have htries := deleteProjects_tries ho.resting ho (Dict.nodup_keys c.openProjects)
    fun id hid => (Dict.mem_keys_iff _ id).mp hid
  refine meets_bind.mpr ⟨rfl, meets_bind.mpr (htries.mono ?_)⟩
  rintro ⟨log, errors, after⟩ hsome
  cases errors with
  | none => exact nofun
  | some errors =>
    obtain ⟨attempts, hids, ht⟩ := hsome rfl
    obtain rfl : errors = _ := Option.some.inj ht.result
    refine fun _ => ⟨ht.resting, attempts, ?_⟩
    show ClosedAll attempts c ⟨[] ++ (log ++ []), _, after⟩
    rw [List.append_nil]
    exact ht.closedAll ho hids

/-! ## Shutting down

The clients are dropped afterwards in any case, so the same is left of the registry whether or not
all projects could be closed. -/

/-- **The engines are let go of**, and nothing else happens. The entries stay, so the engines can be
used again after this. -/
structure LetsGo (c c' : Controller) : Prop where
  /-- Only the registry changes. -/
  rest : c' = c.setRegistry c'.registry
  /-- The engines stay registered. -/
  records : ∀ id, c'.registry.record? id = c.registry.record? id
  /-- They are all disconnected. -/
  status : ∀ id, c'.registry.status? id = (c.registry.record? id).map fun _ => .disconnected
  /-- No client is kept. -/
  clients : c'.registry.clients = .empty

theorem letsGo_disconnectEvery (c : Controller) :
    LetsGo c (c.setRegistry c.registry.disconnectEvery) where
  rest := rfl
  records id := by
    show ((c.registry.entries.mapValues _).get? id).map _ = _
    rw [Dict.get_mapValues, Option.map_map]
    rfl
  status id := by
    show ((c.registry.entries.mapValues _).get? id).map _
      = ((c.registry.entries.get? id).map _).map _
    rw [Dict.get_mapValues, Option.map_map, Option.map_map]
    rfl
  clients := rfl

/-- **To shut down is to close everything and to let go of the engines.** The engines are let go of
after everything was closed, whatever the result, and this makes no request. -/
theorem shutdown_transcript {outside : Process.Outside Controller Call fun _ => Answer}
    {t : Record Unit} (ht : closeAll.run.transcript outside c = t)
    (hreturned : t.result.isSome = true) (hfree : t.after.registry.held = false) :
    shutdown.run.transcript outside c
      = { t with after := t.after.setRegistry t.after.registry.disconnectEvery } := by
  obtain ⟨result, hresult⟩ := Option.isSome_iff_exists.mp hreturned
  refine (Process.transcript_bind ht _).trans ?_
  rw [hresult]
  have hdropped : (onRegistry Registry.disconnectAll >>= fun _ => pure result :
      Task (Except ControlError Unit)).Settles t.after result
        (t.after.setRegistry t.after.registry.disconnectEvery) :=
    (onRegistry_settles (Registry.disconnectAll_settles hfree)).andThen (Process.settles_pure _ _)
  refine (congrArg t.append (hdropped.transcript _)).trans ?_
  unfold Transcript.append
  rw [List.append_nil]

/-- **Every project is attempted, and the engines are let go of in any case.** Whatever a control
plane has come to, and whatever engines answer, closing all projects attempts each open project
once, in ascending order, whether or not others could be closed; those that could not be closed are
open afterwards, and no others, and the result is success or the first error. Shutting down makes
the same requests and has the same result, and lets go of every engine. No fairness of engines is
needed: an engine may refuse every deletion, and may answer differently each time. What is needed is
that it answers, since a call that waits for ever closes nothing. -/
theorem every_project_attempted (hc : Reached c) (answers : List Exchange → Call → Answer) :
    let outside : Process.Outside Controller Call fun _ => Answer :=
      fun seen call => some (answers seen call)
    let closing := closeAll.run.transcript outside c
    let stopping := shutdown.run.transcript outside c
    (∃ attempts, ClosedAll attempts c closing)
      ∧ stopping.exchanges = closing.exchanges ∧ stopping.result = closing.result
      ∧ LetsGo closing.after stopping.after := by
  intro outside closing stopping
  have hmeets := closeAll_closes hc.orderly
  have hreturned : closing.result.isSome = true := returns_of_answered hmeets fun _ _ => rfl
  obtain ⟨hresting, hclosed⟩ := hmeets.transcript outside hreturned
  have hstopping : stopping = { closing with
      after := closing.after.setRegistry closing.after.registry.disconnectEvery } :=
    shutdown_transcript rfl hreturned hresting.registry
  rw [hstopping]
  exact ⟨hclosed, rfl, rfl, letsGo_disconnectEvery closing.after⟩

section Examples

/-- Two projects: one with three nodes, and one with a node of its own. So one of them can be closed
while the other one cannot. -/
def crowded : Controller :=
  let c := (openProject high "annex" stocked).2
  ((Chore.add "local" { id := low, nodeType := .vpcs, name := "pc" }).task 4).transcript
    confirming c |>.after

theorem reached_crowded : Reached crowded :=
  (reached_stocked.opened high "annex").called 4 _ confirming

/-- **One of two projects cannot be closed**, and the other is closed after it. The project that
cannot be closed is attempted first. Of its three nodes one is deleted, one cannot be, and the last
is not attempted any more. -/
theorem one_of_two_projects_closed :
    let outside : Process.Outside Controller Call fun _ => Answer :=
      fun seen call => some (keeping (stocked.node 1) seen call)
    let closing := closeAll.run.transcript outside crowded
    let stopping := shutdown.run.transcript outside crowded
    Reached crowded ∧ crowded.openProjects.keys = [default, high]
      ∧ closing.exchanges.length = 3 ∧ closing.after.openProjects.keys = [default]
      ∧ (closing.after.project 0).nodes.keys = [middle, high]
      ∧ (closing.result.any fun r => !r.toBool) = true
      ∧ (∃ attempts, ClosedAll attempts crowded closing)
      ∧ stopping.result = closing.result ∧ LetsGo closing.after stopping.after := by
  intro outside closing stopping
  obtain ⟨hclosed, -, hresult, hletsGo⟩ :=
    every_project_attempted reached_crowded (keeping (stocked.node 1))
  exact ⟨reached_crowded, by decide +kernel, by decide +kernel, by decide +kernel,
    by decide +kernel, by decide +kernel, hclosed, hresult, hletsGo⟩

end Examples

end Testbed.Controller

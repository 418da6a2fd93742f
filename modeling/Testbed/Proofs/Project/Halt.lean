import Testbed.Proofs.Controller.Reached
import Testbed.Proofs.Project.Closable

/-!
# Where the closing of a project stops

A project is closed by deleting its nodes, smallest identifier first, and the first deletion that
fails ends it. That one place says everything: before it are the nodes that were deleted, on their
engines and in the project; it and what comes after it is the project that remains (`Halted`). The
requests go no further than that place, and the error is the one that came up there.

A project is forgotten by closing it and then, if that succeeded, dropping it from the open ones.
So it goes with the same requests to the same place, and a project that is still open is what the
closing left of it (`halted_at_the_first_failure`).
-/

namespace Testbed.Controller

variable {c : Controller} {p : ProjectHandle} {id : Uuid} {gone left : List Uuid}

/-- **How a project was closed**, up to some place among its nodes. The part before the place and
the part from it on make up all nodes of the project. -/
structure Halted (p : ProjectHandle) (gone left : List Uuid) (c : Controller) (t : Record Unit) :
    Prop where
  /-- The requests, and the result. -/
  closure : Closure c.registry (c.nodeAt? p) gone left t.exchanges t.result
  /-- It succeeded exactly if nothing is left. -/
  success : t.result = some (.ok ()) ↔ left = []
  /-- The nodes before the place were deleted. -/
  deleted : ∀ id ∈ gone, ∃ h, c.handleAt? p id = some h ∧ t.after.node h = (c.node h).buried
  /-- The nodes from there on are those that remain. -/
  remaining : (t.after.project p).nodes.keys = left
  /-- They are what they were. -/
  kept : ∀ id ∈ left, ∃ h, c.handleAt? p id = some h ∧ t.after.handleAt? p id = some h
    ∧ t.after.node h = c.node h

/-- **Projects other than one** have the nodes that they had, and those are what they were. Closing
one project never shows in another. -/
def Spares (p : ProjectHandle) (c c' : Controller) : Prop :=
  ∀ q, q ≠ p → (c'.project q).nodes = (c.project q).nodes
    ∧ ∀ id h, c.handleAt? q id = some h → c'.node h = c.node h

theorem exists_entry {ids : List Uuid} (hkeys : (c.project p).nodes.keys = ids) (hid : id ∈ ids) :
    ∃ h, c.handleAt? p id = some h :=
  Option.isSome_iff_exists.mp ((Dict.mem_keys_iff _ id).mp (hkeys ▸ hid))

section Without

variable {c' : Controller} {pairs : List (ProjectHandle × Uuid)}

theorem mem_gone (p : ProjectHandle) (gone : List Uuid) (id : Uuid) :
    (p, id) ∈ gone.map (p, ·) ↔ id ∈ gone :=
  List.mem_map_of_injective fun _ _ heq => (Prod.mk.inj heq).2

/-- The nodes that are left are the last ones. -/
theorem Without.keys_eq (hw : Without pairs c c') (hpairs : ∀ id, (p, id) ∈ pairs ↔ id ∈ gone)
    (hkeys : (c.project p).nodes.keys = gone ++ left) : (c'.project p).nodes.keys = left := by
  have hfilter : (c'.project p).nodes.keys
      = (c.project p).nodes.keys.filter fun id => decide ((p, id) ∉ pairs) := by
    rw [hw.nodes]
    unfold Dict.keys Dict.filter
    rw [List.filter_map]
    rfl
  obtain ⟨-, -, hdisjoint⟩ := List.nodup_append.mp (hkeys ▸ Dict.nodup_keys _)
  rw [hfilter, hkeys, List.filter_append, List.filter_eq_nil_iff.mpr, List.filter_eq_self.mpr]
  · rfl
  · intro id hid
    rw [decide_eq_true_iff, hpairs]
    exact fun hgone => hdisjoint id hgone id hid rfl
  · intro id hid
    rw [decide_eq_true_iff, hpairs]
    exact not_not_intro hid

/-- **Deletions that went in order halted somewhere**, whatever else was deleted elsewhere. It is
the translation from what deletions do to all projects to what they do to this one. -/
theorem Without.halted {t : Record Unit} (ho : Orderly c) (hw : Without pairs c t.after)
    (hpairs : ∀ id, (p, id) ∈ pairs ↔ id ∈ gone)
    (hkeys : (c.project p).nodes.keys = gone ++ left)
    (hclosure : Closure c.registry (c.nodeAt? p) gone left t.exchanges t.result) :
    Halted p gone left c t where
  closure := hclosure
  success := hclosure.left_eq_nil_iff.symm
  deleted id hid := by
    obtain ⟨h, hget⟩ := exists_entry hkeys (List.mem_append_left left hid)
    exact ⟨h, hget, hw.buried p id h ((hpairs id).mpr hid) hget⟩
  remaining := hw.keys_eq hpairs hkeys
  kept id hid := by
    obtain ⟨h, hget⟩ := exists_entry (hw.keys_eq hpairs hkeys) hid
    exact ⟨h, (hw.entry_of_some hget).2, hget, hw.node_of_some ho hget⟩

/-- Deleting nodes of one project spares the others. -/
theorem Without.spares (ho : Orderly c) (hw : Without (gone.map (p, ·)) c c') : Spares p c c' := by
  intro q hq
  have hentry (id : Uuid) : c'.handleAt? q id = c.handleAt? q id := by
    refine (hw.entry q id).trans (if_neg fun hmem => ?_)
    obtain ⟨id', -, heq⟩ := List.mem_map.mp hmem
    exact hq (Prod.mk.inj heq).1.symm
  exact ⟨Dict.ext_get hentry, fun id h hget => hw.node_of_some ho ((hentry id).trans hget)⟩

end Without

/-- **A project is forgotten the way it is closed**: with the same requests and the same result, and
it is open afterwards unless that succeeded. Whether the project is open afterwards is the only
difference between the two. -/
structure Forgotten (p : ProjectHandle) (id : Uuid) (gone left : List Uuid) (c : Controller)
    (t d : Record Unit) : Prop where
  /-- The nodes are deleted as far as by closing. -/
  halted : Halted p gone left c d
  /-- The other projects are spared. -/
  spares : Spares p c d.after
  /-- The requests are the same. -/
  exchanges : d.exchanges = t.exchanges
  /-- The result is the same. -/
  result : d.result = t.result
  /-- If the project was closed, it is no longer open. -/
  closed : t.result = some (.ok ()) → d.after.openProjects = c.openProjects.erase id
  /-- If it was not, it is open. -/
  failed : t.result ≠ some (.ok ()) → d.after.openProjects = c.openProjects

theorem Halted.forgotten {t d : Record Unit} (ht : Halted p gone left c t)
    (hspares : Spares p c t.after) (hopen : t.after.openProjects = c.openProjects)
    (hd : d = { t with after := match t.result with
      | some (.ok ()) => forgetProject id t.after
      | _ => t.after }) : Forgotten p id gone left c t d := by
  obtain ⟨log, result, after⟩ := t
  have hfailed (hno : result ≠ some (.ok ())) :
      Forgotten p id gone left c ⟨log, result, after⟩ ⟨log, result, after⟩ :=
    ⟨ht, hspares, rfl, rfl, fun hok => absurd hok hno, fun _ => hopen⟩
  match result with
  | some (.ok ()) =>
    obtain rfl := hd
    exact ⟨⟨ht.closure, ht.success, ht.deleted, ht.remaining, ht.kept⟩, hspares, rfl, rfl,
      fun _ => congrArg (·.erase id) hopen, fun hno => absurd rfl hno⟩
  | some (.error e) =>
    obtain rfl := hd
    exact hfailed nofun
  | none =>
    obtain rfl := hd
    exact hfailed nofun

/-- A process that never waits comes to an end if everything is answered. -/
theorem returns_of_answered {α : Type} {q : Task α}
    {post : Process.Transcript Controller Call (fun _ => Answer) α → Prop} (hq : q.Meets c post)
    {outside : Process.Outside Controller Call fun _ => Answer}
    (h : ∀ seen call, (outside seen call).isSome = true) :
    (q.transcript outside c).result.isSome = true := by
  refine (hq.result.transcript outside).2 fun x hx => ?_
  obtain ⟨seen, hanswer⟩ := (Process.transcript_answered outside q c).mem hx
  rw [hanswer]
  exact h seen x.question

/-- **The closing of a project stops at the first deletion that fails.** Whatever a control plane
has come to, the nodes of a project, in ascending order, fall into those before and those from that
place on: the former are deleted, and the others remain as they were. Requests are sent for the
former and for the node at the place, in this order, and its error is the result. Forgetting the
project goes the same way, and it is open afterwards exactly if something is left of it. If
everything is answered, there is a result.

The engines answer whatever they like, and may leave a request without an answer, in which case
there is no result and the same is said of what was done so far. The number of nodes is any, and the
place at which the closing stops may be before the first of them or behind the last; in the latter
case it has succeeded. -/
theorem halted_at_the_first_failure (hc : Reached c) (p : ProjectHandle)
    (outside : Process.Outside Controller Call fun _ => Answer) :
    let t := (closeProject p).run.transcript outside c
    ((∀ seen call, (outside seen call).isSome = true) → t.result.isSome = true)
      ∧ ∃ gone left, (c.project p).nodes.keys = gone ++ left
        ∧ (gone ++ left).Pairwise (fun a b => compare a b = .lt)
        ∧ Halted p gone left c t ∧ Spares p c t.after
        ∧ t.after.openProjects = c.openProjects
        ∧ ∀ id, c.openProjects.get? id = some p →
          Forgotten p id gone left c t ((deleteProject id).run.transcript outside c) := by
  intro t
  have ho := hc.orderly
  have hmeets := closeProject_clears ho.resting ho p
  obtain ⟨gone, left, hkeys, hclears⟩ := hmeets.transcript outside
  have hhalted : Halted p gone left c t :=
    hclears.without.halted ho (mem_gone p gone) hkeys hclears.closure
  have hspares : Spares p c t.after := hclears.without.spares ho
  have hascending : (c.project p).nodes.keys.Pairwise fun a b => compare a b = .lt :=
    List.pairwise_map.mpr (c.project p).nodes.ascending
  exact ⟨returns_of_answered hmeets, gone, left, hkeys, hkeys ▸ hascending, hhalted, hspares,
    hclears.openProjects, fun id hp =>
      hhalted.forgotten hspares hclears.openProjects (deleteProject_transcript hp outside rfl)⟩

section Examples

/-- The smallest of three identifiers. -/
def low : Uuid := { value := 1 }

/-- The one between. -/
def middle : Uuid := { value := 2 }

/-- The greatest. -/
def high : Uuid := { value := 3 }

/-- A node is added on an engine that confirms everything. -/
def withPc (c : Controller) (id : Uuid) : Controller :=
  (confirmed (.add "local" { id, nodeType := .vpcs, name := "pc" }) c).after

/-- A project with three nodes, added in no order. -/
def stocked : Controller := [middle, high, low].foldl withPc opened

theorem reached_stocked : Reached stocked := by
  have hlab : Refitted (initial default) ((initial default).setRegistry Registry.lab) :=
    ⟨rfl, rfl, rfl, rfl, rfl⟩
  have hopened : Reached opened := .opened (.refitted (.start default) hlab) default "lab"
  have hadded {c : Controller} (hc : Reached c) (id : Uuid) : Reached (withPc c id) :=
    hc.called 0 _ confirming
  exact hadded (hadded (hadded hopened middle) high) low

/-- Engines that confirm everything but the deletion of one node. -/
def keeping (n : Node) (_ : List Exchange) (call : Call) : Answer :=
  if call.request = .delete n.path then .error (.refused 500 "engine busy") else .ok (.obj [])

/-- **Of three nodes the second is not deleted.** The first is gone, and the third is not tried. -/
theorem halted_at_the_second_of_three :
    let outside : Process.Outside Controller Call fun _ => Answer :=
      fun seen call => some (keeping (stocked.node 1) seen call)
    let t := (closeProject 0).run.transcript outside stocked
    Reached stocked ∧ stocked.handleAt? 0 middle = some 1 ∧ t.exchanges.length = 2
      ∧ Halted 0 [low] [middle, high] stocked t
      ∧ Forgotten 0 default [low] [middle, high] stocked t
        ((deleteProject default).run.transcript outside stocked) := by
  intro outside t
  obtain ⟨-, gone, left, hkeys, -, hhalted, -, -, hforgotten⟩ :=
    halted_at_the_first_failure reached_stocked 0 outside
  have hleft : left = [middle, high] := hhalted.remaining.symm.trans (by decide +kernel)
  obtain rfl := hleft
  have hall : (stocked.project 0).nodes.keys = [low] ++ [middle, high] := by decide +kernel
  obtain rfl : gone = [low] := List.append_cancel_right (hkeys.symm.trans hall)
  exact ⟨reached_stocked, by decide +kernel, by decide +kernel, hhalted,
    hforgotten default (by decide +kernel)⟩

end Examples

end Testbed.Controller

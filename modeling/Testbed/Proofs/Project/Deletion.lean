import Testbed.Proofs.Project.NodeCallLog
import Testbed.Proofs.Registry.Reach

/-!
# A node is deleted once

A call that deletes a node destroys it with the node's lock held, and makes the project forget the
entry under the identifier afterwards, when the lock is given back. In between anything may happen:
other calls delete the node, too, or operate on it under a handle that they got earlier, and others
want to add a node under the identifier. `deletions_once` says that nothing comes of this. An engine
confirms the deletion of a node once, to one call, and this call removes the node's entry and no
other; all other calls that get hold of the node fail, or have been there before, and nobody sends a
request about it any more.

Everything is said in terms of the log and the results. The invariant from which it is read off is
in `Accord` and `Minutes`. That the project is at rest in the end as it was at the beginning
(`DeletedOnce.rest`) makes the theorem one about any number of rounds of calls.
-/

namespace Testbed.Controller

variable {ι : Type}

/-- The handle of a node that was created. It may have been deleted since. -/
def Created (c : Controller) (h : NodeHandle) : Prop :=
  h < c.allocated ∧ (c.node h).status ≠ .pending

/-- **Nothing is going on with a project**: the nodes in it were created, and nobody has a claim or
a lock. It is what a project is before anybody works with it, and again when everybody has finished.
-/
structure AtRest (p : ProjectHandle) (c : Controller) : Prop where
  claimed : (c.project p).claimed = []
  free : ∀ h, (c.cell h).held = false
  created : ∀ id h, (c.project p).nodes.get? id = some h → Created c h

/-- Dealings with the nodes of a project, side by side. -/
abbrev DealingCrew (ds : ι → Dealing) : Type :=
  Crew ι Controller Call (fun _ => Answer) fun i => Except ControlError (ds i).Result

/-- Dealings before their first turns. All of them are calls on one project. -/
def dealingCrew (p : ProjectHandle) (ds : ι → Dealing) (c : Controller) : DealingCrew ds :=
  Crew.start c fun i => (ds i).task p

section Outcome

variable (p : ProjectHandle) {ds : ι → Dealing} (crew : DealingCrew ds) (h : NodeHandle) (i : ι)

/-- **A call has deleted the node under a handle**: it has returned with success, and has made the
project forget this very node and nothing else. It is told from the log: the confirmation, the
moment at which the entry goes, and the result. -/
structure Removes : Prop where
  deletes : (ds i).deletes = true
  succeeded : ∃ a, (crew.stand i).result? = some (.ok a)
  forgets : ∃ c c', (i, .moved c c') ∈ crew.log ∧ Forgets p (ds i).id h c c'
  only : ∀ c c', (i, .moved c c') ∈ crew.log →
    c'.project p = c.project p ∨ Forgets p (ds i).id h c c'

/-- **A call has failed** and left the project alone. None of its steps has changed the entries of
the project. -/
structure Refused : Prop where
  failed : ∃ e, (crew.stand i).result? = some (.error e)
  only : ∀ c c', (i, .moved c c') ∈ crew.log → c'.project p = c.project p

/-- **Every node is deleted once**, whatever the dealings with it. The fields answer, one by one:
how often a deletion is confirmed, what is still asked about the node, what becomes of it, who has
removed which entry, and in which state everything is left. -/
structure DeletedOnce : Prop where
  /-- Who adds a node deletes none. -/
  posts : ∀ i, (ds i).adds = true → ∀ call, (i, .put call) ∈ crew.log → call.request.method = .post
  /-- All others send requests about the one node whose lock they took. -/
  attributed : ∀ i, (ds i).adds = false → ∀ call, (i, .put call) ∈ crew.log →
    ∃ h n, Finds crew.log i h n
  single : ∀ i h n h' n', Finds crew.log i h n → Finds crew.log i h' n' → h' = h ∧ n' = n
  /-- An engine confirms the deletion of a node at most once. -/
  once : ∀ before x after h, crew.log = before ++ x :: after → Confirms crew.log h x →
    ∀ y ∈ after, ¬ Confirms crew.log h y
  /-- From then on no call that takes the node's lock sends a request, whenever it takes it. -/
  silent : ∀ before x after h, crew.log = before ++ x :: after → Confirms crew.log h x →
    ∀ i call, (i, .put call) ∈ after → ∀ n, ¬ Finds crew.log i h n
  /-- When all calls have ended, one has deleted the node, and all others that wanted to have
  failed. -/
  deleted : (∀ i, (crew.stand i).ended = true) → ∀ h, (∃ x ∈ crew.log, Confirms crew.log h x) →
    ∃ i, Removes p crew h i ∧ ∀ j, j ≠ i → (ds j).deletes = true →
      (∃ n, Finds crew.log j h n) → Refused p crew j
  /-- A call that returns with success from deleting a node has deleted one. -/
  honest : ∀ i, (ds i).deletes = true → (∃ a, (crew.stand i).result? = some (.ok a)) →
    ∃ h, (∃ x ∈ crew.log, x.1 = i ∧ Confirms crew.log h x) ∧ Removes p crew h i
  /-- When all calls have ended, nothing is going on any more. -/
  rest : (∀ i, (crew.stand i).ended = true) → AtRest p crew.state

end Outcome

section Once

variable {p : ProjectHandle} {pid : Uuid} {ds : ι → Dealing} {c : Controller} {part : ι → Part}

/-! ## At the beginning

Before their first turns the calls know no more than the handles that they were given. The project
may have been through anything, as long as nothing is going on in it. -/

theorem Part.found_first (d : Dealing) : (Part.first d).found? = none := by cases d <;> rfl

theorem Part.inside_first (d : Dealing) : (Part.first d).inside? = none := by cases d <;> rfl

theorem Part.own_first (d : Dealing) : (Part.first d).own? = none := by cases d <;> rfl

theorem Part.not_buries_first (d : Dealing) (h : NodeHandle) : ¬ (Part.first d).Buries h := by
  rintro ⟨n, hfound, -⟩
  rw [Part.found_first] at hfound
  cases hfound

theorem Part.role_first (d : Dealing) : (Part.first d).role = .deleting ↔ d.adds = false := by
  cases d with
  | add => exact iff_of_false nofun nofun
  | delete | operate | use => exact iff_of_true rfl rfl

theorem Part.holds_first (d : Dealing) : (Part.first d).role.holds = false := by cases d <;> rfl

/-- Only a handle is known at first. Other dealings have to look for their nodes, or add them. -/
theorem Part.known_first {d : Dealing} {h : NodeHandle} (hd : (Part.first d).known? = some h) :
    ∃ step hstep, d = .use h step hstep := by
  cases d with
  | use h' step hstep =>
    cases hd
    exact ⟨step, hstep, rfl⟩
  | add | delete | operate => cases hd

/-- Dealings that have not begun find the nodes of a project at rest as they are. -/
theorem AtRest.existence (hc : AtRest p c)
    (huses : ∀ i h step hstep, ds i = .use h step hstep → Created c h) :
    Existence p ds c fun i => .first (ds i) where
  known h hh := by
    have hcreated : Created c h := by
      obtain ⟨id, hid⟩ | ⟨i, hi⟩ := hh
      · exact hc.created id h hid
      · obtain ⟨step, hstep, hd⟩ := Part.known_first hi
        exact huses i h step hstep hd
    exact ⟨hcreated.1, fun _ => hcreated.2⟩
  own i h hi := by
    rw [Part.own_first] at hi
    cases hi
  gone h hgone := by
    obtain ⟨i, hi⟩ := hgone
    exact absurd hi (Part.not_buries_first (ds i) h)
  works i := by cases ds i <;> trivial
  told i := by cases ds i <;> trivial
  unique i j h hi := absurd hi (Part.not_buries_first (ds i) h)
  lookedUp i h hlooks hi := by
    obtain ⟨step, hstep, hd⟩ := Part.known_first hi
    rw [hd] at hlooks
    cases hlooks
  there i h hi := absurd hi (Part.not_buries_first (ds i) h)

/-- Nor have they any claims. -/
theorem AtRest.ledger (hc : AtRest p c) :
    Ledger p (c.project p).id (fun i => (ds i).id) c fun i => (Part.first (ds i)).role where
  project := rfl
  knows i := by cases ds i <;> trivial
  claimed id := by
    rw [hc.claimed]
    refine iff_of_false List.not_mem_nil fun ⟨i, _, hi⟩ => ?_
    rw [Part.holds_first] at hi
    cases hi
  exclusive i j _ hi := by
    rw [Part.holds_first] at hi
    cases hi
  absent i hi := by
    have hholds := Role.holds_of_creates hi
    rw [Part.holds_first] at hholds
    cases hholds

/-- Dealings that have not begun are in accord with a project at rest. -/
theorem AtRest.accord (hc : AtRest p c)
    (huses : ∀ i h step hstep, ds i = .use h step hstep → Created c h) :
    Accord p (c.project p).id ds c fun i => .first (ds i) where
  nodes := hc.existence huses
  locks := by
    rw [show (fun i => (Part.first (ds i)).inside?) = fun _ => none from
      funext fun i => Part.inside_first (ds i)]
    exact .of_free hc.free
  claims := hc.ledger

/-- The minutes of dealings that have not begun are empty. -/
theorem Minutes.start : Minutes p ds [] fun i => .first (ds i) where
  roles i := Part.role_first (ds i)
  finds i h n := by
    rw [Part.found_first]
    exact iff_of_false (fun ⟨_, _, hmem, _⟩ => List.not_mem_nil hmem) nofun
  answers i _ call answer := by
    refine iff_of_false List.not_mem_nil fun hanswered => ?_
    have hfound := Part.found_of_answered hanswered
    rw [Part.found_first] at hfound
    cases hfound
  posts _ _ _ hmem := absurd hmem List.not_mem_nil
  asks _ _ _ hmem := absurd hmem List.not_mem_nil
  steps _ _ _ _ hmem := absurd hmem List.not_mem_nil
  forgets i h w hi := by
    have hfound := Part.found_first (ds i)
    rw [hi] at hfound
    cases hfound
  silent _ _ _ _ hcut :=
    absurd hcut.symm (List.append_ne_nil_of_right_ne_nil _ (List.cons_ne_nil _ _))

/-! ## At the end

When a call has ended its result says which part it played last. From the parts of all calls it is
read off who deleted what. -/

variable {crew : DealingCrew ds} {i : ι} {h : NodeHandle}

/-- **How a call ends that deletes a node**: with success, having dropped what it has buried, or
with a failure, having done neither. In between, a call may have buried a node that it has not yet
dropped; at its end it cannot. -/
theorem Existence.ends (hx : Existence p ds c part) (hd : (ds i).deletes = true)
    {result : Except ControlError (ds i).Result} (hends : Part.Ends (ds i) (part i) result) :
    result.toBool = true ∧ (∃ h w, part i = .dropped h w ∧ (part i).Buries h)
      ∨ result.toBool = false ∧ (∀ h w, part i ≠ .dropped h w) ∧ ∀ h, ¬ (part i).Buries h := by
  have htold := hx.told i
  generalize part i = g at hends htold
  cases g with
  | lost | missed =>
    refine .inr ⟨hends, by rintro _ _ ⟨⟩, fun h ⟨n, hfound, _⟩ => ?_⟩
    cases hfound
  | left h w ok =>
    obtain ⟨hresult, hnot⟩ := hends
    obtain rfl := hnot hd
    refine .inr ⟨hresult, by rintro _ _ ⟨⟩, fun h ⟨n, hfound, hburies⟩ => ?_⟩
    cases hfound
    exact Bool.false_ne_true (htold.mp hburies).1
  | dropped h w => exact .inl ⟨hends, h, w, rfl, w.first, rfl, htold.1⟩
  | released =>
    rw [show (ds i).deletes = false from hends] at hd
    cases hd
  | fresh | drafted | creating | entered | seeking | waiting | inside => exact hends.elim

/-- A call that has buried a node when it ends has deleted it. It is the call to which the deletion
was confirmed. -/
theorem Minutes.removes (hm : Minutes p ds crew.log part) (hx : Existence p ds c part)
    (hfollows : (crew.stand i).Follows (dealing p (ds i)) (Part.Ends (ds i)) (part i))
    (hended : (crew.stand i).ended = true) (hburies : (part i).Buries h) :
    Removes p crew h i := by
  have hd := (hx.told i).deletes hburies
  obtain ⟨result, hresult, hends⟩ := hfollows.of_ended hended
  obtain ⟨hok, h', w, hpart, -⟩ | ⟨-, -, hnot⟩ := hx.ends hd hends
  · obtain rfl : h' = h := by
      obtain ⟨n, hfound, -⟩ := hburies
      rw [hpart] at hfound
      cases hfound
      rfl
    refine ⟨hd, ?_, hm.forgets i h' w hpart, fun a b hmem => ?_⟩
    · cases result with
      | ok a => exact ⟨a, hresult⟩
      | error e => cases hok
    · refine (hm.steps i (Dealing.adds_of_deletes hd) a b hmem).imp_right ?_
      rintro ⟨h'', w', hpart', hforgets⟩
      rw [hpart] at hpart'
      cases hpart'
      exact hforgets
  · exact absurd hburies (hnot h)

/-- A call that deletes nodes and has buried none when it ends has failed. -/
theorem Minutes.refused (hm : Minutes p ds crew.log part) (hx : Existence p ds c part)
    (hfollows : (crew.stand i).Follows (dealing p (ds i)) (Part.Ends (ds i)) (part i))
    (hended : (crew.stand i).ended = true) (hd : (ds i).deletes = true)
    (hnot : ∀ h, ¬ (part i).Buries h) : Refused p crew i := by
  obtain ⟨result, hresult, hends⟩ := hfollows.of_ended hended
  obtain ⟨-, h, w, -, hburies⟩ | ⟨hfailed, hkept, -⟩ := hx.ends hd hends
  · exact absurd hburies (hnot h)
  · refine ⟨?_, fun a b hmem => ?_⟩
    · cases result with
      | ok a => cases hfailed
      | error e => exact ⟨e, hresult⟩
    · refine (hm.steps i (Dealing.adds_of_deletes hd) a b hmem).resolve_right ?_
      rintro ⟨h, w, hpart, -⟩
      exact hkept h w hpart

/-- When all calls have ended, nothing is going on any more. -/
theorem Accord.atRest (ha : Accord p pid ds c part)
    (hfollows : ∀ i, (crew.stand i).Follows (dealing p (ds i)) (Part.Ends (ds i)) (part i))
    (hended : ∀ i, (crew.stand i).ended = true) : AtRest p c := by
  have hout (i : ι) : (part i).inside? = none ∧ (part i).role.holds = false := by
    obtain ⟨result, -, hends⟩ := (hfollows i).of_ended (hended i)
    cases hpart : part i with
    | lost | missed | released | left | dropped => exact ⟨rfl, rfl⟩
    | fresh | drafted | creating | entered | seeking | waiting | inside =>
      rw [hpart] at hends
      exact hends.elim
  have hfree (h : NodeHandle) : (c.cell h).held = false := by
    refine ha.locks.free_of_not_inside fun i hi => ?_
    rw [(hout i).1] at hi
    cases hi
  refine ⟨List.eq_nil_iff_forall_not_mem.mpr fun id hid => ?_, hfree, fun id h hid => ?_⟩
  · obtain ⟨i, -, hholds⟩ := (ha.claims.claimed id).mp hid
    rw [(hout i).2] at hholds
    cases hholds
  · obtain ⟨hlt, hawake⟩ := ha.nodes.known h (.inl ⟨id, hid⟩)
    exact ⟨hlt, hawake (hfree h)⟩

/-- The invariant says that every node is deleted once. -/
theorem Accord.deletedOnce (ha : Accord p pid ds crew.state part)
    (hm : Minutes p ds crew.log part)
    (hfollows : ∀ i, (crew.stand i).Follows (dealing p (ds i)) (Part.Ends (ds i)) (part i)) :
    DeletedOnce p crew where
  posts := hm.posts
  attributed i hadds call hmem := by
    obtain ⟨⟨h, n⟩, hfound⟩ := Option.isSome_iff_exists.mp (hm.asks i hadds call hmem)
    exact ⟨h, n, (hm.finds i h n).mpr hfound⟩
  single i h n h' n' hi hi' := by
    have heq := ((hm.finds i h n).mp hi).symm.trans ((hm.finds i h' n').mp hi')
    cases heq
    exact ⟨rfl, rfl⟩
  once before x after h hcut hconfirms y hy hconfirms' := by
    obtain ⟨n, call, report, hfinds, hanswered, -⟩ := hconfirms'
    exact hm.silent before x after h hcut hconfirms y hy (by rw [hanswered]; rfl) n hfinds
  silent before x after h hcut hconfirms i call hmem :=
    hm.silent before x after h hcut hconfirms _ hmem rfl
  deleted hended h hconfirms := by
    obtain ⟨x, hx, hconfirms⟩ := hconfirms
    have hburies : (part x.1).Buries h := hm.buries_iff.mpr ⟨x, hx, rfl, hconfirms⟩
    refine ⟨x.1, hm.removes ha.nodes (hfollows _) (hended _) hburies, fun j hj hd hfinds => ?_⟩
    obtain ⟨n, hfinds⟩ := hfinds
    refine hm.refused ha.nodes (hfollows j) (hended j) hd fun h' hburies' => hj ?_
    -- what the call has buried is the node that it found
    obtain rfl : h' = h := by
      obtain ⟨m, hfound, -⟩ := hburies'
      rw [(hm.finds j h n).mp hfinds] at hfound
      cases hfound
      rfl
    exact ha.nodes.unique j x.1 h' hburies' hburies
  honest i hd hok := by
    obtain ⟨a, hresult⟩ := hok
    have hended := Crew.ended_of_result hresult
    obtain ⟨result, hresult', hends⟩ := (hfollows i).of_ended hended
    obtain ⟨-, h, w, -, hburies⟩ | ⟨hfailed, -⟩ := ha.nodes.ends hd hends
    · exact ⟨h, hm.buries_iff.mp hburies, hm.removes ha.nodes (hfollows i) hended hburies⟩
    · rw [hresult] at hresult'
      cases hresult'
      cases hfailed
  rest hended := ha.atRest hfollows hended

/-- **A node is deleted once.** Any number of calls add nodes to a project, delete nodes of it and
operate on them, their steps mix in any way, and the engines answer whatever they like. If nothing
was going on before, and calls that come with a handle have that of a node that was created, then no
node is deleted twice, each that is deleted is forgotten by the call that deleted it, and nobody
else succeeds in deleting it or asks for it any more.

The schedule says who takes the next turn and how the engine would answer then. The nodes may be
added during the run as well, and they are covered by the same statement. What makes it true is that
the entry of a deleted node stays until the one call that deleted it takes it away: no other node
can be added under the identifier in the meantime, and so the entry that is removed is the right
one. -/
theorem deletions_once [DecidableEq ι] (p : ProjectHandle) (ds : ι → Dealing) (c : Controller)
    (hc : AtRest p c) (huses : ∀ i h step hstep, ds i = .use h step hstep → Created c h)
    (schedule : List (ι × (Call → Answer))) :
    DeletedOnce p ((dealingCrew p ds c).run (schedule.map fun t => (t.1, .go t.2))) := by
  have hpatient : ∀ t ∈ schedule.map fun t => (t.1, Crew.Turn.go t.2),
      t.2.Patient fun (_ : Call) (_ : Answer) => True := by
    intro t ht
    obtain ⟨i, -, rfl⟩ := List.mem_map.mp ht
    exact fun _ => trivial
  have hstart : Accord p (c.project p).id ds (dealingCrew p ds c).state (fun i => .first (ds i))
      ∧ Minutes p ds (dealingCrew p ds c).log fun i => .first (ds i) :=
    ⟨hc.accord huses, Minutes.start⟩
  obtain ⟨part, ⟨ha, hm⟩, hfollows⟩ := Crew.run_keeps (fun i => dealing p (ds i))
    (fun i => Part.Ends (ds i))
    (fun c' log part => Accord p (c.project p).id ds c' part ∧ Minutes p ds log part)
    (fun _ _ _ hinv i => hinv.1.nodes.works i)
    (fun _ _ _ hinv _ _ _ _ hadvances =>
      ⟨hinv.1.advances hadvances, hinv.2.advances hinv.1 hadvances⟩)
    hstart (fun i => (ds i).task_follows p) hpatient
  exact ha.deletedOnce hm hfollows

/-- Two calls look up one node and delete it, a third one adds a node under its identifier as soon
as it is forgotten, and a fourth one wants to start the node that was there. The first one succeeds,
and so does the third one; the others get the lock of the node too late, and the new node stays. -/
theorem deleted_twice_and_added_again :
    let spec : NodeSpec := { id := default, nodeType := .vpcs, name := "pc1" }
    let node : Node := { Node.draft default "captures" "local" spec with status := .created }
    let project : Project :=
      { id := default, name := "lab", path := "lab", nodes := Dict.empty.insert default 0 }
    let c : Controller := { ((initial default).setRegistry Registry.lab).setCell 0 { node } with
      projects := Dict.empty.insert 0 project, allocated := 1 }
    let ds : Fin 4 → Dealing := fun i =>
      if i = 2 then .add "local" spec
      else if i = 3 then .use 0 (.act .start) rfl
      else .delete default
    let turns : List (Fin 4) := [0, 1] ++ List.replicate 12 0 ++ List.replicate 15 2
      ++ List.replicate 6 1 ++ List.replicate 6 3
    let schedule : List (Fin 4 × (Call → Answer)) := turns.map fun i => (i, fun _ => .ok .null)
    let crew := (dealingCrew 0 ds c).run (schedule.map fun t => (t.1, .go t.2))
    AtRest 0 c ∧ (∀ i h step hstep, ds i = .use h step hstep → Created c h) ∧ DeletedOnce 0 crew
      ∧ (crew.stand 0).result?.any (·.toBool) = true ∧ (crew.stand 1).result?.any (!·.toBool) = true
      ∧ (crew.stand 2).result?.any (·.toBool) = true ∧ (crew.stand 3).result?.any (!·.toBool) = true
      ∧ (crew.state.project 0).nodes.get? default = some 1 := by
  intro spec node project c ds turns schedule crew
  have hcreated : Created c 0 := ⟨Nat.zero_lt_one, by decide +kernel⟩
  have hrest : AtRest 0 c := by
    refine ⟨rfl, fun h => ?_, fun id h hid => ?_⟩
    · by_cases hh : h = 0
      · subst hh
        exact congrArg NodeCell.held (cell_setCell _ _)
      · exact congrArg NodeCell.held (cell_setCell_of_ne _ _ hh)
    · have hget : (Dict.empty.insert default 0 : Dict Uuid NodeHandle).get? id = some h := hid
      rw [Dict.get_insert] at hget
      split at hget
      · cases hget
        exact hcreated
      · cases hget
  have huses : ∀ i h step hstep, ds i = .use h step hstep → Created c h := by
    intro i h step hstep hi
    match i, hi with
    | 3, hi =>
      cases hi
      exact hcreated
  refine ⟨hrest, huses, deletions_once 0 ds c hrest huses schedule, ?_⟩
  decide +kernel

end Once

end Testbed.Controller

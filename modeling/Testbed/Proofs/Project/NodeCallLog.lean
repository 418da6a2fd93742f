import Testbed.Proofs.Process.Log
import Testbed.Proofs.Project.NodeCallInvariant

/-!
# What the log says of dealings with nodes

Which node a dealing worked on, what the engines confirmed to it and which entry of the project it
removed can be read off the log, and nothing else has to be known: the log has the state before and
after every step. `Finds`, `Confirms` and `Forgets` are these readings, and `Minutes` says that they
agree with the parts that the dealings play (`Minutes.advances`).

The part of a dealing grows with what is in the log about it. Only one of the facts is about several
dealings (`Minutes.silent`): once the deletion of a node is confirmed to one of them, nobody who
worked on the node, then or later, asks anything any more.
-/

namespace Testbed.Controller

variable {ι : Type}

/-- **A dealing takes the lock of the node under a handle**, and finds the node as it is. The lock
is free before the step and held after it, and the node is the one at that moment. -/
def Finds (log : List (ι × Happening)) (i : ι) (h : NodeHandle) (n : Node) : Prop :=
  ∃ c c', (i, .moved c c') ∈ log ∧ takes h (.moved c c') = true ∧ c.node h = n

/-- **An engine confirms that the node under a handle is deleted**, to who has its lock. The request
is the deletion of the node by its path, and the answer is no refusal. -/
def Confirms (log : List (ι × Happening)) (h : NodeHandle) (x : ι × Happening) : Prop :=
  ∃ n call report, Finds log x.1 h n ∧ x.2 = .answered call (.ok report)
    ∧ call.request = .delete n.path

/-- **A step at which a project forgets the node under a handle**, and it alone. The other entries
of the project, and its claims, are the same before and after. -/
def Forgets (p : ProjectHandle) (id : Uuid) (h : NodeHandle) (c c' : Controller) : Prop :=
  (c.project p).nodes.get? id = some h ∧ c'.project p = (c.project p).drop id

/-- Whether a request or its answer is on the way. Steps inside the program are not seen from
outside. -/
def talks : Happening → Bool
  | .put _ | .answered _ _ => true
  | .moved _ _ | .quit _ _ => false

/-! ## What happens to one dealing

A dealing is followed through one entry of the log. What it found, what was confirmed to it and what
it removed can only change at entries of its own. -/

section Advances

variable {p : ProjectHandle} {d : Dealing} {c c' : Controller} {g g' : Part}
  {told : (call : Call) → Answer → Prop} {happening : Happening}

/-- Locks are taken by those who waited for them. -/
theorem Part.Moves.takes (hm : Part.Moves p d g c c' g') (hc : (dealing p d).knows g c) :
    (∃ h, g = .waiting h ∧ g' = .inside h (.start (c.node h)) ∧ c' = c.setHeld h true
        ∧ (c.cell h).held = false)
      ∨ g'.found? = g.found? ∧ ∀ h, takes h (.moved c c') = false := by
  have hsame (hheld : ∀ h, (c'.cell h).held = (c.cell h).held) (h : NodeHandle) :
      Controller.takes h (.moved c c') = false := takes_of_held (hheld h)
  cases hm with
  | locks hfree => exact .inl ⟨_, rfl, rfl, rfl, hfree⟩
  | draws hspec =>
    refine .inr ⟨rfl, fun h => ?_⟩
    by_cases hh : h = c.allocated
    · subst hh
      show (!(c.cell c.allocated).held && ((c.setCell c.allocated _).cell c.allocated).held) = false
      rw [cell_setCell, Bool.and_false]
    · exact takes_of_held (congrArg NodeCell.held (cell_setCell_of_ne _ c hh))
  | creates hw => exact .inr ⟨rfl, hsame (hw.held hc)⟩
  | @works _ _ h w w' hw =>
    refine .inr ⟨?_, hsame (hw.held hc)⟩
    show some (h, w'.first) = some (h, w.first)
    rw [hw.remembers.1]
  | unlocks =>
    refine .inr ⟨rfl, fun h' => ?_⟩
    rename_i h w ok hw hfate
    by_cases hh : h' = h
    · rw [hh]
      exact takes_setHeld_false c
    · exact takes_of_held (congrArg NodeCell.held (cell_setHeld_of_ne false c hh))
  | releases hg =>
    refine .inr ⟨?_, hsame fun _ => rfl⟩
    cases g with
    | creating | entered => rfl
    | _ => cases hg
  | loses | claims | enters | finds | misses | drops => exact .inr ⟨rfl, hsame fun _ => rfl⟩

/-- **A dealing has found what it had found before, and what it takes the lock of.** So a part has
what the log says it has found, no more and no less. -/
theorem Part.found_of_advances (hadvances : Crew.Advances told (dealing p d) g c happening c' g')
    (hc : (dealing p d).knows g c) (h : NodeHandle) (n : Node) :
    g'.found? = some (h, n) ↔ g.found? = some (h, n)
      ∨ ∃ a b, happening = .moved a b ∧ takes h (.moved a b) = true ∧ a.node h = n := by
  cases hadvances with
  | moved hm =>
    obtain ⟨h₀, rfl, rfl, rfl, hfree⟩ | ⟨hfound, htakes⟩ := Part.Moves.takes hm hc
    · constructor
      · intro hfound
        cases hfound
        exact .inr ⟨_, _, rfl, takes_setHeld_true hfree, rfl⟩
      · rintro (hnone | ⟨_, _, ⟨⟩, htakes, rfl⟩)
        · cases hnone
        · by_cases hh : h = h₀
          · rw [hh]
            rfl
          · rw [takes_of_held (congrArg NodeCell.held (cell_setHeld_of_ne true c hh))] at htakes
            cases htakes
    · rw [hfound]
      refine (or_iff_left ?_).symm
      rintro ⟨_, _, ⟨⟩, htakes', -⟩
      rw [htakes h] at htakes'
      cases htakes'
  | put hasks =>
    have hsame : g'.found? = g.found? := by cases hasks <;> rfl
    rw [hsame]
    exact (or_iff_left (by rintro ⟨_, _, ⟨⟩, -⟩)).symm
  | answered ht hhears =>
    have hsame : g'.found? = g.found? := by cases hhears <;> rfl
    rw [hsame]
    exact (or_iff_left (by rintro ⟨_, _, ⟨⟩, -⟩)).symm

/-- A dealing adds a node, or does not, from the beginning. -/
theorem Part.role_of_advances (hadvances : Crew.Advances told (dealing p d) g c happening c' g') :
    g'.role = .deleting ↔ g.role = .deleting := by
  cases hadvances with
  | moved hm =>
    cases hm with
    | draws | loses | claims | enters => exact iff_of_false nofun nofun
    | creates | finds | misses | locks | works | unlocks | drops => exact Iff.rfl
    | releases hg =>
      refine iff_of_false nofun fun hrole => ?_
      rw [hrole] at hg
      cases hg
  | put hasks => cases hasks <;> exact Iff.rfl
  | answered ht hhears => cases hhears <;> exact Iff.rfl

/-- **A dealing that works on a node with its lock has heard all answers.** The answers of an
operation are therefore those in the log since its lock was taken. -/
theorem Part.answered_of_advances (hadvances : Crew.Advances told (dealing p d) g c happening c' g')
    (hrole : g.role = .deleting) (call : Call) (answer : Answer) :
    Node.Replied g'.log call answer
      ↔ Node.Replied g.log call answer ∨ happening = .answered call answer := by
  cases hadvances with
  | moved hm =>
    refine Iff.trans ?_ (or_iff_left nofun).symm
    cases hm with
    | draws | loses | claims | creates | enters => cases hrole
    | releases hg =>
      rw [hrole] at hg
      cases hg
    | works hw => exact hw.remembers.2.1 call answer
    | finds | misses | locks | unlocks | drops => exact Iff.rfl
  | put hasks =>
    refine Iff.trans ?_ (or_iff_left nofun).symm
    cases hasks <;> exact Iff.rfl
  | answered ht hhears =>
    cases hhears with
    | creating => cases hrole
    | inside hw =>
      refine Node.replied_append.trans (or_congr Iff.rfl (Node.replied_single.trans ⟨?_, ?_⟩))
      · rintro ⟨m, ⟨⟩⟩
        rfl
      · rintro ⟨⟩
        exact ⟨_, rfl⟩

/-- **A dealing that does not add a node leaves the project alone**, or forgets a node that was
deleted. That is the only way in which a project loses a node here. -/
theorem Part.project_of_moves (hm : Part.Moves p d g c c' g') (hrole : g.role = .deleting) :
    c'.project p = c.project p ∨ ∃ h w, g = .left h w true ∧ d.deletes = true ∧ g' = .dropped h w
      ∧ c'.project p = (c.project p).drop d.id := by
  cases hm with
  | draws | loses | claims | creates | enters => cases hrole
  | releases hg =>
    rw [hrole] at hg
    cases hg
  | works hw => exact .inl (hw.project p).1
  | finds | misses | locks | unlocks => exact .inl rfl
  | drops hd =>
    refine .inr ⟨_, _, rfl, hd, rfl, ?_⟩
    rw [project_editProject]

/-- A dealing that does not add a node asks, and is answered, with the lock of a node held. With the
lock it has the node to itself. -/
theorem Part.inside_of_talks (hadvances : Crew.Advances told (dealing p d) g c happening c' g')
    (htalks : talks happening = true) (hrole : g.role = .deleting) : ∃ h w, g = .inside h w := by
  cases hadvances with
  | moved hm => cases htalks
  | put hasks =>
    cases hasks with
    | creating => cases hrole
    | inside => exact ⟨_, _, rfl⟩
  | answered ht hhears =>
    cases hhears with
    | creating => cases hrole
    | inside => exact ⟨_, _, rfl⟩

/-- What a dealing asks that adds a node creates something. -/
theorem Part.post_of_put {call : Call}
    (hadvances : Crew.Advances told (dealing p d) g c (.put call) c' g')
    (hrole : g.role ≠ .deleting) : call.request.method = .post := by
  cases hadvances with
  | put hasks =>
    cases hasks with
    | creating hw hpost => exact hpost
    | inside => exact absurd rfl hrole

/-- A node is dropped after its deletion has succeeded. -/
theorem Part.left_of_dropped {h : NodeHandle} {w : Work}
    (hadvances : Crew.Advances told (dealing p d) g c happening c' (.dropped h w)) :
    happening = .moved c c' ∧ g = .left h w true ∧ d.deletes = true
      ∧ c'.project p = (c.project p).drop d.id := by
  cases hadvances with
  | moved hm =>
    cases hm with
    | drops hd =>
      refine ⟨rfl, rfl, hd, ?_⟩
      rw [project_editProject]
  | put hasks => cases hasks
  | answered ht hhears => cases hhears

/-- Nothing happens after that. -/
theorem Part.not_dropped_of_advances
    (hadvances : Crew.Advances told (dealing p d) g c happening c' g') (h : NodeHandle) (w : Work) :
    g ≠ .dropped h w := by
  rintro rfl
  cases hadvances with
  | moved hm =>
    cases hm with
    | releases hg => cases hg
  | put hasks => cases hasks
  | answered ht hhears => cases hhears

theorem Part.found_of_answered {call : Call} {answer : Answer}
    (hanswered : Node.Replied g.log call answer) : g.found?.isSome = true := by
  cases g with
  | inside | left | dropped => rfl
  | _ => exact absurd hanswered Node.not_replied_nil

theorem Part.role_of_found {h : NodeHandle} {n : Node} (hfound : g.found? = some (h, n)) :
    g.role = .deleting := by
  cases g with
  | inside | left | dropped => rfl
  | _ => cases hfound

end Advances

/-- **While somebody asks about a node or is answered, the node is there.** A node whose deletion
was confirmed has nobody who works on it: whoever gets its lock afterwards finds it deleted and asks
nothing. -/
theorem Existence.not_gone_of_talks {p : ProjectHandle} {ds : ι → Dealing} {c c' : Controller}
    {part : ι → Part} {i : ι} {g' : Part} {told : (call : Call) → Answer → Prop}
    {happening : Happening} (hx : Existence p ds c part)
    (hadvances : Crew.Advances told (dealing p (ds i)) (part i) c happening c' g')
    (htalks : talks happening = true) {h : NodeHandle} {w : Work} (hpart : part i = .inside h w) :
    ¬ Gone part h := by
  intro hgone
  have htold := hx.told i
  rw [hpart] at hadvances htold
  have hlate : Node.Buries w.first w.log ∨ w.first.status = .deleted := htold.late hgone
  cases hadvances with
  | moved hm => cases htalks
  | put hasks =>
    cases hasks with
    | inside hw hfate =>
      obtain hburies | hdead := hlate
      · obtain ⟨-, hending, -⟩ := hfate.buried (Node.buries_append.mpr (.inl hburies))
        cases hending
      · exact hfate.silent hdead _ (List.mem_append_right _ List.mem_cons_self) _ rfl
  | answered ht hhears =>
    cases hhears with
    | inside hw =>
      obtain ⟨hnot, halive, -⟩ := htold.asked _ hw
      exact hlate.elim hnot halive

/-! ## What is kept of the log

All dealings are followed together. The last of the facts is the one about several of them, and it
rests on what is known of the existence of nodes. -/

section Readings

variable {log : List (ι × Happening)} {x : ι × Happening} {j : ι} {h : NodeHandle} {n : Node}

theorem finds_append : Finds (log ++ [x]) j h n ↔ Finds log j h n
    ∨ x.1 = j ∧ ∃ c c', x.2 = .moved c c' ∧ takes h (.moved c c') = true ∧ c.node h = n := by
  constructor
  · rintro ⟨c, c', hmem, htakes⟩
    obtain hmem | hmem := List.mem_append.mp hmem
    · exact .inl ⟨c, c', hmem, htakes⟩
    · cases List.mem_singleton.mp hmem
      exact .inr ⟨rfl, c, c', rfl, htakes⟩
  · rintro (⟨c, c', hmem, htakes⟩ | ⟨rfl, c, c', hx, htakes⟩)
    · exact ⟨c, c', List.mem_append_left _ hmem, htakes⟩
    · exact ⟨c, c', List.mem_append_right _ (List.mem_singleton.mpr (Prod.ext rfl hx.symm)), htakes⟩

/-- The log after one more entry. -/
theorem mem_log_append {i : ι} {y happening : Happening} :
    (j, y) ∈ log ++ [(i, happening)] ↔ (j, y) ∈ log ∨ j = i ∧ y = happening := by
  rw [List.mem_append, List.mem_singleton, Prod.mk.injEq]

end Readings

/-- **The minutes of dealings**: the log agrees with the parts that they play. Each field takes one
kind of fact from the parts to the log. -/
structure Minutes (p : ProjectHandle) (ds : ι → Dealing) (log : List (ι × Happening))
    (part : ι → Part) : Prop where
  /-- Who adds nodes does nothing else. -/
  roles : ∀ i, (part i).role = .deleting ↔ (ds i).adds = false
  /-- A dealing has found what it took the lock of. -/
  finds : ∀ i h n, Finds log i h n ↔ (part i).found? = some (h, n)
  /-- It has heard what it was answered. -/
  answers : ∀ i, (ds i).adds = false → ∀ call answer,
    (i, .answered call answer) ∈ log ↔ Node.Replied (part i).log call answer
  /-- Who adds a node deletes nothing. -/
  posts : ∀ i, (ds i).adds = true → ∀ call, (i, .put call) ∈ log → call.request.method = .post
  /-- Who does not has asked nothing before it took a lock. -/
  asks : ∀ i, (ds i).adds = false → ∀ call, (i, .put call) ∈ log → (part i).found?.isSome = true
  /-- It has left the project alone, or made it forget the node that it found. -/
  steps : ∀ i, (ds i).adds = false → ∀ c c', (i, .moved c c') ∈ log → c'.project p = c.project p
    ∨ ∃ h w, part i = .dropped h w ∧ Forgets p (ds i).id h c c'
  /-- Who has dropped a node has made the project forget it. -/
  forgets : ∀ i h w, part i = .dropped h w →
    ∃ c c', (i, .moved c c') ∈ log ∧ Forgets p (ds i).id h c c'
  /-- After a deletion was confirmed nobody asks for the node or is answered. -/
  silent : ∀ before x after h, log = before ++ x :: after → Confirms log h x →
    ∀ y ∈ after, talks y.2 = true → ∀ n, ¬ Finds log y.1 h n

namespace Minutes

variable {p : ProjectHandle} {pid : Uuid} {ds : ι → Dealing} {log : List (ι × Happening)}
  {part : ι → Part} {c c' : Controller} {i : ι} {g' : Part}
  {told : (call : Call) → Answer → Prop} {happening : Happening}

/-- Who has found a node does not add one. -/
theorem adds_of_found (hm : Minutes p ds log part) {h : NodeHandle} {n : Node}
    (hfound : (part i).found? = some (h, n)) : (ds i).adds = false :=
  (hm.roles i).mp (Part.role_of_found hfound)

/-- **A deletion was confirmed in the log exactly if somebody has buried the node.** Deletions that
were asked for and refused do not count. -/
theorem buries_iff (hm : Minutes p ds log part) {h : NodeHandle} :
    (part i).Buries h ↔ ∃ x ∈ log, x.1 = i ∧ Confirms log h x := by
  constructor
  · rintro ⟨n, hfound, hburies⟩
    obtain ⟨call, report, hanswered, hrequest⟩ := Node.buries_iff.mp hburies
    refine ⟨(i, .answered call (.ok report)), ?_, rfl, n, call, report, (hm.finds i h n).mpr hfound,
      rfl, hrequest⟩
    exact (hm.answers i (hm.adds_of_found hfound) call _).mpr hanswered
  · rintro ⟨⟨j, y⟩, hmem, rfl, n, call, report, hfinds, rfl, hrequest⟩
    have hfound := (hm.finds j h n).mp hfinds
    refine ⟨n, hfound, Node.buries_iff.mpr ⟨call, report, ?_, hrequest⟩⟩
    exact (hm.answers j (hm.adds_of_found hfound) call _).mp hmem

/-- Who has asked or was answered has found its node. -/
theorem found_of_talks (hm : Minutes p ds log part) (hadds : (ds i).adds = false)
    (hmem : (i, happening) ∈ log) (htalks : talks happening = true) :
    (part i).found?.isSome = true := by
  cases happening with
  | moved | quit => cases htalks
  | put call => exact hm.asks i hadds call hmem
  | answered call answer => exact Part.found_of_answered ((hm.answers i hadds call answer).mp hmem)

variable [DecidableEq ι] (hm : Minutes p ds log part) (ha : Accord p pid ds c part)
  (hadvances : Crew.Advances told (dealing p (ds i)) (part i) c happening c' g')

include hm hadvances

theorem roles_advances (j : ι) :
    (Function.update part i g' j).role = .deleting ↔ (ds j).adds = false :=
  (Function.forall_update_iff part fun j g => g.role = .deleting ↔ (ds j).adds = false).mpr
    ⟨(Part.role_of_advances hadvances).trans (hm.roles i), fun j _ => hm.roles j⟩ j

include ha

theorem finds_advances (j : ι) (h : NodeHandle) (n : Node) :
    Finds (log ++ [(i, happening)]) j h n
      ↔ (Function.update part i g' j).found? = some (h, n) := by
  rw [finds_append, hm.finds j h n]
  by_cases hji : j = i
  · subst hji
    rw [Function.update_self, Part.found_of_advances hadvances (ha.nodes.works j)]
    exact or_congr Iff.rfl (and_iff_right rfl)
  · rw [Function.update_of_ne hji]
    exact or_iff_left fun hij => hji hij.1.symm

/-- Whoever had found a node finds no other one. -/
theorem found_advances {j : ι} (hj : (part j).found?.isSome = true) :
    (Function.update part i g' j).found? = (part j).found? := by
  obtain ⟨⟨h, n⟩, hhn⟩ := Option.isSome_iff_exists.mp hj
  rw [hhn, ← hm.finds_advances ha hadvances, finds_append]
  exact .inl ((hm.finds j h n).mpr hhn)

/-- After a deletion was confirmed nobody who worked on the node asks or is answered. -/
theorem silent_advances {before after : List (ι × Happening)} {x : ι × Happening} {h : NodeHandle}
    (hcut : log ++ [(i, happening)] = before ++ x :: after)
    (hconfirms : Confirms (log ++ [(i, happening)]) h x) :
    ∀ y ∈ after, talks y.2 = true → ∀ n, ¬ Finds (log ++ [(i, happening)]) y.1 h n := by
  obtain ⟨-, -, rfl⟩ | ⟨rest, rfl, hlog⟩ := Crew.cut_append hcut
  · exact fun y hy => absurd hy List.not_mem_nil
  have hadds {j : ι} {n : Node} (hj : Finds (log ++ [(i, happening)]) j h n) :
      (ds j).adds = false :=
    (hm.roles_advances hadvances j).mp
      (Part.role_of_found ((hm.finds_advances ha hadvances j h n).mp hj))
  have hearlier {j : ι} {n : Node} (hj : Finds (log ++ [(i, happening)]) j h n)
      (hsome : (part j).found?.isSome = true) : (part j).found? = some (h, n) :=
    (hm.found_advances ha hadvances hsome).symm.trans ((hm.finds_advances ha hadvances j h n).mp hj)
  -- who has asked or was answered by now has not found the node only just now
  have hbefore {y : ι × Happening} {n : Node} (hy : y ∈ log) (htalks : talks y.2 = true)
      (hfinds : Finds (log ++ [(i, happening)]) y.1 h n) : Finds log y.1 h n :=
    (hm.finds y.1 h n).mpr (hearlier hfinds (hm.found_of_talks (hadds hfinds) hy htalks))
  have hx : x ∈ log := by
    rw [hlog]
    exact List.mem_append_right _ List.mem_cons_self
  obtain ⟨n, call, report, hfinds, hanswered, hrequest⟩ := hconfirms
  have hconfirms : Confirms log h x :=
    ⟨n, call, report, hbefore hx (by rw [hanswered]; rfl) hfinds, hanswered, hrequest⟩
  rintro y hy htalks m hfinds
  obtain hy | hy := List.mem_append.mp hy
  · refine hm.silent before x rest h hlog hconfirms y hy htalks m (hbefore ?_ htalks hfinds)
    rw [hlog]
    exact List.mem_append_right _ (List.mem_cons_of_mem _ hy)
  · obtain rfl := List.mem_singleton.mp hy
    obtain ⟨h', w, hpart⟩ := Part.inside_of_talks hadvances htalks ((hm.roles i).mpr (hadds hfinds))
    have hsame := hearlier hfinds (by rw [hpart]; rfl)
    rw [hpart] at hsame
    cases hsame
    exact ha.nodes.not_gone_of_talks hadvances htalks hpart
      ⟨x.1, hm.buries_iff.mpr ⟨x, hx, rfl, hconfirms⟩⟩

/-- **Whatever happens to a dealing is put in the minutes.** A happening adds one entry to the log
and changes one part, and the two say the same. -/
theorem advances : Minutes p ds (log ++ [(i, happening)]) (Function.update part i g') where
  roles := hm.roles_advances hadvances
  finds := hm.finds_advances ha hadvances
  answers j hadds call answer := by
    rw [List.mem_append, List.mem_singleton, hm.answers j hadds]
    by_cases hji : j = i
    · subst hji
      rw [Function.update_self, Part.answered_of_advances hadvances ((hm.roles j).mpr hadds)]
      refine or_congr Iff.rfl ⟨fun heq => ?_, fun heq => ?_⟩
      · cases heq
        rfl
      · rw [heq]
    · rw [Function.update_of_ne hji]
      exact or_iff_left fun heq => hji (congrArg Prod.fst heq)
  posts j hadds call hmem := by
    obtain hmem | ⟨rfl, rfl⟩ := mem_log_append.mp hmem
    · exact hm.posts j hadds call hmem
    · have hrole : (part j).role ≠ .deleting := fun hrole => by
        rw [(hm.roles j).mp hrole] at hadds
        cases hadds
      exact Part.post_of_put hadvances hrole
  asks j hadds call hmem := by
    suffices hj : (part j).found?.isSome = true by
      rw [hm.found_advances ha hadvances hj]
      exact hj
    obtain hmem | ⟨rfl, rfl⟩ := mem_log_append.mp hmem
    · exact hm.asks j hadds call hmem
    · obtain ⟨h, w, hpart⟩ := Part.inside_of_talks hadvances rfl ((hm.roles j).mpr hadds)
      rw [hpart]
      rfl
  steps j hadds a b hmem := by
    obtain hmem | ⟨rfl, rfl⟩ := mem_log_append.mp hmem
    · refine (hm.steps j hadds a b hmem).imp_right fun ⟨h, w, hpart, hforgets⟩ =>
        ⟨h, w, ?_, hforgets⟩
      rw [Function.update_of_ne, hpart]
      rintro rfl
      exact Part.not_dropped_of_advances hadvances h w hpart
    · cases hadvances with
      | moved hmoves =>
        refine (Part.project_of_moves hmoves ((hm.roles j).mpr hadds)).imp_right ?_
        rintro ⟨h, w, hpart, hd, rfl, hproject⟩
        rw [Function.update_self]
        exact ⟨h, w, rfl, (ha.nodes.drops hpart hd).1, hproject⟩
  forgets j h w hj := by
    by_cases hji : j = i
    · subst hji
      rw [Function.update_self] at hj
      subst hj
      obtain ⟨rfl, hpart, hd, hproject⟩ := Part.left_of_dropped hadvances
      exact ⟨c, c', List.mem_append_right _ List.mem_cons_self, (ha.nodes.drops hpart hd).1,
        hproject⟩
    · rw [Function.update_of_ne hji] at hj
      obtain ⟨a, b, hmem, hforgets⟩ := hm.forgets j h w hj
      exact ⟨a, b, List.mem_append_left _ hmem, hforgets⟩
  silent _ _ _ _ := hm.silent_advances ha hadvances

end Minutes

end Testbed.Controller

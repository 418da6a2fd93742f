import Testbed.Proofs.Project.Existence

/-!
# The invariant of dealings with nodes

`Accord` puts together what holds while dealings with the nodes of a project take turns: the locks
are held by those who are at work, the claims are those of the calls that add nodes, and the nodes
exist or are gone as the dealings know. Each step needs all three. That a lock is free says that
nobody else is at work, and that an identifier is claimed says that the node that is entered under
it takes no other's place.

Most steps bury nobody and leave the project's nodes alone (`Existence.rests`); there is one lemma
for each of the others.
-/

namespace Testbed.Controller

variable {ι : Type}

/-- **Dealings in accord** with the nodes, the locks and the claims of a project. None of the three
is kept by every step without the other two. -/
structure Accord (p : ProjectHandle) (pid : Uuid) (ds : ι → Dealing) (c : Controller)
    (part : ι → Part) : Prop where
  /-- The nodes exist or are gone as the dealings know. -/
  nodes : Existence p ds c part
  /-- The locks are held by the dealings that are at work. -/
  locks : Locks c fun i => (part i).inside?
  /-- The claims are those of the dealings that add nodes. -/
  claims : Ledger p pid (fun i => (ds i).id) c fun i => (part i).role

section Work

variable {h : NodeHandle} {c c' : Controller} {w w' : Work}

/-- **What a step of an operation does not change**: on what it began, which requests were answered,
and, while an answer is waited for, anything at all. What a dealing has learned so far is thus not
affected by its own next step. -/
theorem Work.Moves.remembers (hm : Work.Moves h w c c' w') :
    w'.first = w.first
      ∧ (∀ call answer, Node.Replied w'.log call answer ↔ Node.Replied w.log call answer)
      ∧ ∀ call, w'.wait = .answer call → w' = w := by
  have hengine (id : String) (found : Except RegistryError Client) (call : Call) (answer : Answer) :
      Node.Replied (w.learn (.engine id) found).log call answer
        ↔ Node.Replied w.log call answer := by
    refine Node.replied_append.trans (or_iff_left ?_)
    rw [Node.replied_single]
    rintro ⟨m, ⟨⟩⟩
  cases hm with
  | edits hw hn =>
    refine ⟨rfl, fun _ _ => Iff.rfl, fun call hcall => ?_⟩
    rw [show w.wait = .answer call from hcall] at hw
    cases hw
  | finds | connects => exact ⟨rfl, hengine _ _, nofun⟩
  | misses => exact ⟨rfl, fun _ _ => Iff.rfl, nofun⟩
  | marks => exact ⟨rfl, fun _ _ => Iff.rfl, fun _ _ => rfl⟩

/-- A step of an operation leaves the locks alone. -/
theorem Work.Moves.held (hm : Work.Moves h w c c' w') (hc : c.node h = w.node) (h' : NodeHandle) :
    (c'.cell h').held = (c.cell h').held := by
  obtain ⟨-, hheld, hothers⟩ := hm.cell hc
  by_cases hh : h' = h
  · rw [hh]
    exact hheld
  · rw [hothers h' hh]

/-- A step of an operation leaves the projects alone. -/
theorem Work.Moves.project (hm : Work.Moves h w c c' w') (p : ProjectHandle) :
    c'.project p = c.project p ∧ c'.allocated = c.allocated := by
  cases hm with
  | edits | finds | misses | marks | connects => exact ⟨rfl, rfl⟩

end Work

section Steps

variable {p : ProjectHandle} {pid : Uuid} {ds : ι → Dealing} {c c' : Controller} {part : ι → Part}
  {i : ι} {g' : Part}

/-- A node that is being added is at hand to nobody else. It is in no project and its handle was
given to nobody. -/
theorem Existence.alone_of_own (hx : Existence p ds c part) {h : NodeHandle}
    (hi : (part i).own? = some h) {j : ι} (hji : j ≠ i) : (part j).at? ≠ some h := by
  obtain ⟨-, hnot, hsingle⟩ := hx.own i h hi
  intro hj
  cases hpart : part j with
  | creating h' w =>
    rw [hpart] at hj
    exact hji (hsingle j (by rw [hpart]; exact hj))
  | inside h' w =>
    rw [hpart] at hj
    exact hnot (.inr ⟨j, by rw [hpart]; exact hj⟩)
  | _ =>
    rw [hpart] at hj
    cases hj

/-- A node that is known is at hand only to who is inside. -/
theorem Existence.inside_of_known (hx : Existence p ds c part) {h : NodeHandle}
    (hh : Known p c part h) {j : ι} (hj : (part j).at? = some h) : (part j).inside? = some h := by
  cases hpart : part j with
  | creating h' w =>
    rw [hpart] at hj
    exact absurd hh (hx.own j h (by rw [hpart]; exact hj)).2.1
  | inside h' w =>
    rw [hpart] at hj
    exact hj
  | _ =>
    rw [hpart] at hj
    cases hj

/-- Whoever works on a node that is being added touches nobody else's. -/
theorem Existence.touches_own (hx : Existence p ds c part) {h : NodeHandle}
    (hi : (part i).own? = some h) : Touches p c part i c' h where
  awake hh := absurd hh (hx.own i h hi).2.1
  gone hh := absurd hh.known (hx.own i h hi).2.1
  alone _ hji := hx.alone_of_own hi hji

/-- Whoever holds the lock touches nobody else's node. -/
theorem Existence.touches_inside (hx : Existence p ds c part)
    (hl : Locks c fun i => (part i).inside?) {h : NodeHandle} (hi : (part i).inside? = some h)
    (hawake : (c'.cell h).held = false → (c'.node h).status ≠ .pending)
    (hgone : Gone part h → (c'.cell h).held = false → (c'.node h).status = .deleted) :
    Touches p c part i c' h where
  awake _ := hawake
  gone := hgone
  alone j hji hj := by
    have hknown : Known p c part h := .inr ⟨i, Part.known_of_inside hi⟩
    exact hji (hl.exclusive j i h (hx.inside_of_known hknown hj) hi)

/-- An operation that has not heard of the deletion has not buried its node. -/
theorem Part.buries_inside {h h' : NodeHandle} {w w' : Work} (hfirst : w'.first = w.first)
    (hburies : Node.Buries w.first w'.log ↔ Node.Buries w.first w.log) :
    (Part.inside h w').Buries h' ↔ (Part.inside h w).Buries h' := by
  refine Part.buries_congr ?_ fun n hn => ?_
  · show some (h, w'.first) = some (h, w.first)
    rw [hfirst]
  · cases hn
    exact hburies

/-- What an operation at work knows is not changed by what does not change whether the node was
buried. -/
theorem Part.AtWork.congr {d : Dealing} {gone : Prop} {w w' : Work} (hw : Part.AtWork d gone w)
    (hfirst : w'.first = w.first) (hburies : Node.Buries w.first w'.log ↔ Node.Buries w.first w.log)
    (hasked : ∀ call, w'.wait = .answer call → w.wait = .answer call ∨ ¬ Node.Buries w.first w.log
      ∧ w.first.status ≠ .deleted ∧ (d.deletes = true ∨ call.request ≠ .delete w.first.path)) :
    Part.AtWork d gone w' where
  awake := by
    rw [hfirst]
    exact hw.awake
  late hgone := by
    rw [hfirst, hburies]
    exact hw.late hgone
  asked call hcall := by
    rw [hfirst, hburies]
    exact (hasked call hcall).elim (hw.asked call) id
  deletes hb := by
    rw [hfirst, hburies] at hb
    exact hw.deletes hb

variable [DecidableEq ι]

/-! ## One lemma for each step

Each lemma is about one step of one dealing, and what is to be shown is about all of them. For the
others it is enough that the step does not touch the nodes they are at. -/

/-- A node is drawn up. -/
theorem Existence.draws (hx : Existence p ds c part) (hpart : part i = .fresh) (engine : String)
    (spec : NodeSpec) :
    Existence p ds (c.draftNode p engine spec).2
      (Function.update part i (.drafted c.allocated)) := by
  refine hx.rests hpart (Nat.le_succ _) rfl (fun h hlt => .inl ?_) nofun (fun h hh => .inr ?_)
    (fun _ => Part.buries_congr rfl fun _ _ => Iff.rfl) (fun _ _ => nofun) trivial trivial
  · exact cell_setCell_of_ne _ c (Nat.ne_of_lt hlt)
  · cases hh
    exact ⟨Nat.le_refl _, Nat.lt_succ_self _⟩

/-- An identifier is claimed or turns out to be taken, or a node is looked for. -/
theorem Existence.decides (hx : Existence p ds c part)
    (hnodes : (c'.project p).nodes = (c.project p).nodes) (hallocated : c'.allocated = c.allocated)
    (hcell : ∀ h, c'.cell h = c.cell h)
    (hfound : (part i).found? = none) (hfound' : g'.found? = none)
    (hknown : ∀ h, g'.known? = some h → (c.project p).nodes.get? (ds i).id = some h)
    (hown : ∀ h, g'.own? = some h → (part i).own? = some h)
    (hworks : (dealing p (ds i)).knows g' c') : Existence p ds c' (Function.update part i g') := by
  refine hx.rests rfl (Nat.le_of_eq hallocated.symm) hnodes (fun h _ => .inl (hcell h))
    (fun h hh => .inr (hknown h hh)) (fun h hh => .inl (hown h hh)) (fun h => ?_)
    (fun h w hpart => ?_) hworks ?_
  · refine Part.buries_congr (hfound'.trans hfound.symm) fun n hn => ?_
    rw [hfound] at hn
    cases hn
  · rw [hpart] at hfound
    cases hfound
  · cases g' with
    | inside | left | dropped => cases hfound'
    | _ => trivial

/-- The node that is being added is worked on. -/
theorem Existence.creates (hx : Existence p ds c part) {h : NodeHandle} {w w' : Work}
    (hpart : part i = .creating h w) (hw : Work.Moves h w c c' w') :
    Existence p ds c' (Function.update part i (.creating h w')) := by
  have hown : (part i).own? = some h := by rw [hpart]; rfl
  have hworks := hx.works i
  rw [hpart] at hworks
  obtain ⟨hproject, hallocated⟩ := hw.project p
  obtain ⟨hnode, -, hothers⟩ := hw.cell hworks
  refine hx.rests hpart (Nat.le_of_eq hallocated.symm) (congrArg Project.nodes hproject)
    (fun h' _ => ?_) nofun (fun _ => .inl) (fun _ => Part.buries_congr rfl fun _ _ => Iff.rfl)
    (fun _ _ => nofun) hnode trivial
  by_cases hh : h' = h
  · subst hh
    exact .inr (hx.touches_own hown)
  · exact .inl (hothers h' hh)

/-- The node that was added enters the project. -/
theorem Existence.enters (hx : Existence p ds c part) {h : NodeHandle} {w : Work}
    (hpart : part i = .creating h w) (hw : w.node.status = .created)
    (habsent : (c.project p).nodes.contains (ds i).id = false) :
    Existence p ds (c.editProject p (·.put (ds i).id h)) (Function.update part i .entered) := by
  have hnodes : ((c.editProject p (·.put (ds i).id h)).project p).nodes
      = (c.project p).nodes.insert (ds i).id h := nodes_put ..
  have hworks := hx.works i
  rw [hpart] at hworks
  refine hx.moves hpart (Nat.le_refl _) (fun id h' hid => ?_) (fun id h' hid => .inl ?_)
    (fun _ _ => .inl rfl) nofun nofun (fun _ => Part.buries_congr rfl fun _ _ => Iff.rfl)
    (fun _ _ => nofun) trivial trivial
  · rw [hnodes] at hid
    by_cases hh : id = (ds i).id
    · rw [hh, Dict.get_insert_self] at hid
      cases hid
      refine .inr ⟨by rw [hpart]; rfl, rfl, ?_⟩
      show (c.node h).status ≠ .pending
      rw [show c.node h = w.node from hworks, hw]
      rintro ⟨⟩
    · rw [Dict.get_insert_ne _ _ hh] at hid
      exact .inl hid
  · have hne : id ≠ (ds i).id := fun hh => by
      rw [← hh, Dict.contains, hid] at habsent
      cases habsent
    rw [hnodes, Dict.get_insert_ne _ _ hne]
    exact hid

/-- The lock of a node is taken. -/
theorem Existence.takesLock (hx : Existence p ds c part) (hl : Locks c fun i => (part i).inside?)
    {h : NodeHandle} (hpart : part i = .waiting h) (hfree : (c.cell h).held = false) :
    Existence p ds (c.setHeld h true) (Function.update part i (.inside h (.start (c.node h)))) := by
  have hknown : (part i).known? = some h := by rw [hpart]; rfl
  have hheld (hnot : ((c.setHeld h true).cell h).held = false) : False := by
    rw [held_setHeld] at hnot
    cases hnot
  refine hx.rests hpart (Nat.le_refl _) rfl (fun h' _ => ?_) (fun _ => .inl) nofun (fun h' => ?_)
    (fun _ _ => nofun) (node_setHeld true c h)
    ⟨?_, fun hgone => .inr (hx.gone h hgone hfree), nofun, ?_⟩
  · by_cases hh : h' = h
    · subst hh
      refine .inr ⟨fun _ hnot => (hheld hnot).elim, fun _ hnot => (hheld hnot).elim,
        fun j _ hj => ?_⟩
      exact hl.not_inside_of_free hfree j (hx.inside_of_known (.inr ⟨i, hknown⟩) hj)
    · exact .inl (cell_setHeld_of_ne true c hh)
  · constructor
    · rintro ⟨n, -, hburies⟩
      exact absurd hburies Node.not_buries_nil
    · rintro ⟨n, hfound, -⟩
      cases hfound
  · exact (hx.known h (.inr ⟨i, hknown⟩)).2 hfree
  · exact fun hburies => absurd hburies Node.not_buries_nil

/-- A node is worked on with its lock held. -/
theorem Existence.operates (hx : Existence p ds c part) (hl : Locks c fun i => (part i).inside?)
    {h : NodeHandle} {w w' : Work} (hpart : part i = .inside h w) (hw : Work.Moves h w c c' w') :
    Existence p ds c' (Function.update part i (.inside h w')) := by
  have hin : (part i).inside? = some h := by rw [hpart]; rfl
  have hworks := hx.works i
  have htold := hx.told i
  rw [hpart] at hworks htold
  obtain ⟨hproject, hallocated⟩ := hw.project p
  obtain ⟨hnode, hheld, hothers⟩ := hw.cell hworks
  obtain ⟨hfirst, hanswered, hwait⟩ := hw.remembers
  have hburies : Node.Buries w.first w'.log ↔ Node.Buries w.first w.log :=
    Node.buries_congr hanswered
  have hnot (hfree : (c'.cell h).held = false) : False := by
    rw [hheld] at hfree
    exact hl.not_inside_of_free hfree i hin
  refine hx.rests hpart (Nat.le_of_eq hallocated.symm) (congrArg Project.nodes hproject)
    (fun h' _ => ?_) (fun _ => .inl) nofun (fun _ => Part.buries_inside hfirst hburies)
    (fun _ _ => nofun) hnode
    (Part.AtWork.congr htold hfirst hburies fun call hcall => .inl (hwait call hcall ▸ hcall))
  by_cases hh : h' = h
  · subst hh
    exact .inr (hx.touches_inside hl hin (fun hfree => (hnot hfree).elim)
      fun _ hfree => (hnot hfree).elim)
  · exact .inl (hothers h' hh)

/-- The lock of a node is given back. -/
theorem Existence.givesBack (hx : Existence p ds c part) (hl : Locks c fun i => (part i).inside?)
    {h : NodeHandle} {w : Work} {ok : Bool} (hpart : part i = .inside h w)
    (hfate : Node.Fate (ds i).deletes w.first w.log (some ok) w.node) :
    Existence p ds (c.setHeld h false) (Function.update part i (.left h w ok)) := by
  have hin : (part i).inside? = some h := by rw [hpart]; rfl
  have hworks := hx.works i
  have htold := hx.told i
  rw [hpart] at hworks htold
  have hnode : (c.setHeld h false).node h = w.node := (node_setHeld false c h).trans hworks
  refine hx.rests hpart (Nat.le_refl _) rfl (fun h' _ => ?_) (fun _ => .inl) nofun
    (fun _ => Part.buries_congr rfl fun _ _ => Iff.rfl) (fun _ _ => nofun) trivial
    ⟨fun hburies => ?_, fun hok => ?_⟩
  · by_cases hh : h' = h
    · subst hh
      refine .inr (hx.touches_inside hl hin (fun _ => ?_) fun hgone _ => ?_)
      · rw [hnode]
        exact hfate.awake htold.awake rfl
      · rw [hnode]
        obtain hburies | hdead := htold.late hgone
        · exact (hfate.buried hburies).2.2
        · exact hfate.dead hdead rfl
    · exact .inl (cell_setHeld_of_ne false c hh)
  · obtain ⟨hdeletes, hok, -⟩ := hfate.buried hburies
    exact ⟨Option.some.inj hok, hdeletes⟩
  · exact hfate.confirmed hok.2 htold.awake (congrArg some hok.1)

/-- The node that was deleted is forgotten: no other one. The entry is still there, since only who
buried the node may remove it. -/
theorem Existence.drops (hx : Existence p ds c part) {h : NodeHandle} {w : Work}
    (hpart : part i = .left h w true) (hd : (ds i).deletes = true) :
    (c.project p).nodes.get? (ds i).id = some h
      ∧ Existence p ds (c.editProject p (·.drop (ds i).id))
        (Function.update part i (.dropped h w)) := by
  have htold := hx.told i
  rw [hpart] at htold
  have hburies : Node.Buries w.first w.log := htold.mpr ⟨rfl, hd⟩
  have hthere : (c.project p).nodes.get? (ds i).id = some h := by
    refine (hx.there i h ⟨w.first, by rw [hpart]; rfl,
      by rw [hpart]; exact hburies⟩).resolve_left ?_
    rw [hpart]
    rintro ⟨_, ⟨⟩⟩
  have hnodes : ((c.editProject p (·.drop (ds i).id)).project p).nodes
      = (c.project p).nodes.erase (ds i).id := nodes_drop ..
  refine ⟨hthere, hx.moves hpart (Nat.le_refl _) (fun id h' hid => .inl ?_) (fun id h' hid => ?_)
    (fun _ _ => .inl rfl) (fun _ => .inl) nofun (fun _ => Part.buries_congr rfl fun _ _ => Iff.rfl)
    (fun _ _ => nofun) trivial ⟨hburies, hd⟩⟩
  · rw [hnodes, Dict.get_erase] at hid
    split at hid
    · cases hid
    · exact hid
  · rw [hnodes, Dict.get_erase]
    split
    · rename_i heq
      rw [Std.LawfulEqOrd.eq_of_compare heq, hthere] at hid
      cases hid
      exact .inr ⟨w, rfl⟩
    · exact .inl hid

/-- A request is sent about a node. -/
theorem Existence.asks (hx : Existence p ds c part) {h : NodeHandle} {w : Work} {call : Call}
    {m : Node} (hpart : part i = .inside h w)
    (hfate : Node.Fate (ds i).deletes w.first (w.log ++ [⟨w.node, .send call, none⟩]) none m) :
    Existence p ds c
      (Function.update part i (.inside h { w with wait := .answer call })) := by
  have hworks := hx.works i
  have htold := hx.told i
  rw [hpart] at hworks htold
  have hmem : (⟨w.node, .send call, none⟩ : Node.Exchange)
      ∈ w.log ++ [⟨w.node, .send call, none⟩] :=
    List.mem_append_right _ List.mem_cons_self
  refine hx.learns hpart (fun _ => .inl) nofun (fun _ => Part.buries_congr rfl fun _ _ => Iff.rfl)
    (fun _ _ => nofun) hworks
    (Part.AtWork.congr htold rfl Iff.rfl fun call' hcall => .inr ⟨?_, ?_, ?_⟩)
  · intro hburies
    obtain ⟨-, hending, -⟩ := hfate.buried (Node.buries_append.mpr (.inl hburies))
    cases hending
  · exact fun hdead => hfate.silent hdead _ hmem call rfl
  · cases hcall
    cases hdeletes : (ds i).deletes with
    | true => exact .inl rfl
    | false => exact .inr (hfate.spares hdeletes _ hmem call rfl)

/-- A request about a node is answered. -/
theorem Existence.hears (hx : Existence p ds c part) (hl : Locks c fun i => (part i).inside?)
    {h : NodeHandle} {w : Work} {call : Call} (hpart : part i = .inside h w)
    (hwait : w.wait = .answer call) (answer : Answer) :
    Existence p ds c (Function.update part i (.inside h (w.learn (.send call) answer))) := by
  have hworks := hx.works i
  have htold := hx.told i
  rw [hpart] at hworks htold
  obtain ⟨hnot, halive, hdeletes⟩ := htold.asked call hwait
  by_cases hconfirmed : ∃ report, answer = .ok report ∧ call.request = .delete w.first.path
  · obtain ⟨report, rfl, hrequest⟩ := hconfirmed
    refine hx.buries hl hpart rfl rfl rfl ?_ (fun hgone => ?_) (hdeletes.resolve_right ?_)
    · exact Node.buries_append.mpr (.inr ⟨_, _, _, List.mem_cons_self, hrequest⟩)
    · exact (htold.late hgone).elim hnot halive
    · exact fun hne => hne hrequest
  · have hsame : Node.Buries w.first (w.learn (.send call) answer).log
        ↔ Node.Buries w.first w.log := by
      refine Node.buries_append.trans (or_iff_left ?_)
      rintro ⟨k, call', report, hmem, hrequest⟩
      cases List.mem_singleton.mp hmem
      exact hconfirmed ⟨report, rfl, hrequest⟩
    exact hx.learns hpart (fun _ => .inl) nofun (fun _ => Part.buries_inside rfl hsame)
      (fun _ _ => nofun) hworks (Part.AtWork.congr htold rfl hsame nofun)

/-! ## All steps

The three parts of the invariant are put together again. Whatever happens next is one of the steps
above, a request, or an answer. -/

theorem update_part {β : Type} (f : Part → β) (part : ι → Part) (i : ι) (g' : Part) :
    (fun j => f (Function.update part i g' j)) = Function.update (fun j => f (part j)) i (f g') :=
  funext fun j => Function.apply_update (fun _ => f) part i g' j

/-- The locks stay with those who hold them if the dealing stays inside, or outside. -/
theorem Locks.stay (hl : Locks c fun i => (part i).inside?)
    (hsame : ∀ h, (c'.cell h).held = (c.cell h).held) (hg' : g'.inside? = (part i).inside?) :
    Locks c' fun j => (Function.update part i g' j).inside? := by
  rw [update_part Part.inside?, hg', Function.update_eq_self]
  exact hl.congr hsame

namespace Accord

/-- Nobody is inside with a node that is drawn up only now. -/
theorem locks_draws (ha : Accord p pid ds c part) (hpart : part i = .fresh) (engine : String)
    (spec : NodeSpec) :
    Locks (c.draftNode p engine spec).2
      fun j => (Function.update part i (.drafted c.allocated) j).inside? := by
  refine ha.locks.stay (fun h => ?_) (by rw [hpart]; rfl)
  by_cases hh : h = c.allocated
  · have hnone (j : ι) : (part j).inside? ≠ some h := fun hj => by
      have hknown : Known p c part h := .inr ⟨j, Part.known_of_inside hj⟩
      exact Nat.lt_irrefl _ (hh ▸ (ha.nodes.known h hknown).1)
    rw [ha.locks.free_of_not_inside hnone, hh]
    show ((c.setCell c.allocated _).cell c.allocated).held = false
    rw [cell_setCell]
  · exact congrArg NodeCell.held (cell_setCell_of_ne _ c hh)

/-- **A step of a dealing keeps the accord.** The proof takes the kinds of steps one after another;
each uses one of the lemmas above. -/
theorem moves (ha : Accord p pid ds c part) (hm : Part.Moves p (ds i) (part i) c c' g') :
    Accord p pid ds c' (Function.update part i g') := by
  have hclaims := ha.claims.proceeds (hm.proceeds (ha.nodes.works i))
  rw [← update_part Part.role] at hclaims
  suffices h : Existence p ds c' (Function.update part i g')
      ∧ Locks c' fun j => (Function.update part i g' j).inside? from ⟨h.1, h.2, hclaims⟩
  have hworks := ha.nodes.works i
  generalize hpart : part i = g at hm hworks
  have hstay {g' : Part} (hg' : g'.inside? = g.inside?)
      (hsame : ∀ h, (c'.cell h).held = (c.cell h).held) :
      Locks c' fun j => (Function.update part i g' j).inside? :=
    ha.locks.stay hsame (hpart ▸ hg')
  cases hm with
  | draws hspec => exact ⟨ha.nodes.draws hpart _ _, ha.locks_draws hpart _ _⟩
  | creates hw => exact ⟨ha.nodes.creates hpart hw, hstay rfl (hw.held hworks)⟩
  | works hw => exact ⟨ha.nodes.operates ha.locks hpart hw, hstay rfl (hw.held hworks)⟩
  | enters hw =>
    have habsent := ha.claims.absent i (by rw [hpart]; rfl)
    exact ⟨ha.nodes.enters hpart hw habsent, hstay rfl fun _ => rfl⟩
  | drops hd => exact ⟨(ha.nodes.drops hpart hd).2, hstay rfl fun _ => rfl⟩
  | locks hfree =>
    refine ⟨ha.nodes.takesLock ha.locks hpart hfree, ?_⟩
    rw [update_part Part.inside?]
    exact ha.locks.enter (by rw [hpart]; rfl) hfree
  | unlocks hw hfate =>
    refine ⟨ha.nodes.givesBack ha.locks hpart hfate, ?_⟩
    rw [update_part Part.inside?]
    exact ha.locks.leave (by rw [hpart]; rfl)
  | loses | misses =>
    exact ⟨ha.nodes.decides rfl rfl (fun _ => rfl) (by rw [hpart]; rfl) rfl nofun nofun trivial,
      hstay rfl fun _ => rfl⟩
  | finds hh =>
    refine ⟨ha.nodes.decides rfl rfl (fun _ => rfl) (by rw [hpart]; rfl) rfl
      (fun h hknown => ?_) nofun trivial, hstay rfl fun _ => rfl⟩
    cases hknown
    exact hh
  | claims hfree =>
    refine ⟨ha.nodes.decides ?_ rfl (fun _ => rfl) (by rw [hpart]; rfl) rfl nofun (fun h hown => ?_)
      rfl, hstay rfl fun _ => rfl⟩
    · rw [project_editProject]
      rfl
    · rw [hpart]
      exact hown
  | releases hg =>
    have hnone : g.found? = none ∧ g.inside? = none := by
      cases g with
      | creating | entered => exact ⟨rfl, rfl⟩
      | _ => cases hg
    refine ⟨ha.nodes.decides ?_ rfl (fun _ => rfl) (hpart ▸ hnone.1) rfl nofun nofun trivial,
      hstay hnone.2.symm fun _ => rfl⟩
    rw [project_editProject]
    rfl

/-- **Whatever happens to a dealing keeps the accord.** Besides steps, these are requests, answers
and the abandonment of a call. They change nothing but the part of the one dealing, and the locks it
held. -/
theorem advances (ha : Accord p pid ds c part) {told : (call : Call) → Answer → Prop}
    {happening : Crew.Happening Controller Call fun _ => Answer}
    (hadvances : Crew.Advances told (dealing p (ds i)) (part i) c happening c' g') :
    Accord p pid ds c' (Function.update part i g') := by
  have hworks := ha.nodes.works i
  generalize hpart : part i = g at hadvances hworks
  have hstill {g' : Part} (hrole : g'.role = g.role) (hinside : g'.inside? = g.inside?)
      (hx : Existence p ds c (Function.update part i g')) :
      Accord p pid ds c (Function.update part i g') := by
    refine ⟨hx, ha.locks.stay (fun _ => rfl) (hpart ▸ hinside), ?_⟩
    rw [update_part Part.role, hrole, ← hpart, Function.update_eq_self]
    exact ha.claims
  have hcreating {h : NodeHandle} {w w' : Work} (hg : g = .creating h w) (hw : c.node h = w'.node) :
      Existence p ds c (Function.update part i (.creating h w')) := by
    subst hg
    refine ha.nodes.decides rfl rfl (fun _ => rfl) (by rw [hpart]; rfl) rfl nofun
      (fun h hown => ?_) hw
    rw [hpart]
    exact hown
  cases hadvances with
  | moved hm => exact ha.moves (hpart ▸ hm)
  | put hasks =>
    cases hasks with
    | creating hw => exact hstill rfl rfl (hcreating rfl hworks)
    | inside hw hfate => exact hstill rfl rfl (ha.nodes.asks hpart hfate)
  | answered ht hhears =>
    cases hhears with
    | creating hw => exact hstill rfl rfl (hcreating rfl hworks)
    | inside hw => exact hstill rfl rfl (ha.nodes.hears ha.locks hpart hw _)

end Accord

end Steps

end Testbed.Controller

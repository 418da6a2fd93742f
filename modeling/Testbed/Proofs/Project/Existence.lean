import Testbed.Proofs.Controller.Locks
import Testbed.Proofs.Project.NodeCalls

/-!
# Which nodes exist, and who knows them

While dealings with the nodes of a project take turns, every node is in one of three situations. It
is known to the dealing alone that is adding it; or it is in the project, or was, and may be known
to any number of dealings; or its deletion was confirmed to the one dealing that *buries* it.
`Existence` says what holds of the nodes in these situations, whoever holds their locks, and
`Existence.advances` that whatever happens keeps it.

The point is what happens between the confirmation of a deletion and the moment at which the project
forgets the node. In between the node is known to be deleted to whoever gets its lock, and its entry
cannot be another node's, because nobody can add a node under an identifier that is there.
-/

namespace Testbed.Controller

namespace Part

/-- The node whose lock is held. -/
def inside? : Part → Option NodeHandle
  | inside h _ => some h
  | _ => none

/-- The node that is worked on. Others may know it, but they cannot change it. -/
def at? : Part → Option NodeHandle
  | creating h _ | inside h _ => some h
  | _ => none

/-- The node that is being added and is known to nobody else. No other call can find it before it is
entered. -/
def own? : Part → Option NodeHandle
  | drafted h | creating h _ => some h
  | _ => none

/-- The node that a dealing got hold of. That does not mean that it is still there. -/
def known? : Part → Option NodeHandle
  | waiting h | inside h _ | left h _ _ | dropped h _ => some h
  | _ => none

/-- The node under its handle as it was found when the lock was taken. -/
def found? : Part → Option (NodeHandle × Node)
  | inside h w | left h w _ | dropped h w => some (h, w.first)
  | _ => none

/-- What was asked while the lock was held. These are questions about one node, since a dealing
works on one at most. -/
def log : Part → List Node.Exchange
  | inside _ w | left _ w _ | dropped _ w => w.log
  | _ => []

/-- **The deletion of the node under a handle was confirmed.** The dealing has the node's lock, or
had it, and knows of the confirmation by its own log. -/
def Buries (h : NodeHandle) (g : Part) : Prop := ∃ n, g.found? = some (h, n) ∧ Node.Buries n g.log

/-- What an operation at work knows of the existence of its node, which may be gone. -/
structure AtWork (d : Dealing) (gone : Prop) (w : Work) : Prop where
  /-- The node was created. -/
  awake : w.first.status ≠ .pending
  /-- If it is gone, then by this operation or before it. -/
  late : gone → Node.Buries w.first w.log ∨ w.first.status = .deleted
  /-- While an answer is waited for the node exists, and only a deletion can change that. -/
  asked : ∀ call, w.wait = .answer call → ¬ Node.Buries w.first w.log
    ∧ w.first.status ≠ .deleted ∧ (d.deletes = true ∨ call.request ≠ .delete w.first.path)
  /-- Only a deletion is confirmed as one. -/
  deletes : Node.Buries w.first w.log → d.deletes = true

/-- What a dealing can tell of the node it worked on. -/
def Told (d : Dealing) (gone : NodeHandle → Prop) : Part → Prop
  | inside h w => AtWork d (gone h) w
  | left _ w ok => Node.Buries w.first w.log ↔ ok = true ∧ d.deletes = true
  | dropped _ w => Node.Buries w.first w.log ∧ d.deletes = true
  | _ => True

theorem Told.deletes {d : Dealing} {gone : NodeHandle → Prop} {g : Part} (hg : g.Told d gone)
    {h : NodeHandle} (hburies : g.Buries h) : d.deletes = true := by
  obtain ⟨n, hfound, hburies⟩ := hburies
  cases g with
  | inside h' w =>
    cases hfound
    exact AtWork.deletes hg hburies
  | left h' w ok =>
    cases hfound
    exact (hg.mp hburies).2
  | dropped h' w => exact hg.2
  | _ => cases hfound

/-- A part depends on whether nodes are gone only for the node it works on. -/
theorem Told.congr {d : Dealing} {gone gone' : NodeHandle → Prop} {g : Part} (hg : g.Told d gone)
    (hsame : ∀ h, g.inside? = some h → (gone' h → gone h)) : g.Told d gone' := by
  cases g with
  | inside h w =>
    exact { show AtWork d (gone h) w from hg with late := fun hgone => hg.late (hsame h rfl hgone) }
  | left h w ok => exact hg
  | dropped h w => exact hg
  | _ => trivial

theorem known_of_found {g : Part} {h : NodeHandle} {n : Node} (hg : g.found? = some (h, n)) :
    g.known? = some h := by
  cases g with
  | inside h' w | left h' w ok | dropped h' w =>
    cases hg
    rfl
  | _ => cases hg

theorem known_of_inside {g : Part} {h : NodeHandle} (hg : g.inside? = some h) :
    g.known? = some h := by
  cases g with
  | inside h' w => exact hg
  | _ => cases hg

/-- Who has found the same and heard of the same deletion has buried the same. -/
theorem buries_congr {g g' : Part} {h : NodeHandle} (hfound : g'.found? = g.found?)
    (hlog : ∀ n, g.found? = some (h, n) → (Node.Buries n g'.log ↔ Node.Buries n g.log)) :
    g'.Buries h ↔ g.Buries h := by
  unfold Buries
  rw [hfound]
  exact exists_congr fun n => and_congr_right (hlog n)

end Part

variable {ι : Type}

/-- A node is gone if somebody has buried it. To be buried by a call is to have its deletion
confirmed to that call. -/
def Gone (part : ι → Part) (h : NodeHandle) : Prop := ∃ i, (part i).Buries h

/-- A node is known if it is in the project or somebody got hold of it. A node that is being added
is not known yet. -/
def Known (p : ProjectHandle) (c : Controller) (part : ι → Part) (h : NodeHandle) : Prop :=
  (∃ id, (c.project p).nodes.get? id = some h) ∨ ∃ i, (part i).known? = some h

/-- **The nodes and the dealings with them** agree. The fields are told in terms of parts and cells;
no log is needed, since a part remembers what its dealing has seen. -/
structure Existence (p : ProjectHandle) (ds : ι → Dealing) (c : Controller) (part : ι → Part) :
    Prop where
  /-- The nodes that are known have been created. -/
  known : ∀ h, Known p c part h →
    h < c.allocated ∧ ((c.cell h).held = false → (c.node h).status ≠ .pending)
  /-- The nodes that are being added are known to nobody else. -/
  own : ∀ i h, (part i).own? = some h →
    h < c.allocated ∧ ¬ Known p c part h ∧ ∀ j, (part j).own? = some h → j = i
  /-- A node that is gone is found deleted. -/
  gone : ∀ h, Gone part h → (c.cell h).held = false → (c.node h).status = .deleted
  /-- Whoever works on a node knows it as it is. -/
  works : ∀ i, (dealing p (ds i)).knows (part i) c
  /-- Everybody can tell what became of the node. -/
  told : ∀ i, (part i).Told (ds i) (Gone part)
  /-- No two have buried one node. -/
  unique : ∀ i j h, (part i).Buries h → (part j).Buries h → i = j
  /-- A node that was looked up is where it was found, or gone. -/
  lookedUp : ∀ i h, (ds i).looksUp = true → (part i).known? = some h →
    (c.project p).nodes.get? (ds i).id = some h ∨ Gone part h
  /-- Whoever has buried a node finds it in the project until it drops it. -/
  there : ∀ i h, (part i).Buries h →
    (∃ w, part i = .dropped h w) ∨ (c.project p).nodes.get? (ds i).id = some h

section Steps

variable {p : ProjectHandle} {ds : ι → Dealing} {c c' : Controller} {part : ι → Part} {i : ι}
  {g g' : Part}

/-- A change of a cell that leaves the node known, or gone, as it was, and that nobody else is at.
-/
structure Touches (p : ProjectHandle) (c : Controller) (part : ι → Part) (i : ι) (c' : Controller)
    (h : NodeHandle) : Prop where
  awake : Known p c part h → (c'.cell h).held = false → (c'.node h).status ≠ .pending
  gone : Gone part h → (c'.cell h).held = false → (c'.node h).status = .deleted
  alone : ∀ j, j ≠ i → (part j).at? ≠ some h

variable [DecidableEq ι]

omit [DecidableEq ι] in
/-- A node that is gone is known to who has buried it. -/
theorem Gone.known {h : NodeHandle} (hgone : Gone part h) : Known p c part h := by
  obtain ⟨i, n, hfound, -⟩ := hgone
  exact .inr ⟨i, Part.known_of_found hfound⟩

/-- What is found in a part after one part was changed is found in the new part, or was there. -/
theorem of_update_eq_some {α : Type} {f : Part → Option α} {j : ι} {a : α}
    (hj : f (Function.update part i g' j) = some a) :
    j = i ∧ f g' = some a ∨ f (part j) = some a := by
  by_cases hji : j = i
  · subst hji
    rw [Function.update_self] at hj
    exact .inl ⟨rfl, hj⟩
  · rw [Function.update_of_ne hji] at hj
    exact .inr hj

theorem buries_update (hburies : ∀ h, g'.Buries h ↔ (part i).Buries h) (j : ι) (h : NodeHandle) :
    (Function.update part i g' j).Buries h ↔ (part j).Buries h := by
  by_cases hji : j = i
  · subst hji
    rw [Function.update_self]
    exact hburies h
  · rw [Function.update_of_ne hji]

omit [DecidableEq ι] in
/-- What is known of a node by who works on it stays true while nobody else is at it. -/
theorem Existence.works_of_ne (hx : Existence p ds c part) {j : ι}
    (hcell : ∀ h, h < c.allocated → c'.cell h = c.cell h ∨ (part j).at? ≠ some h) :
    (dealing p (ds j)).knows (part j) c' := by
  have hworks := hx.works j
  cases hpart : part j with
  | creating h w =>
    rw [hpart] at hworks
    have hlt := (hx.own j h (by rw [hpart]; rfl)).1
    obtain hsame | hne := hcell h hlt
    · exact (congrArg NodeCell.node hsame).trans hworks
    · exact absurd (by rw [hpart]; rfl) hne
  | inside h w =>
    rw [hpart] at hworks
    have hlt := (hx.known h (.inr ⟨j, by rw [hpart]; rfl⟩)).1
    obtain hsame | hne := hcell h hlt
    · exact (congrArg NodeCell.node hsame).trans hworks
    · exact absurd (by rw [hpart]; rfl) hne
  | _ => trivial

theorem gone_update (hburies : ∀ h, g'.Buries h ↔ (part i).Buries h) (h : NodeHandle) :
    Gone (Function.update part i g') h ↔ Gone part h :=
  exists_congr fun j => buries_update hburies j h

/-- A node that enters the project at a step: the one that was being added. -/
structure Joins (part : ι → Part) (i : ι) (g' : Part) (c' : Controller) (h : NodeHandle) :
    Prop where
  before : (part i).own? = some h
  after : g'.own? = none
  awake : (c'.node h).status ≠ .pending

/-- **Steps at which nobody is buried.** What there is to show is about the dealing that takes the
step and the cells that it changes. The hypotheses are long because they say what each kind of step
does to each of the tables; a step satisfies most of them by changing nothing. -/
theorem Existence.moves (hx : Existence p ds c part) (hpart : part i = g)
    (hallocated : c.allocated ≤ c'.allocated)
    (hin : ∀ id h, (c'.project p).nodes.get? id = some h →
      (c.project p).nodes.get? id = some h ∨ Joins part i g' c' h)
    (hout : ∀ id h, (c.project p).nodes.get? id = some h →
      (c'.project p).nodes.get? id = some h ∨ ∃ w, g' = .dropped h w)
    (hcell : ∀ h, h < c.allocated → c'.cell h = c.cell h ∨ Touches p c part i c' h)
    (hknown : ∀ h, g'.known? = some h →
      g.known? = some h ∨ (c.project p).nodes.get? (ds i).id = some h
        ∧ (c'.project p).nodes.get? (ds i).id = some h)
    (hown : ∀ h, g'.own? = some h → g.own? = some h ∨ c.allocated ≤ h ∧ h < c'.allocated)
    (hburies : ∀ h, g'.Buries h ↔ g.Buries h) (hdropped : ∀ h w, g ≠ .dropped h w)
    (hworks : (dealing p (ds i)).knows g' c') (htold : g'.Told (ds i) (Gone part)) :
    Existence p ds c' (Function.update part i g') := by
  subst hpart
  have hgone := gone_update hburies
  have hGone : Gone (Function.update part i g') = Gone part := funext fun h => propext (hgone h)
  have hKnown (h : NodeHandle) (hh : Known p c' (Function.update part i g') h) :
      Known p c part h ∨ Joins part i g' c' h := by
    obtain ⟨id, hid⟩ | ⟨j, hj⟩ := hh
    · exact (hin id h hid).imp_left fun hid => .inl ⟨id, hid⟩
    · obtain ⟨rfl, hg⟩ | hj := of_update_eq_some hj
      · exact .inl ((hknown h hg).elim (fun hj => .inr ⟨j, hj⟩) fun hid => .inl ⟨_, hid.1⟩)
      · exact .inl (.inr ⟨j, hj⟩)
  have hOwn (j : ι) (h : NodeHandle) (hj : (Function.update part i g' j).own? = some h) :
      (part j).own? = some h ∨ j = i ∧ c.allocated ≤ h ∧ h < c'.allocated := by
    obtain ⟨rfl, hg⟩ | hj := of_update_eq_some hj
    · exact (hown h hg).imp_right fun hnew => ⟨rfl, hnew⟩
    · exact .inl hj
  -- what a dealing drops it has buried
  have hBuried {h : NodeHandle} {w : Work} (hg : g' = .dropped h w) : (part i).Buries h := by
    subst hg
    exact (hburies h).mp ⟨w.first, rfl, htold.1⟩
  refine
    { known := fun h hh => ?known
      own := fun j h hj => ?own
      gone := fun h hh hfree => ?gone
      works := ?works
      told := ?told
      unique := fun j k h hj hk => ?unique
      lookedUp := fun j h hlooks hj => ?lookedUp
      there := fun j h hj => ?there }
  case known =>
    obtain hh | hjoins := hKnown h hh
    · obtain ⟨hlt, hawake⟩ := hx.known h hh
      refine ⟨Nat.lt_of_lt_of_le hlt hallocated, fun hfree => ?_⟩
      obtain hsame | htouches := hcell h hlt
      · unfold node
        rw [hsame] at hfree ⊢
        exact hawake hfree
      · exact htouches.awake hh hfree
    · obtain ⟨hlt, -⟩ := hx.own i h hjoins.before
      exact ⟨Nat.lt_of_lt_of_le hlt hallocated, fun _ => hjoins.awake⟩
  case own =>
    obtain hj' | ⟨rfl, hle, hlt⟩ := hOwn j h hj
    · obtain ⟨hlt, hnot, hsingle⟩ := hx.own j h hj'
      refine ⟨Nat.lt_of_lt_of_le hlt hallocated, fun hh => ?_, fun k hk => ?_⟩
      · obtain hh | hjoins := hKnown h hh
        · exact hnot hh
        · obtain rfl := hsingle i hjoins.before
          rw [Function.update_self, hjoins.after] at hj
          cases hj
      · obtain hk | ⟨-, hle, -⟩ := hOwn k h hk
        · exact hsingle k hk
        · exact absurd hlt (Nat.not_lt.mpr hle)
    · -- a handle that was just given out is nobody else's
      refine ⟨hlt, fun hh => ?_, fun k hk => ?_⟩
      · obtain hh | hjoins := hKnown h hh
        · exact absurd (hx.known h hh).1 (Nat.not_lt.mpr hle)
        · exact absurd (hx.own j h hjoins.before).1 (Nat.not_lt.mpr hle)
      · obtain hk | ⟨rfl, -⟩ := hOwn k h hk
        · exact absurd (hx.own k h hk).1 (Nat.not_lt.mpr hle)
        · rfl
  case gone =>
    have hh := (hgone h).mp hh
    obtain hsame | htouches := hcell h (hx.known h hh.known).1
    · unfold node
      rw [hsame] at hfree ⊢
      exact hx.gone h hh hfree
    · exact htouches.gone hh hfree
  case works =>
    refine (Function.forall_update_iff part (fun j g => (dealing p (ds j)).knows g c')).mpr
      ⟨hworks, fun j hji => hx.works_of_ne fun h hlt => ?_⟩
    exact (hcell h hlt).imp_right fun htouches => htouches.alone j hji
  case told =>
    rw [hGone]
    exact (Function.forall_update_iff part (fun j g => g.Told (ds j) (Gone part))).mpr
      ⟨htold, fun j _ => hx.told j⟩
  case unique =>
    exact hx.unique j k h ((buries_update hburies j h).mp hj) ((buries_update hburies k h).mp hk)
  case lookedUp =>
    rw [hgone]
    have hstays (hj : (part j).known? = some h) :
        (c'.project p).nodes.get? (ds j).id = some h ∨ Gone part h := by
      obtain hget | hgone := hx.lookedUp j h hlooks hj
      · exact (hout _ h hget).imp_right fun ⟨w, hw⟩ => ⟨i, hBuried hw⟩
      · exact .inr hgone
    obtain ⟨rfl, hg⟩ | hj := of_update_eq_some hj
    · exact (hknown h hg).elim hstays fun hget => .inl hget.2
    · exact hstays hj
  case there =>
    have hj' := (buries_update hburies j h).mp hj
    obtain ⟨w, hw⟩ | hget := hx.there j h hj'
    · have hji : j ≠ i := fun hji => hdropped h w (hji ▸ hw)
      rw [Function.update_of_ne hji]
      exact .inl ⟨w, hw⟩
    · obtain hget | ⟨w, hw⟩ := hout _ h hget
      · exact .inr hget
      · -- it is dropped by the one who has buried it
        obtain rfl := hx.unique j i h hj' (hBuried hw)
        rw [Function.update_self]
        exact .inl ⟨w, hw⟩

/-- **Steps at which the nodes of the project stay**, and nobody is buried. It is the case of steps
that change a node, or nothing, but not the table of the project. -/
theorem Existence.rests (hx : Existence p ds c part) (hpart : part i = g)
    (hallocated : c.allocated ≤ c'.allocated)
    (hnodes : (c'.project p).nodes = (c.project p).nodes)
    (hcell : ∀ h, h < c.allocated → c'.cell h = c.cell h ∨ Touches p c part i c' h)
    (hknown : ∀ h, g'.known? = some h →
      g.known? = some h ∨ (c.project p).nodes.get? (ds i).id = some h)
    (hown : ∀ h, g'.own? = some h → g.own? = some h ∨ c.allocated ≤ h ∧ h < c'.allocated)
    (hburies : ∀ h, g'.Buries h ↔ g.Buries h) (hdropped : ∀ h w, g ≠ .dropped h w)
    (hworks : (dealing p (ds i)).knows g' c') (htold : g'.Told (ds i) (Gone part)) :
    Existence p ds c' (Function.update part i g') := by
  refine hx.moves hpart hallocated (fun id h hid => .inl ?_) (fun id h hid => .inl ?_) hcell
    (fun h hh => (hknown h hh).imp_right fun hid => ⟨hid, ?_⟩) hown hburies hdropped hworks htold
  · rw [← hnodes]
    exact hid
  · rw [hnodes]
    exact hid
  · rw [hnodes]
    exact hid

/-- **Steps that only the dealing knows of**: nothing but its part changes, and what it is at. It is
the case of steps that change nothing at all outside. -/
theorem Existence.learns (hx : Existence p ds c part) (hpart : part i = g)
    (hknown : ∀ h, g'.known? = some h →
      g.known? = some h ∨ (c.project p).nodes.get? (ds i).id = some h)
    (hown : ∀ h, g'.own? = some h → g.own? = some h)
    (hburies : ∀ h, g'.Buries h ↔ g.Buries h) (hdropped : ∀ h w, g ≠ .dropped h w)
    (hworks : (dealing p (ds i)).knows g' c) (htold : g'.Told (ds i) (Gone part)) :
    Existence p ds c (Function.update part i g') :=
  hx.rests hpart (Nat.le_refl _) rfl (fun _ _ => .inl rfl) hknown (fun h hh => .inl (hown h hh))
    hburies hdropped hworks htold

/-- **The moment at which a deletion is confirmed.** From here on the node is gone for everybody
else, though its entry is still there. -/
theorem Existence.buries (hx : Existence p ds c part)
    (hl : Locks c fun i => (part i).inside?) {h : NodeHandle} {w w' : Work}
    (hpart : part i = .inside h w) (hfirst : w'.first = w.first) (hnode : w'.node = w.node)
    (hwait : w'.wait = .nothing) (hburies : Node.Buries w.first w'.log) (hnot : ¬ Gone part h)
    (hd : (ds i).deletes = true) : Existence p ds c (Function.update part i (.inside h w')) := by
  have hin : (part i).inside? = some h := by rw [hpart]; rfl
  have hknown : (part i).known? = some h := by rw [hpart]; rfl
  have hheld : (c.cell h).held = true := (hl.held h).mpr ⟨i, hin⟩
  have hBuries (j : ι) (h' : NodeHandle) :
      (Function.update part i (.inside h w') j).Buries h'
        ↔ (part j).Buries h' ∨ j = i ∧ h' = h := by
    by_cases hji : j = i
    · subst hji
      rw [Function.update_self]
      constructor
      · rintro ⟨n, hfound, -⟩
        cases hfound
        exact .inr ⟨rfl, rfl⟩
      · rintro (hb | ⟨-, rfl⟩)
        · obtain rfl : h' = h := by
            obtain ⟨n, hfound, -⟩ := hb
            rw [hpart] at hfound
            cases hfound
            rfl
          exact absurd ⟨j, hb⟩ hnot
        · exact ⟨w'.first, rfl, hfirst ▸ hburies⟩
    · rw [Function.update_of_ne hji]
      exact (or_iff_left fun hj => hji hj.1).symm
  have hGone {h' : NodeHandle} (hg : Gone (Function.update part i (.inside h w')) h') :
      Gone part h' ∨ h' = h := by
    obtain ⟨j, hj⟩ := hg
    exact ((hBuries j h').mp hj).imp (fun hj => ⟨j, hj⟩) And.right
  have hKnown (h' : NodeHandle) :
      Known p c (Function.update part i (.inside h w')) h' → Known p c part h' := by
    rintro (hid | ⟨j, hj⟩)
    · exact .inl hid
    · obtain ⟨rfl, hg⟩ | hj := of_update_eq_some hj
      · exact .inr ⟨j, hknown.trans hg⟩
      · exact .inr ⟨j, hj⟩
  have hOwn (j : ι) (h' : NodeHandle)
      (hj : (Function.update part i (.inside h w') j).own? = some h') :
      (part j).own? = some h' := by
    obtain ⟨-, ⟨⟩⟩ | hj := of_update_eq_some hj
    exact hj
  have hworks := hx.works i
  have htold := hx.told i
  rw [hpart] at hworks htold
  refine
    { known := fun h' hh => hx.known h' (hKnown h' hh)
      own := fun j h' hj => ?own
      gone := fun h' hh hfree => ?gone
      works := ?works
      told := ?told
      unique := fun j k h' hj hk => ?unique
      lookedUp := fun j h' hlooks hj => ?lookedUp
      there := fun j h' hj => ?there }
  case own =>
    obtain ⟨hlt, hnot, hsingle⟩ := hx.own j h' (hOwn j h' hj)
    exact ⟨hlt, fun hh => hnot (hKnown h' hh), fun k hk => hsingle k (hOwn k h' hk)⟩
  case gone =>
    obtain hh | rfl := hGone hh
    · exact hx.gone h' hh hfree
    · rw [hheld] at hfree
      cases hfree
  case works =>
    refine (Function.forall_update_iff part (fun j g => (dealing p (ds j)).knows g c)).mpr
      ⟨?_, fun j _ => hx.works j⟩
    exact Eq.trans hworks hnode.symm
  case told =>
    refine (Function.forall_update_iff part
      (fun j g => g.Told (ds j) (Gone (Function.update part i (.inside h w'))))).mpr
      ⟨⟨?_, fun _ => .inl (hfirst ▸ hburies), fun call hcall => ?_, fun _ => hd⟩, fun j hji => ?_⟩
    · rw [hfirst]
      exact htold.awake
    · rw [hwait] at hcall
      cases hcall
    · -- nobody else works on the node that is buried
      refine (hx.told j).congr fun h' hj hg => (hGone hg).resolve_right fun hh => hji ?_
      exact hl.exclusive j i h (hh ▸ hj) hin
  case unique =>
    obtain hj' | ⟨rfl, hh⟩ := (hBuries j h').mp hj
    · obtain hk' | ⟨-, hh⟩ := (hBuries k h').mp hk
      · exact hx.unique j k h' hj' hk'
      · exact absurd ⟨j, hh ▸ hj'⟩ hnot
    · obtain hk' | ⟨rfl, -⟩ := (hBuries k h').mp hk
      · exact absurd ⟨k, hh ▸ hk'⟩ hnot
      · rfl
  case lookedUp =>
    have hmono : Gone part h' → Gone (Function.update part i (.inside h w')) h' :=
      fun ⟨k, hk⟩ => ⟨k, (hBuries k h').mpr (.inl hk)⟩
    have hj' : (part j).known? = some h' := by
      obtain ⟨rfl, hg⟩ | hj := of_update_eq_some hj
      · exact hknown.trans hg
      · exact hj
    exact (hx.lookedUp j h' hlooks hj').imp_right hmono
  case there =>
    obtain hj' | ⟨rfl, rfl⟩ := (hBuries j h').mp hj
    · have hji : j ≠ i := fun hji => by
        subst hji
        obtain ⟨n, hfound, -⟩ := id hj'
        rw [hpart] at hfound
        cases hfound
        exact hnot ⟨j, hj'⟩
      rw [Function.update_of_ne hji]
      exact hx.there j h' hj'
    · exact .inr ((hx.lookedUp j h' (Dealing.looksUp_of_deletes hd) hknown).resolve_right hnot)

end Steps

end Testbed.Controller

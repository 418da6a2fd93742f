import Mathlib.Logic.Function.Basic
import Testbed.Proofs.Controller.State
import Testbed.Proofs.Process.Crew

/-!
# Locks of nodes and who is inside

Each node has a lock, and the operations that hold one are *inside*. `Locks` ties the two together:
a lock is held exactly if somebody is inside, and then only one is. It is kept by entering a node
whose lock is free, by leaving one, and by every step that leaves the locks alone. In a log the
entry of somebody shows as a step that `takes` the lock.

Who is inside is not recorded in the state; it is known from how far each operation is. So the
invariant is a relation between the state and a function that says of each party where it is.
Whether a lock is held is all that a party can see of it, and `takes` reads the rest off the log: a
lock that was free before a step and is held after it was taken at this step.
-/

namespace Testbed.Controller

variable {ι : Type} {c c' : Controller} {h h' : NodeHandle}

theorem held_setHeld (held : Bool) (c : Controller) : ((c.setHeld h held).cell h).held = held := by
  unfold setHeld
  rw [cell_setCell]

theorem cell_setHeld_of_ne (held : Bool) (c : Controller) (hne : h' ≠ h) :
    (c.setHeld h held).cell h' = c.cell h' := cell_setCell_of_ne _ c hne

theorem node_setHeld (held : Bool) (c : Controller) (h' : NodeHandle) :
    (c.setHeld h held).node h' = c.node h' := by
  by_cases hh : h' = h
  · subst hh
    unfold node setHeld
    rw [cell_setCell]
  · unfold node
    rw [cell_setHeld_of_ne held c hh]

/-- Whether a lock is taken. It is seen from the states before and after. -/
def takes (h : NodeHandle) : Crew.Happening Controller Call (fun _ => Answer) → Bool
  | .moved c c' => !(c.cell h).held && (c'.cell h).held
  | .put _ | .answered _ _ | .quit _ _ => false

theorem takes_setHeld_true (hfree : (c.cell h).held = false) :
    takes h (.moved c (c.setHeld h true)) = true := by
  show (!(c.cell h).held && ((c.setHeld h true).cell h).held) = true
  rw [hfree, held_setHeld]
  rfl

theorem takes_of_held (hheld : (c'.cell h).held = (c.cell h).held) :
    takes h (.moved c c') = false := by
  show (!(c.cell h).held && (c'.cell h).held) = false
  rw [hheld, Bool.not_and_self]

theorem takes_setHeld_false (c : Controller) : takes h (.moved c (c.setHeld h false)) = false := by
  show (!(c.cell h).held && ((c.setHeld h false).cell h).held) = false
  rw [held_setHeld, Bool.and_false]

/-- **The locks are held by those who are inside.** With the first condition alone two could be
inside while the lock is held. With the second alone a lock could be held by nobody, and a call
would wait for it in vain. -/
structure Locks (c : Controller) (inside : ι → Option NodeHandle) : Prop where
  /-- A lock is held exactly if somebody is inside. -/
  held : ∀ h, (c.cell h).held = true ↔ ∃ i, inside i = some h
  /-- No two are inside with one node. -/
  exclusive : ∀ i j h, inside i = some h → inside j = some h → i = j

namespace Locks

variable {inside : ι → Option NodeHandle}

/-- Nobody is inside while all locks are free. It is so at the beginning. -/
theorem of_free (h : ∀ h, (c.cell h).held = false) : Locks c (fun _ : ι => none) where
  held h' := by
    rw [h h']
    exact iff_of_false Bool.false_ne_true fun ⟨_, hi⟩ => nomatch hi
  exclusive _ _ _ hi := nomatch hi

theorem not_inside_of_free (hl : Locks c inside) (hfree : (c.cell h).held = false) (i : ι) :
    inside i ≠ some h := fun hi => by
  rw [(hl.held h).mpr ⟨i, hi⟩] at hfree
  cases hfree

theorem free_of_not_inside (hl : Locks c inside) (hnone : ∀ i, inside i ≠ some h) :
    (c.cell h).held = false :=
  Bool.eq_false_iff.mpr fun hheld => ((hl.held h).mp hheld).elim hnone

/-- What leaves the locks alone keeps them. What else changes does not matter. -/
theorem congr (hl : Locks c inside) (hsame : ∀ h, (c'.cell h).held = (c.cell h).held) :
    Locks c' inside :=
  ⟨fun h => by rw [hsame h]; exact hl.held h, hl.exclusive⟩

variable [DecidableEq ι] {i : ι}

/-- Somebody who was nowhere enters a node whose lock is free. Others are inside other nodes. -/
theorem enter (hl : Locks c inside) (hi : inside i = none) (hfree : (c.cell h).held = false) :
    Locks (c.setHeld h true) (Function.update inside i (some h)) where
  held h' := by
    by_cases hh : h' = h
    · subst hh
      rw [held_setHeld]
      exact iff_of_true rfl ⟨i, Function.update_self ..⟩
    · rw [cell_setHeld_of_ne true c hh, hl.held h']
      constructor
      · rintro ⟨j, hj⟩
        refine ⟨j, ?_⟩
        rw [Function.update_of_ne (fun hji => by rw [hji, hi] at hj; cases hj)]
        exact hj
      · rintro ⟨j, hj⟩
        by_cases hji : j = i
        · subst hji
          rw [Function.update_self] at hj
          exact absurd (Option.some.inj hj).symm hh
        · rw [Function.update_of_ne hji] at hj
          exact ⟨j, hj⟩
  exclusive j k h' hj hk := by
    have hother (j : ι) (hji : j ≠ i) (hj : Function.update inside i (some h) j = some h') :
        inside j = some h' ∧ h' ≠ h := by
      rw [Function.update_of_ne hji] at hj
      exact ⟨hj, fun hh => hl.not_inside_of_free hfree j (hh ▸ hj)⟩
    have hself (hi : Function.update inside i (some h) i = some h') : h' = h := by
      rw [Function.update_self] at hi
      exact (Option.some.inj hi).symm
    by_cases hji : j = i
    · by_cases hki : k = i
      · rw [hji, hki]
      · exact absurd (hself (hji ▸ hj)) (hother k hki hk).2
    · by_cases hki : k = i
      · exact absurd (hself (hki ▸ hk)) (hother j hji hj).2
      · exact hl.exclusive j k h' (hother j hji hj).1 (hother k hki hk).1

/-- Somebody who was inside leaves. His is the only lock that is given back. -/
theorem leave (hl : Locks c inside) (hi : inside i = some h) :
    Locks (c.setHeld h false) (Function.update inside i none) where
  held h' := by
    have hothers : (∃ j, Function.update inside i none j = some h') ↔
        ∃ j, j ≠ i ∧ inside j = some h' := by
      refine exists_congr fun j => ?_
      by_cases hji : j = i
      · subst hji
        rw [Function.update_self]
        exact iff_of_false (fun hnone => nomatch hnone) fun hne => hne.1 rfl
      · rw [Function.update_of_ne hji]
        exact (and_iff_right hji).symm
    rw [hothers]
    by_cases hh : h' = h
    · subst hh
      rw [held_setHeld]
      exact iff_of_false Bool.false_ne_true fun ⟨j, hji, hj⟩ => hji (hl.exclusive j i h' hj hi)
    · rw [cell_setHeld_of_ne false c hh, hl.held h']
      refine exists_congr fun j => ⟨fun hj => ⟨fun hji => hh ?_, hj⟩, fun hj => hj.2⟩
      rw [hji, hi] at hj
      exact (Option.some.inj hj).symm
  exclusive j k h' hj hk := by
    have hother (j : ι) (hj : Function.update inside i none j = some h') : inside j = some h' := by
      by_cases hji : j = i
      · subst hji
        rw [Function.update_self] at hj
        cases hj
      · rw [Function.update_of_ne hji] at hj
        exact hj
    exact hl.exclusive j k h' (hother j hj) (hother k hk)

end Locks

end Testbed.Controller

import Mathlib.Data.List.Forall2

/-!
# Computations that may fail

What is known of the steps of a computation when its outcome is known: all of them succeeded, or the
first that did not gave its error.

The lemmas are stated for lists of any steps, since reading a configuration, planning an update and
closing a project are such lists, and what matters about each of them is the same: an error comes
from a step before which all went well, and without one every step has its result.
-/

namespace Testbed

variable {ε α β : Type}

theorem toOption_eq_some_iff {x : Except ε α} {a : α} : x.toOption = some a ↔ x = .ok a := by
  cases x <;> simp [Except.toOption]

/-- A computation that passes a test has a result. It turns a test that can be evaluated into the
result that it was made on. -/
theorem exists_ok_of_any {x : Except ε α} {p : α → Bool} (h : x.toOption.any p = true) :
    ∃ a, x = .ok a ∧ p a = true := by
  cases x with
  | error e => cases h
  | ok a => exact ⟨a, rfl, h⟩

/-- What came of two steps came of the first one. Computations are taken apart by it step by step,
without looking into them. -/
theorem bind_eq_ok {x : Except ε α} {f : α → Except ε β} {b : β} (h : (x >>= f) = .ok b) :
    ∃ a, x = .ok a ∧ f a = .ok b := by
  cases x with
  | error e => cases h
  | ok a => exact ⟨a, rfl, h⟩

/-- The error of two steps is that of the first, or that of the second after it. In the second case
the first step has had a result, which is often needed. -/
theorem bind_eq_error {x : Except ε α} {f : α → Except ε β} {e : ε} (h : (x >>= f) = .error e) :
    x = .error e ∨ ∃ a, x = .ok a ∧ f a = .error e := by
  cases x with
  | error e' =>
    cases h
    exact .inl rfl
  | ok a => exact .inr ⟨a, rfl, h⟩

variable {f : α → Except ε β} {l : List α}

/-- A sequence of steps that succeeds has one result for each. They stand in the order of the list.
-/
theorem forall₂_of_mapM {bs : List β} (h : l.mapM f = .ok bs) :
    List.Forall₂ (fun a b => f a = .ok b) l bs := by
  induction l generalizing bs with
  | nil =>
    cases h
    exact .nil
  | cons a l ih =>
    rw [List.mapM_cons] at h
    obtain ⟨b, ha, h⟩ := bind_eq_ok h
    obtain ⟨rest, hl, h⟩ := bind_eq_ok h
    cases h
    exact .cons ha (ih hl)

/-- One that fails has a step that fails in this way. It is the first such step, but nobody needs to
know that. -/
theorem exists_mem_of_mapM_eq_error {e : ε} (h : l.mapM f = .error e) :
    ∃ a ∈ l, f a = .error e := by
  induction l with
  | nil => cases h
  | cons a l ih =>
    rw [List.mapM_cons] at h
    obtain ha | ⟨b, -, h⟩ := bind_eq_error h
    · exact ⟨a, List.mem_cons_self, ha⟩
    · obtain hl | ⟨rest, -, h⟩ := bind_eq_error h
      · obtain ⟨a', hmem, ha'⟩ := ih hl
        exact ⟨a', List.mem_cons_of_mem _ hmem, ha'⟩
      · cases h

end Testbed

import Testbed.Proofs.Process.Dialogue

/-!
# Tasks that go on and on

A process comes to an end, whatever happens. A task that does not – one that watches, one that
follows – performs an operation again and again, and each performance is a *lap*. Between two laps
the task is at rest, and it stays so for as long as the next operation cannot take its first step.

What such a task has done by some moment are its laps. Invariants are proved of them as of tasks
side by side: if the operation follows a dialogue that leads from the role at rest to roles in which
it may end, it is enough that what the dialogue allows keeps the invariant, and that the end of a
lap does (`Loop.Stands.turn_keeps`).

A lap that is under way at the end of a run is not on the list, and what it has done so far shows in
the state. So an invariant may have to say something of it, by the role.
-/

namespace Testbed

/-- **A task that performs an operation again and again.** The state at the end of a lap is recorded
because others go on changing it afterwards. -/
structure Loop (σ Q : Type) (R : Q → Type) (α : Type) where
  /-- Where it stands in a lap, unless it is at rest. -/
  current : Option (Crew.Stand σ Q R α) := none
  /-- The laps so far: what each of them gave, and the state at its end. -/
  laps : List (α × σ) := []

namespace Loop

variable {γ σ Q α : Type} {R : Q → Type}

/-- Whether the task is between two laps. Only then can a new lap begin. -/
def resting (l : Loop σ Q R α) : Bool := l.current.isNone

/-- A turn of the task: it goes on with its lap, or begins a new one with an operation. The end of a
lap is noted together with the state at that moment. -/
def turn (l : Loop σ Q R α) (operation : Process σ Q R α) (answer : (q : Q) → R q) (s : σ) :
    Loop σ Q R α × σ :=
  match (l.current.getD (.live operation)).take (.go answer) s with
  | none => (l, s)
  | some (_, s', stand) =>
    match stand.result? with
    | some a => ({ laps := l.laps ++ [(a, s')] }, s')
    | none => ({ l with current := some stand }, s')

/-- A task stands where a dialogue leads it: in a role of its own at rest, and otherwise in the lap
as the dialogue has it. -/
def Stands (D : Dialogue γ σ Q R) (post : γ → α → Prop) (rest g : γ) (l : Loop σ Q R α) : Prop :=
  match l.current with
  | none => g = rest
  | some stand => stand.Follows D post g

variable {D : Dialogue γ σ Q R} {post : γ → α → Prop} {rest g : γ} {l : Loop σ Q R α}
  {operation : Process σ Q R α} {s : σ}

/-- A task that is at rest is in the role for that. The converse need not hold. -/
theorem Stands.of_resting (h : l.Stands D post rest g) (hresting : l.resting = true) :
    g = rest := by
  unfold Stands at h
  unfold resting at hresting
  rwa [Option.isNone_iff_eq_none.mp hresting] at h

/-- Where the task goes on, whether it begins a lap or is in one. The two cases are those of `turn`.
-/
theorem Stands.follows (hoperation : operation.Follows D post rest) (h : l.Stands D post rest g) :
    (l.current.getD (.live operation)).Follows D post g := by
  unfold Stands at h
  cases hcurrent : l.current with
  | none =>
    rw [hcurrent] at h
    obtain rfl : g = rest := h
    exact hoperation
  | some stand =>
    rw [hcurrent] at h
    exact h

/-- **A turn keeps an invariant** of the state, the laps and the role that everything in the
dialogue keeps, and the end of a lap too. Of the operation nothing has to be known except its
dialogue. The end of a lap takes no turn of its own: it is the moment after the last step of the
operation. -/
theorem Stands.turn_keeps (Inv : σ → List (α × σ) → γ → Prop)
    (hknows : ∀ s laps g, Inv s laps g → D.knows g s)
    (hadvances : ∀ s laps g happening s' g', Inv s laps g →
      Crew.Advances (fun _ _ => True) D g s happening s' g' → Inv s' laps g')
    (hends : ∀ s laps g a, Inv s laps g → post g a → Inv s (laps ++ [(a, s)]) rest)
    (hoperation : operation.Follows D post rest) (h : l.Stands D post rest g)
    (hinv : Inv s l.laps g) (answer : (q : Q) → R q) :
    ∃ g', Inv (l.turn operation answer s).2 (l.turn operation answer s).1.laps g'
      ∧ (l.turn operation answer s).1.Stands D post rest g' := by
  unfold turn
  cases htake : (l.current.getD (.live operation)).take (.go answer) s with
  | none => exact ⟨g, hinv, h⟩
  | some taken =>
    obtain ⟨happening, s', stand⟩ := taken
    obtain ⟨g', hadvance, hstand⟩ :=
      (h.follows hoperation).take (hknows s l.laps g hinv) (Crew.Turn.goes_patient rfl) htake
    have hinv' := hadvances s l.laps g happening s' g' hinv hadvance
    cases hresult : stand.result? with
    | none =>
      simp only [hresult]
      exact ⟨g', hinv', hstand⟩
    | some a =>
      simp only [hresult]
      obtain ⟨b, hb, hpost⟩ := hstand.of_ended (Crew.ended_of_result hresult)
      obtain rfl := Option.some.inj (hresult.symm.trans hb)
      exact ⟨rest, hends s' l.laps g' a hinv' hpost, rfl⟩

end Loop

end Testbed

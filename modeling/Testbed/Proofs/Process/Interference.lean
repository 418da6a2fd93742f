import Testbed.Proofs.Process.Transcript

/-!
# Others at work elsewhere

`Process.Settles` is about a process that has the state to itself. Seldom has one: others have their
turns between its steps. `Process.Amid` says that a process ends all the same, whatever others do
that keeps to a relation.

What stands between the two is what the process heeds. If it looks at a part of the state only, and
the others leave that part alone, it might as well have had all of the state to itself
(`Settles.amid`). What a process heeds is read off how it is put together; a process that was made
for the part heeds nothing else (`heeds_zoom`).

That others leave a part alone is a relation on states, the equality of a view. It has to be kept by
the others only: the process itself may change the part, and then what the others leave alone is the
part as the process has left it. So nothing is assumed of them between two steps except that they
change nothing that the process has to do with.
-/

namespace Testbed.Process

variable {σ τ ν Q α β : Type} {R : Q → Type} {p : Process σ Q R α}

/-- **A process ends amid others**, who have their turns before each of its steps and at its end and
change the state as they may. It asks nothing, is never kept waiting, and ends with a result and in
states of which `post` holds. The last turn of the others comes after the end, so `post` speaks of a
state that they may have changed in the meantime. -/
def Amid (others : σ → σ → Prop) : Process σ Q R α → σ → (α → σ → Prop) → Prop
  | done a, s, post => ∀ s', others s s' → post a s'
  | step ready update next _, s, post =>
    ∀ s', others s s' → ready s' = true ∧ (next s').Amid others (update s') post
  | ask .., _, _ => False

/-- What is asked of the end may be weakened. The others are the same. -/
theorem Amid.mono {others : σ → σ → Prop} {s : σ} {post post' : α → σ → Prop}
    (h : p.Amid others s post) (hpost : ∀ a s, post a s → post' a s) : p.Amid others s post' := by
  induction p generalizing s with
  | done a => exact fun s' hs' => hpost a s' (h s' hs')
  | step ready update next abandon ih =>
    intro s' hs'
    obtain ⟨hready, hnext⟩ := h s' hs'
    exact ⟨hready, ih s' hnext⟩
  | ask question next abandon ih => exact h

/-- **A process heeds a view of the state only**: where that is the same, it is as ready, goes on in
the same way and makes the view the same again. What it asks does not matter, and neither does being
given up. -/
def Heeds (view : σ → ν) : Process σ Q R α → Prop
  | done _ => True
  | step ready update next _ =>
    (∀ s s', view s' = view s →
        ready s' = ready s ∧ next s' = next s ∧ view (update s') = view (update s))
      ∧ ∀ s, (next s).Heeds view
  | ask _ next _ => ∀ r, (next r).Heeds view

section Heeds

variable {view : σ → ν}

/-- **Others at work elsewhere might as well be away.** By induction over the process. At each step
the others have left the view as it was, so the step is possible and does to the view what it would
have done. -/
theorem Settles.amid (hp : p.Heeds view) {s s' : σ} {a : α} (h : p.Settles s a s') {t : σ}
    (ht : view t = view s) :
    p.Amid (fun t t' => view t' = view t) t fun b t' => b = a ∧ view t' = view s' := by
  induction p generalizing s t with
  | done b =>
    cases h
    exact fun t' ht' => ⟨rfl, ht'.trans ht⟩
  | step ready update next abandon ih =>
    intro t' ht'
    obtain ⟨hstep, hnext⟩ := hp
    obtain ⟨hready, hrest⟩ := h
    obtain ⟨hready', hnext', hview⟩ := hstep s t' (ht'.trans ht)
    rw [hready', hnext']
    exact ⟨hready, ih s (hnext s) hrest hview⟩
  | ask question next abandon ih => cases h.2

theorem heeds_bind {f : α → Process σ Q R β} (hp : p.Heeds view) (hf : ∀ a, (f a).Heeds view) :
    (p.bind f).Heeds view := by
  induction p with
  | done a => exact hf a
  | step ready update next abandon ih =>
    obtain ⟨hstep, hnext⟩ := hp
    refine ⟨fun s s' hs => ?_, fun s => ih s (hnext s)⟩
    obtain ⟨hready, hnext', hview⟩ := hstep s s' hs
    exact ⟨hready, congrArg (fun p => p.bind f) hnext', hview⟩
  | ask question next abandon ih => exact fun r => ih r (hp r)

theorem heeds_onAbandon (cleanup : σ → σ) (hp : p.Heeds view) :
    (p.onAbandon cleanup).Heeds view := by
  induction p with
  | done a => trivial
  | step ready update next abandon ih =>
    obtain ⟨hstep, hnext⟩ := hp
    refine ⟨fun s s' hs => ?_, fun s => ih s (hnext s)⟩
    obtain ⟨hready, hnext', hview⟩ := hstep s s' hs
    exact ⟨hready, congrArg (fun p => p.onAbandon cleanup) hnext', hview⟩
  | ask question next abandon ih => exact fun r => ih r (hp r)

/-- A single step heeds what its guard, its result and its change heed. What the others change
besides may be anything. -/
theorem heeds_whenReady {ready : σ → Bool} {f : σ → α × σ}
    (h : ∀ s s', view s' = view s →
      ready s' = ready s ∧ (f s').1 = (f s).1 ∧ view (f s').2 = view (f s).2) :
    (whenReady ready f : Process σ Q R α).Heeds view := by
  refine ⟨fun s s' hs => ?_, fun _ => trivial⟩
  obtain ⟨hready, hresult, hview⟩ := h s s' hs
  exact ⟨hready, congrArg done hresult, hview⟩

/-- **A process on a part of a larger state** heeds any view that shows the part. The process itself
is arbitrary, because all it can see is the part. -/
theorem heeds_zoom {view : τ → ν} {get : τ → σ} {set : σ → τ → τ}
    (hget : ∀ t t', view t' = view t → get t' = get t)
    (hset : ∀ s t t', view t' = view t → view (set s t') = view (set s t))
    (p : Process σ Q R α) : (p.zoom get set).Heeds view := by
  induction p with
  | done a => trivial
  | step ready update next abandon ih =>
    refine ⟨fun t t' ht => ?_, fun t => ih (get t)⟩
    dsimp only
    rw [hget t t' ht]
    exact ⟨rfl, rfl, hset _ t t' ht⟩
  | ask question next abandon ih => exact fun r => ih r

end Heeds

end Testbed.Process

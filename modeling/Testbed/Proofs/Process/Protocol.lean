import Testbed.Process

/-!
# Protocols

Processes on shared state are reasoned about one at a time if it is settled beforehand what each of
them may do. A *protocol* settles it by roles: in a role a process knows something of the state, may
take certain steps, which may give it another role, and may put certain questions. `Process.Obeys`
says of a process that it keeps to a protocol, by recursion on the process. What a process knows is
all it may assume of the state at each of its steps, because others have had their turns since its
last one.

Obedience passes through the ways in which processes are put together (`obeys_bind`,
`Obeys.onAbandon`, `Obeys.zoom`, `Obeys.handle`). That many processes that obey can be run side by
side is the matter of `Testbed.Proofs.Process.Crew`.

A protocol allows more than a process does, and that is its use. What is proved of everything that
is allowed holds of any number of processes that obey, whatever they are for, and has to be proved
once.
-/

namespace Testbed

/-- **What a process may do**, by the role it plays. The roles are a means of proof: they are not
part of the state, and no process can see its own. -/
structure Protocol (γ σ Q : Type) where
  /-- What a process in a role knows of the state. -/
  knows : γ → σ → Prop
  /-- The steps in a role, and the role after each of them. -/
  moves : γ → σ → σ → γ → Prop
  /-- The questions in a role. -/
  puts : γ → Q → Prop
  /-- What being abandoned in a role does, and the role after it. -/
  quits : γ → σ → σ → γ → Prop

namespace Process

variable {γ σ τ Q Q' α β : Type} {R : Q → Type} {R' : Q' → Type}

/-- **A process obeys a protocol in a role**, and ends in a role and with a result of which `post`
holds. A step may be taken in any state in which the process knows what its role says it knows, and
not only in the one that it left behind. -/
def Obeys (T : Protocol γ σ Q) (post : γ → α → Prop) : γ → Process σ Q R α → Prop
  | g, done a => post g a
  | g, step ready update next abandon =>
    (∀ s, T.knows g s → ready s = true → ∃ g', T.moves g s (update s) g' ∧ Obeys T post g' (next s))
      ∧ ∀ s, T.knows g s → ∃ g', T.quits g s (abandon s) g'
  | g, ask question next abandon =>
    T.puts g question ∧ (∀ r, Obeys T post g (next r))
      ∧ ∀ s, T.knows g s → ∃ g', T.quits g s (abandon s) g'

variable {T : Protocol γ σ Q} {post post' : γ → α → Prop} {g : γ} {p : Process σ Q R α}

/-- What is asked of the end may be weakened. The roles in between are the same. -/
theorem Obeys.mono (h : p.Obeys T post g) (hpost : ∀ g a, post g a → post' g a) :
    p.Obeys T post' g := by
  induction p generalizing g with
  | done a => exact hpost g a h
  | step ready update next abandon ih =>
    obtain ⟨hstep, hquit⟩ := h
    refine ⟨fun s hs hready => ?_, hquit⟩
    obtain ⟨g', hmove, hnext⟩ := hstep s hs hready
    exact ⟨g', hmove, ih s hnext⟩
  | ask question next abandon ih =>
    obtain ⟨hput, hnext, hquit⟩ := h
    exact ⟨hput, fun r => ih r (hnext r), hquit⟩

/-- **One process after another**: the second obeys in the role in which the first one ends. It is
an equivalence, so a process can be taken apart and put together. -/
theorem obeys_bind {f : α → Process σ Q R β} {post : γ → β → Prop} :
    (p.bind f).Obeys T post g ↔ p.Obeys T (fun g a => (f a).Obeys T post g) g := by
  induction p generalizing g with
  | done a => exact Iff.rfl
  | step ready update next abandon ih =>
    refine and_congr ?_ Iff.rfl
    refine forall_congr' fun s => imp_congr_right fun _ => imp_congr_right fun _ => ?_
    exact exists_congr fun g' => and_congr Iff.rfl (ih s)
  | ask question next abandon ih =>
    exact and_congr Iff.rfl (and_congr (forall_congr' fun r => ih r) Iff.rfl)

/-- One operation that can fail after another: an error of the first ends both. It is the lemma
before, with the case of an error added. -/
theorem obeys_andThen {ε : Type} {x : ExceptT ε (Process σ Q R) α}
    {f : α → ExceptT ε (Process σ Q R) β} {post : γ → Except ε β → Prop} :
    (x >>= f).run.Obeys T post g ↔ x.run.Obeys T (fun g result =>
      match result with
      | .ok a => (f a).run.Obeys T post g
      | .error e => post g (.error e)) g := by
  refine obeys_bind.trans ⟨fun h => h.mono ?_, fun h => h.mono ?_⟩
  · rintro g (e | a) h
    · exact h
    · exact h
  · rintro g (e | a) h
    · exact h
    · exact h

/-- A process that stays in one role of a protocol obeys another protocol that allows as much in a
role of its own. -/
theorem Obeys.embed {δ : Type} {T' : Protocol δ σ Q} {post' : δ → α → Prop} {d : δ}
    (hknows : ∀ s, T'.knows d s → T.knows g s)
    (hmoves : ∀ s s' g', T'.knows d s → T.moves g s s' g' → g' = g ∧ T'.moves d s s' d)
    (hputs : ∀ question, T.puts g question → T'.puts d question)
    (hquits : ∀ s s' g', T'.knows d s → T.quits g s s' g' → ∃ d', T'.quits d s s' d')
    (hpost : ∀ a, post g a → post' d a) (h : p.Obeys T post g) : p.Obeys T' post' d := by
  induction p with
  | done a => exact hpost a h
  | step ready update next abandon ih =>
    obtain ⟨hstep, hquit⟩ := h
    refine ⟨fun s hs hready => ?_, fun s hs => ?_⟩
    · obtain ⟨g', hmove, hnext⟩ := hstep s (hknows s hs) hready
      obtain ⟨rfl, hmove'⟩ := hmoves s _ g' hs hmove
      exact ⟨d, hmove', ih s hnext⟩
    · obtain ⟨g', hq⟩ := hquit s (hknows s hs)
      exact hquits s _ g' hs hq
  | ask question next abandon ih =>
    obtain ⟨hput, hnext, hquit⟩ := h
    refine ⟨hputs question hput, fun r => ih r (hnext r), fun s hs => ?_⟩
    obtain ⟨g', hq⟩ := hquit s (hknows s hs)
    exact hquits s _ g' hs hq

end Process

namespace Protocol

variable {γ σ τ Q : Type}

/-- The protocol of processes that give something up when they are abandoned. Only the steps of
giving up are others. -/
def onAbandon (cleanup : σ → σ) (T : Protocol γ σ Q) : Protocol γ σ Q :=
  { T with quits := fun g s s' g' => T.quits g s (cleanup s') g' }

/-- The protocol of processes on a part of a larger state. What is outside of the part is neither
known nor moved. -/
def zoom (get : τ → σ) (set : σ → τ → τ) (T : Protocol γ σ Q) : Protocol γ τ Q where
  knows g t := T.knows g (get t)
  moves g t t' g' := ∃ s', T.moves g (get t) s' g' ∧ t' = set s' t
  puts := T.puts
  quits g t t' g' := ∃ s', T.quits g (get t) s' g' ∧ t' = set s' t

end Protocol

namespace Process

variable {γ σ τ Q Q' α β : Type} {R : Q → Type} {R' : Q' → Type}
  {T : Protocol γ σ Q} {post : γ → α → Prop} {g : γ} {p : Process σ Q R α}

/-- A process with a cleanup obeys if it obeys with the cleanup taken into account. The cleanup
comes after whatever the process itself does when it is abandoned. -/
theorem Obeys.onAbandon {cleanup : σ → σ} (h : p.Obeys (T.onAbandon cleanup) post g) :
    (p.onAbandon cleanup).Obeys T post g := by
  induction p generalizing g with
  | done a => exact h
  | step ready update next abandon ih =>
    obtain ⟨hstep, hquit⟩ := h
    refine ⟨fun s hs hready => ?_, hquit⟩
    obtain ⟨g', hmove, hnext⟩ := hstep s hs hready
    exact ⟨g', hmove, ih s hnext⟩
  | ask question next abandon ih =>
    obtain ⟨hput, hnext, hquit⟩ := h
    exact ⟨hput, fun r => ih r (hnext r), hquit⟩

/-- A process obeys on a larger state what it obeys on its part of it. This needs nothing of how the
part is read and written. -/
theorem Obeys.zoom (get : τ → σ) (set : σ → τ → τ) (h : p.Obeys T post g) :
    (p.zoom get set).Obeys (T.zoom get set) post g := by
  induction p generalizing g with
  | done a => exact h
  | step ready update next abandon ih =>
    obtain ⟨hstep, hquit⟩ := h
    refine ⟨fun t ht hready => ?_, fun t ht => ?_⟩
    · obtain ⟨g', hmove, hnext⟩ := hstep (get t) ht hready
      exact ⟨g', ⟨_, hmove, rfl⟩, ih (get t) hnext⟩
    · obtain ⟨g', hq⟩ := hquit (get t) ht
      exact ⟨g', _, hq, rfl⟩
  | ask question next abandon ih =>
    obtain ⟨hput, hnext, hquit⟩ := h
    refine ⟨hput, fun r => ih r (hnext r), fun t ht => ?_⟩
    obtain ⟨g', hq⟩ := hquit (get t) ht
    exact ⟨g', _, hq, rfl⟩

/-- **A process whose questions are answered by processes** obeys if these obey in the role of the
question and leave it. -/
theorem Obeys.handle {T' : Protocol γ σ Q'} {answer : (question : Q) → Process σ Q' R' (R question)}
    (hknows : ∀ g s, T'.knows g s → T.knows g s)
    (hmoves : ∀ g s s' g', T'.knows g s → T.moves g s s' g' → T'.moves g s s' g')
    (hquits : ∀ g s s' g', T'.knows g s → T.quits g s s' g' → T'.quits g s s' g')
    (hanswer : ∀ g question abandon, T.puts g question →
      (∀ s, T.knows g s → ∃ g', T.quits g s (abandon s) g') →
      ((answer question).onAbandon abandon).Obeys T' (fun g' _ => g' = g) g)
    (h : p.Obeys T post g) : (p.handle answer).Obeys T' post g := by
  induction p generalizing g with
  | done a => exact h
  | step ready update next abandon ih =>
    obtain ⟨hstep, hquit⟩ := h
    refine ⟨fun s hs hready => ?_, fun s hs => ?_⟩
    · obtain ⟨g', hmove, hnext⟩ := hstep s (hknows g s hs) hready
      exact ⟨g', hmoves g s _ g' hs hmove, ih s hnext⟩
    · obtain ⟨g', hq⟩ := hquit s (hknows g s hs)
      exact ⟨g', hquits g s _ g' hs hq⟩
  | ask question next abandon ih =>
    obtain ⟨hput, hnext, hquit⟩ := h
    -- the answering process leaves the role of the question, where the rest goes on
    refine obeys_bind.mpr ((hanswer g question abandon hput hquit).mono ?_)
    rintro _ r rfl
    exact ih r (hnext r)

end Process

end Testbed

import Testbed.Proofs.Process.Crew
import Testbed.Proofs.Process.Transcript

/-!
# Dialogues

A protocol says what a process may do in a role, but its roles do not learn anything from an answer.
For what an operation achieves, as opposed to what it may do, the answers matter. A *dialogue* has
roles that change at every happening: when a question is put, when it is answered, when a step is
taken. A role can thus be the operation's own history, and what a process is to achieve can be said
of it.

In exchange a dialogue says nothing about being abandoned. Its crews are those of *patient*
schedules, in which every task is left alone until it is done. `Crew.run_keeps` is the counterpart
of `Crew.run_invariant` for them.
-/

namespace Testbed

/-- **What a process does and learns**, by the role it plays. In contrast to a protocol, questions
and answers may change the role. -/
structure Dialogue (γ σ Q : Type) (R : Q → Type) where
  /-- What a process in a role knows of the state. -/
  knows : γ → σ → Prop
  /-- The steps in a role, and the role after each of them. -/
  moves : γ → σ → σ → γ → Prop
  /-- The questions in a role, and the role while one is open. -/
  asks : γ → Q → γ → Prop
  /-- The role after an answer. -/
  hears : γ → (question : Q) → R question → γ → Prop

namespace Process

variable {γ σ τ Q α β : Type} {R : Q → Type}

/-- **A process follows a dialogue from a role**, and ends in a role and with a result of which
`post` holds. Of the end, `post` holds whatever the answers were that led there. -/
def Follows (D : Dialogue γ σ Q R) (post : γ → α → Prop) : γ → Process σ Q R α → Prop
  | g, done a => post g a
  | g, step ready update next _ =>
    ∀ s, D.knows g s → ready s = true →
      ∃ g', D.moves g s (update s) g' ∧ Follows D post g' (next s)
  | g, ask question next _ =>
    ∃ g', D.asks g question g' ∧
      ∀ r, ∃ g'', D.hears g' question r g'' ∧ Follows D post g'' (next r)

variable {D : Dialogue γ σ Q R} {post post' : γ → α → Prop} {g : γ} {p : Process σ Q R α}

/-- What is asked of the end may be weakened. The roles in between are the same. -/
theorem Follows.mono (h : p.Follows D post g) (hpost : ∀ g a, post g a → post' g a) :
    p.Follows D post' g := by
  induction p generalizing g with
  | done a => exact hpost g a h
  | step ready update next abandon ih =>
    intro s hs hready
    obtain ⟨g', hmove, hnext⟩ := h s hs hready
    exact ⟨g', hmove, ih s hnext⟩
  | ask question next abandon ih =>
    obtain ⟨g', hasks, hnext⟩ := h
    refine ⟨g', hasks, fun r => ?_⟩
    obtain ⟨g'', hhears, hnext⟩ := hnext r
    exact ⟨g'', hhears, ih r hnext⟩

/-- **One process after another**: the second follows from the role in which the first one ends. It
is an equivalence, so a process can be taken apart and put together. -/
theorem follows_bind {f : α → Process σ Q R β} {post : γ → β → Prop} :
    (p.bind f).Follows D post g ↔ p.Follows D (fun g a => (f a).Follows D post g) g := by
  induction p generalizing g with
  | done a => exact Iff.rfl
  | step ready update next abandon ih =>
    refine forall_congr' fun s => imp_congr_right fun _ => imp_congr_right fun _ => ?_
    exact exists_congr fun g' => and_congr Iff.rfl (ih s)
  | ask question next abandon ih =>
    refine exists_congr fun g' => and_congr Iff.rfl (forall_congr' fun r => ?_)
    exact exists_congr fun g'' => and_congr Iff.rfl (ih r)

/-- One operation that can fail after another: an error of the first ends both. It is the lemma
before, with the case of an error added. -/
theorem follows_andThen {ε : Type} {x : ExceptT ε (Process σ Q R) α}
    {f : α → ExceptT ε (Process σ Q R) β} {post : γ → Except ε β → Prop} :
    (x >>= f).run.Follows D post g ↔ x.run.Follows D (fun g result =>
      match result with
      | .ok a => (f a).run.Follows D post g
      | .error e => post g (.error e)) g := by
  refine follows_bind.trans ⟨fun h => h.mono ?_, fun h => h.mono ?_⟩
  · rintro g (e | a) h
    · exact h
    · exact h
  · rintro g (e | a) h
    · exact h
    · exact h

/-- **A process that has the state to itself** keeps what every step of its dialogue keeps. It asks
nothing, so no other task comes in between. -/
theorem Follows.of_settles (Inv : γ → σ → Prop) {s s' : σ} {a : α}
    (hknows : ∀ g s, Inv g s → D.knows g s)
    (hmoves : ∀ g s s' g', Inv g s → D.moves g s s' g' → Inv g' s') (h : p.Follows D post g)
    (hinv : Inv g s) (hsettles : p.Settles s a s') : ∃ g', Inv g' s' ∧ post g' a := by
  induction p generalizing g s with
  | done b =>
    cases hsettles
    exact ⟨g, hinv, h⟩
  | step ready update next abandon ih =>
    obtain ⟨hready, hnext⟩ := hsettles
    obtain ⟨g', hmove, hrest⟩ := h s (hknows g s hinv) hready
    exact ih s hrest (hmoves g s _ g' hinv hmove) hnext
  | ask question next abandon ih =>
    obtain ⟨-, hdropped⟩ := hsettles
    cases hdropped

/-- What a process does on being abandoned is of no matter to a dialogue. Dialogues are about tasks
that go on. -/
theorem Follows.onAbandon (cleanup : σ → σ) (h : p.Follows D post g) :
    (p.onAbandon cleanup).Follows D post g := by
  induction p generalizing g with
  | done a => exact h
  | step ready update next abandon ih =>
    intro s hs hready
    obtain ⟨g', hmove, hnext⟩ := h s hs hready
    exact ⟨g', hmove, ih s hnext⟩
  | ask question next abandon ih =>
    obtain ⟨g', hasks, hnext⟩ := h
    refine ⟨g', hasks, fun r => ?_⟩
    obtain ⟨g'', hhears, hnext⟩ := hnext r
    exact ⟨g'', hhears, ih r hnext⟩

/-- **A dialogue inside another one**: each role of the inner is one of the outer, which knows as
much in it and allows as much. So what is known of a part of an operation can be used in the
dialogue of the whole. -/
theorem Follows.embed {δ : Type} {D' : Dialogue δ σ Q R} {post' : δ → α → Prop} (f : γ → δ)
    (hknows : ∀ g s, D'.knows (f g) s → D.knows g s)
    (hmoves : ∀ g s s' g', D'.knows (f g) s → D.moves g s s' g' → D'.moves (f g) s s' (f g'))
    (hasks : ∀ g question g', D.asks g question g' → D'.asks (f g) question (f g'))
    (hhears : ∀ g question r g', D.hears g question r g' → D'.hears (f g) question r (f g'))
    (hpost : ∀ g a, post g a → post' (f g) a) (h : p.Follows D post g) :
    p.Follows D' post' (f g) := by
  induction p generalizing g with
  | done a => exact hpost g a h
  | step ready update next abandon ih =>
    intro s hs hready
    obtain ⟨g', hmove, hnext⟩ := h s (hknows g s hs) hready
    exact ⟨f g', hmoves g s _ g' hs hmove, ih s hnext⟩
  | ask question next abandon ih =>
    obtain ⟨g', hask, hnext⟩ := h
    refine ⟨f g', hasks g question g' hask, fun r => ?_⟩
    obtain ⟨g'', hhear, hnext⟩ := hnext r
    exact ⟨f g'', hhears g' question r g'' hhear, ih r hnext⟩

end Process

namespace Crew

variable {ι γ σ Q : Type} {R : Q → Type} {α : ι → Type}

/-- A task stands where a dialogue leads it. An abandoned task follows nowhere. -/
def Stand.Follows {α : Type} (D : Dialogue γ σ Q R) (post : γ → α → Prop) (g : γ) :
    Stand σ Q R α → Prop
  | live p => p.Follows D post g
  | asked question next _ =>
    ∀ r, ∃ g', D.hears g question r g' ∧ (next r).Follows D post g'
  | abandoned => False

theorem ended_of_result {α : Type} {stand : Stand σ Q R α} {a : α} (h : stand.result? = some a) :
    stand.ended = true := by
  unfold Stand.result? at h
  split at h
  · rfl
  · cases h

/-- A task that has ended in a dialogue has a result, as the dialogue has it. It cannot have been
abandoned. -/
theorem Stand.Follows.of_ended {α : Type} {D : Dialogue γ σ Q R} {post : γ → α → Prop} {g : γ}
    {stand : Stand σ Q R α} (h : stand.Follows D post g) (hended : stand.ended = true) :
    ∃ a, stand.result? = some a ∧ post g a := by
  cases stand with
  | live p =>
    cases p with
    | done a => exact ⟨a, rfl, h⟩
    | step ready update next abandon => cases hended
    | ask question next abandon => cases hended
  | asked question next abandon => cases hended
  | abandoned => exact h.elim

/-- **What happens in a dialogue**, with answers of which `told` holds: from the role and the state
before to those after. `told` is what is known of the answers, for example that they are given by a
function. -/
inductive Advances (told : (question : Q) → R question → Prop) (D : Dialogue γ σ Q R) :
    γ → σ → Happening σ Q R → σ → γ → Prop
  | moved {g g' : γ} {s s' : σ} (h : D.moves g s s' g') :
      Advances told D g s (.moved s s') s' g'
  | put {g g' : γ} {s : σ} {question : Q} (h : D.asks g question g') :
      Advances told D g s (.put question) s g'
  | answered {g g' : γ} {s : σ} {question : Q} {answer : R question} (ht : told question answer)
      (h : D.hears g question answer g') : Advances told D g s (.answered question answer) s g'

/-- A turn at which a task goes on, with an answer of which `told` holds if it needs one. A turn at
which it is to be given up is none. -/
def Turn.Patient (told : (question : Q) → R question → Prop) : Turn Q R → Prop
  | go answer => ∀ question, told question (answer question)
  | quit => False

/-- **A patient turn of a task is one of its dialogue**, and the task goes on in it. What the
process may do next is told by the dialogue, for this answer as for any other. -/
theorem Stand.Follows.take {α : Type} {told : (question : Q) → R question → Prop}
    {D : Dialogue γ σ Q R} {post : γ → α → Prop} {g : γ} {stand stand' : Stand σ Q R α}
    (h : stand.Follows D post g) {s s' : σ} (hs : D.knows g s) {t : Turn Q R} (ht : t.Patient told)
    {happening : Happening σ Q R} (htake : stand.take t s = some (happening, s', stand')) :
    ∃ g', Advances told D g s happening s' g' ∧ stand'.Follows D post g' := by
  cases t with
  | quit => exact ht.elim
  | go answer =>
    cases stand with
    | abandoned => exact h.elim
    | asked question next abandon =>
      cases htake
      obtain ⟨g', hhears, hnext⟩ := h (answer question)
      exact ⟨g', .answered (ht question) hhears, hnext⟩
    | live p =>
      cases p with
      | done a => cases htake
      | ask question next abandon =>
        cases htake
        obtain ⟨g', hasks, hnext⟩ := h
        exact ⟨g', .put hasks, hnext⟩
      | step ready update next abandon =>
        have htake' : (if ready s then some (Happening.moved s (update s), update s, live (next s))
          else none) = some (happening, s', stand') := htake
        by_cases hready : ready s = true
        · rw [if_pos hready] at htake'
          cases htake'
          obtain ⟨g', hmove, hnext⟩ := h s hs hready
          exact ⟨g', .moved hmove, hnext⟩
        · rw [if_neg hready] at htake'
          cases htake'

section Keeps

variable [DecidableEq ι] {told : (question : Q) → R question → Prop} (D : ι → Dialogue γ σ Q R)
  (post : (i : ι) → γ → α i → Prop) (Inv : σ → List (ι × Happening σ Q R) → (ι → γ) → Prop)
  {crew : Crew ι σ Q R α} {role : ι → γ}

/-- A patient turn keeps an invariant that everything in the dialogues keeps. It is the lemma on
protocols, for dialogues. -/
theorem turn_keeps (hknows : ∀ i, (D i).knows (role i) crew.state)
    (hkeeps : ∀ i happening s' g', Advances told (D i) (role i) crew.state happening s' g' →
      Inv s' (crew.log ++ [(i, happening)]) (Function.update role i g'))
    (hinv : Inv crew.state crew.log role)
    (hfollows : ∀ i, (crew.stand i).Follows (D i) (post i) (role i)) (i : ι) {t : Turn Q R}
    (ht : t.Patient told) :
    ∃ role, Inv (crew.turn i t).state (crew.turn i t).log role
      ∧ ∀ j, ((crew.turn i t).stand j).Follows (D j) (post j) (role j) := by
  cases htake : (crew.stand i).take t crew.state with
  | none =>
    rw [turn_none htake]
    exact ⟨role, hinv, hfollows⟩
  | some taken =>
    obtain ⟨happening, s', stand⟩ := taken
    rw [turn_some htake]
    obtain ⟨g', hadvances, hstand⟩ := (hfollows i).take (hknows i) ht htake
    refine ⟨Function.update role i g', hkeeps i happening s' g' hadvances, fun j => ?_⟩
    -- only the task whose turn it was stands elsewhere
    show Stand.Follows _ _ _ (Function.update crew.stand i stand j)
    by_cases hj : j = i
    · subst hj
      rw [Function.update_self, Function.update_self]
      exact hstand
    · rw [Function.update_of_ne hj, Function.update_of_ne hj]
      exact hfollows j

/-- **Invariants of patient tasks side by side.** If every task follows its dialogue, an invariant
of the state, the log and the roles that gives each task what it knows, and that everything in the
dialogues keeps, holds after any patient schedule. -/
theorem run_keeps
    (hknows : ∀ s log role, Inv s log role → ∀ i, (D i).knows (role i) s)
    (hkeeps : ∀ s log role, Inv s log role → ∀ i happening s' g',
      Advances told (D i) (role i) s happening s' g' →
        Inv s' (log ++ [(i, happening)]) (Function.update role i g'))
    (hinv : Inv crew.state crew.log role)
    (hfollows : ∀ i, (crew.stand i).Follows (D i) (post i) (role i))
    {schedule : List (ι × Turn Q R)} (hpatient : ∀ t ∈ schedule, t.2.Patient told) :
    ∃ role, Inv (crew.run schedule).state (crew.run schedule).log role
      ∧ ∀ i, ((crew.run schedule).stand i).Follows (D i) (post i) (role i) := by
  induction schedule generalizing crew role with
  | nil => exact ⟨role, hinv, hfollows⟩
  | cons t rest ih =>
    obtain ⟨ht, hrest⟩ := List.forall_mem_cons.mp hpatient
    obtain ⟨role', hinv', hfollows'⟩ := turn_keeps D post Inv (hknows _ _ role hinv)
      (hkeeps _ _ role hinv) hinv hfollows t.1 ht
    exact ih hinv' hfollows' hrest

end Keeps

/-! ## Schedules in which nobody is given up

A schedule may tell a task to give up. If in the end nobody has, those turns have done nothing, and
the schedule might have gone without them. -/

section Patience

variable [DecidableEq ι] {crew : Crew ι σ Q R α} {i : ι}

/-- Whether a task is to go on at a turn. What it is told does not matter. -/
def Turn.goes : Turn Q R → Bool
  | go _ => true
  | quit => false

theorem Turn.goes_patient {t : Turn Q R} (h : t.goes = true) : t.Patient fun _ _ => True := by
  cases t with
  | go answer => exact fun _ => trivial
  | quit => cases h

theorem Stand.take_quit {α : Type} {stand stand' : Stand σ Q R α} {s s' : σ}
    {happening : Happening σ Q R} (h : stand.take .quit s = some (happening, s', stand')) :
    stand' = .abandoned := by
  cases stand with
  | abandoned => cases h
  | asked question next abandon =>
    cases h
    rfl
  | live p =>
    cases p with
    | done a => cases h
    | step ready update next abandon | ask question next abandon =>
      cases h
      rfl

theorem Stand.take_abandoned {α : Type} (t : Turn Q R) (s : σ) :
    (abandoned : Stand σ Q R α).take t s = none := by
  cases t with
  | go | quit => rfl

/-- A task that is to be abandoned is abandoned, or has ended before. In the first case nothing
happens. -/
theorem turn_quit (crew : Crew ι σ Q R α) (i : ι) :
    crew.turn i .quit = crew ∨ (crew.turn i .quit).stand i = .abandoned := by
  cases htake : (crew.stand i).take .quit crew.state with
  | none => exact .inl (turn_none htake)
  | some taken =>
    obtain ⟨happening, s', stand⟩ := taken
    rw [turn_some htake]
    exact .inr ((Function.update_self ..).trans (Stand.take_quit htake))

/-- A task stays abandoned. It has no more turns. -/
theorem run_abandoned (h : crew.stand i = .abandoned) (schedule : List (ι × Turn Q R)) :
    (crew.run schedule).stand i = .abandoned := by
  induction schedule generalizing crew with
  | nil => exact h
  | cons t rest ih =>
    refine ih ?_
    show (crew.turn t.1 t.2).stand i = .abandoned
    cases htake : (crew.stand t.1).take t.2 crew.state with
    | none =>
      rw [turn_none htake]
      exact h
    | some taken =>
      obtain ⟨happening, s', stand⟩ := taken
      have hother : i ≠ t.1 := by
        rintro rfl
        rw [h, Stand.take_abandoned] at htake
        cases htake
      rw [turn_some htake]
      exact (Function.update_of_ne hother ..).trans h

/-- **If no task has been abandoned**, none of them might as well have been told to. So statements
on runs of patient turns apply. -/
theorem run_eq_goes {schedule : List (ι × Turn Q R)}
    (h : ∀ i, (crew.run schedule).stand i ≠ .abandoned) :
    crew.run schedule = crew.run (schedule.filter (·.2.goes)) := by
  induction schedule generalizing crew with
  | nil => rfl
  | cons t rest ih =>
    obtain ⟨i, t⟩ := t
    cases t with
    | go answer => exact ih h
    | quit =>
      obtain hsame | habandoned := turn_quit crew i
      · have hrun : crew.run ((i, .quit) :: rest) = crew.run rest :=
          congrArg (fun crew => run crew rest) hsame
        rw [hrun] at h ⊢
        exact ih h
      · exact absurd (run_abandoned habandoned rest) (h i)

end Patience

end Crew

end Testbed

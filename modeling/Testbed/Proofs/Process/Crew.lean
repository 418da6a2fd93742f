import Mathlib.Logic.Function.Basic
import Testbed.Proofs.Process.Protocol

/-!
# Processes side by side

Any number of processes run on one state. A schedule says whose turn it is, turn by turn, and how
the outside answers or that the process is abandoned; it is any list at all, so a statement about
all schedules is one about every interleaving, every sequence of answers and every way of giving
operations up. What the processes did is kept in a log.

Putting a question and getting the answer are turns of their own. Between the two a task *has
asked*: the question is on its way, and others have their turns.

`Crew.run_invariant` is the way to prove something about all of this: if every process obeys a
protocol, it is enough that what the protocols allow keeps an invariant of the state, the log and
the roles. No process occurs in what is left to prove.

That a task is abandoned is a turn like any other. It may come at any time before the task has
ended, also while a question is on its way; then the answer is never heard, and what is left to do
is done in one step on the state.
-/

namespace Testbed.Crew

/-- **Where a task stands.** A task that is abandoned does not come back, and has no result. It is
enough to know where it stands in order to give it its next turn. -/
inductive Stand (σ Q : Type) (R : Q → Type) (α : Type) where
  /-- It goes on with its process, if that is not finished. -/
  | live (p : Process σ Q R α)
  /-- It has put a question. -/
  | asked (question : Q) (next : R question → Process σ Q R α) (abandon : σ → σ)
  /-- It was abandoned. -/
  | abandoned

/-- **What happened at a turn.** Turns at which nothing can be done leave no entry in the log. They
carry the states before and after, so a log can be read without running anything again. -/
inductive Happening (σ Q : Type) (R : Q → Type) where
  /-- A step was taken. -/
  | moved (before after : σ)
  /-- A question was put. -/
  | put (question : Q)
  /-- A question was answered. -/
  | answered (question : Q) (answer : R question)
  /-- The task was abandoned. -/
  | quit (before after : σ)

/-- **A turn**: to go on, with what the outside answers if an answer is waited for, or to be
abandoned. -/
inductive Turn (Q : Type) (R : Q → Type) where
  | go (answer : (question : Q) → R question)
  | quit

namespace Stand

variable {γ σ Q α : Type} {R : Q → Type}

/-- The result of a finished task. A task that waits has none yet. -/
def result? : Stand σ Q R α → Option α
  | live (.done a) => some a
  | _ => none

/-- Whether a task has ended, with a result or without one. It has no more turns. -/
def ended : Stand σ Q R α → Bool
  | live (.done _) | abandoned => true
  | _ => false

/-- The question that a task has put. The answer comes at its next turn. -/
def question? : Stand σ Q R α → Option Q
  | asked question _ _ => some question
  | _ => none

/-- What a turn does. Nothing happens if the task has ended or waits for the state to become
ready. -/
def take : Turn Q R → Stand σ Q R α → σ → Option (Happening σ Q R × σ × Stand σ Q R α)
  | .go _, live (.step ready update next _), s =>
    if ready s then some (.moved s (update s), update s, live (next s)) else none
  | .go _, live (.ask question next abandon), s =>
    some (.put question, s, asked question next abandon)
  | .go answer, asked question next _, s =>
    some (.answered question (answer question), s, live (next (answer question)))
  | .quit, live (.step _ _ _ abandon), s | .quit, live (.ask _ _ abandon), s
  | .quit, asked _ _ abandon, s => some (.quit s (abandon s), abandon s, abandoned)
  | _, live (.done _), _ | _, abandoned, _ => none

end Stand

end Crew

/-- **Tasks side by side.** The tasks may have results of different types. There may be infinitely
many of them; only those that have a turn do anything. -/
structure Crew (ι σ Q : Type) (R : Q → Type) (α : ι → Type) where
  /-- The state. -/
  state : σ
  /-- Where each task stands. -/
  stand : (i : ι) → Crew.Stand σ Q R (α i)
  /-- What happened. -/
  log : List (ι × Crew.Happening σ Q R)

namespace Crew

variable {ι γ σ Q : Type} {R : Q → Type} {α : ι → Type}

/-- Tasks before their first turns. Nothing has happened. -/
def start (s : σ) (task : (i : ι) → Process σ Q R (α i)) : Crew ι σ Q R α :=
  ⟨s, fun i => .live (task i), []⟩

/-- A turn of a task. A turn of a task that has ended, or that has to wait, changes nothing. -/
def turn [DecidableEq ι] (crew : Crew ι σ Q R α) (i : ι) (t : Turn Q R) : Crew ι σ Q R α :=
  match (crew.stand i).take t crew.state with
  | some (happening, s, stand) =>
    ⟨s, Function.update crew.stand i stand, crew.log ++ [(i, happening)]⟩
  | none => crew

/-- **The turns of a schedule**, one after another. It is allowed that a task has no turn at all, or
that it has turns after it has ended, at which nothing happens. -/
def run [DecidableEq ι] (crew : Crew ι σ Q R α) (schedule : List (ι × Turn Q R)) :
    Crew ι σ Q R α :=
  schedule.foldl (fun crew t => crew.turn t.1 t.2) crew

section Turn

variable [DecidableEq ι] {crew : Crew ι σ Q R α} {i : ι} {t : Turn Q R}

theorem turn_none (h : (crew.stand i).take t crew.state = none) : crew.turn i t = crew := by
  unfold turn
  rw [h]

theorem turn_some {happening : Happening σ Q R} {s : σ} {stand : Stand σ Q R (α i)}
    (h : (crew.stand i).take t crew.state = some (happening, s, stand)) :
    crew.turn i t
      = ⟨s, Function.update crew.stand i stand, crew.log ++ [(i, happening)]⟩ := by
  unfold turn
  rw [h]

end Turn

/-! ## Tasks that obey

Each task obeys a protocol of its own, and what all protocols keep is kept by a run. Only what a
step does has to be shown; where it stands in its task is taken care of here. -/

/-- A task stands where a protocol allows it to. Of an abandoned task it is known how it was given
up. -/
def Stand.Obeys {α : Type} (T : Protocol γ σ Q) (post : γ → α → Prop) (g : γ) :
    Stand σ Q R α → Prop
  | live p => p.Obeys T post g
  | asked question next abandon => (Process.ask question next abandon).Obeys T post g
  | abandoned => ∃ g₀ s s', T.quits g₀ s s' g

/-- **What may happen under a protocol**: from the role and the state before to those after. Between
a question and its answer the role stays the same, as nothing is learned from the answer. -/
inductive Happens (T : Protocol γ σ Q) : γ → σ → Happening σ Q R → σ → γ → Prop
  | moved {g g' : γ} {s s' : σ} (h : T.moves g s s' g') : Happens T g s (.moved s s') s' g'
  | put {g : γ} {s : σ} {question : Q} (h : T.puts g question) :
      Happens T g s (.put question) s g
  | answered {g : γ} {s : σ} {question : Q} (answer : R question) (h : T.puts g question) :
      Happens T g s (.answered question answer) s g
  | quit {g g' : γ} {s s' : σ} (h : T.quits g s s' g') : Happens T g s (.quit s s') s' g'

/-- **A turn of a task that obeys is one that the protocol allows**, and the task goes on obeying.
When a question is answered, what obeying says of every answer is used for this one. -/
theorem Stand.Obeys.take {α : Type} {T : Protocol γ σ Q} {post : γ → α → Prop} {g : γ}
    {stand stand' : Stand σ Q R α} (h : stand.Obeys T post g) {s s' : σ} (hs : T.knows g s)
    {t : Turn Q R} {happening : Happening σ Q R}
    (htake : stand.take t s = some (happening, s', stand')) :
    ∃ g', Happens T g s happening s' g' ∧ stand'.Obeys T post g' := by
  -- one case for each place a task can stand in, in the order of `Stand.take`
  unfold Stand.take at htake
  split at htake
  · obtain ⟨hstep, -⟩ := h
    split at htake
    · rename_i hready
      cases htake
      obtain ⟨g', hmove, hnext⟩ := hstep s hs hready
      exact ⟨g', .moved hmove, hnext⟩
    · cases htake
  · cases htake
    exact ⟨g, .put h.1, h⟩
  · cases htake
    exact ⟨g, .answered _ h.1, h.2.1 _⟩
  · cases htake
    obtain ⟨g', hquit⟩ := h.2 s hs
    exact ⟨g', .quit hquit, g, s, _, hquit⟩
  · cases htake
    obtain ⟨g', hquit⟩ := h.2.2 s hs
    exact ⟨g', .quit hquit, g, s, _, hquit⟩
  · cases htake
    obtain ⟨g', hquit⟩ := h.2.2 s hs
    exact ⟨g', .quit hquit, g, s, _, hquit⟩
  · cases htake
  · cases htake

section Invariant

variable [DecidableEq ι] (T : ι → Protocol γ σ Q) (post : (i : ι) → γ → α i → Prop)
  (Inv : σ → List (ι × Happening σ Q R) → (ι → γ) → Prop) {crew : Crew ι σ Q R α} {role : ι → γ}

/-- A turn keeps an invariant that everything the protocols allow keeps. The roles are those after
the turn, and only one of them is another. -/
theorem turn_invariant (hknows : ∀ i, (T i).knows (role i) crew.state)
    (hkeeps : ∀ i happening s' g', Happens (T i) (role i) crew.state happening s' g' →
      Inv s' (crew.log ++ [(i, happening)]) (Function.update role i g'))
    (hinv : Inv crew.state crew.log role)
    (hobeys : ∀ i, (crew.stand i).Obeys (T i) (post i) (role i)) (i : ι) (t : Turn Q R) :
    ∃ role, Inv (crew.turn i t).state (crew.turn i t).log role
      ∧ ∀ j, ((crew.turn i t).stand j).Obeys (T j) (post j) (role j) := by
  cases htake : (crew.stand i).take t crew.state with
  | none =>
    rw [turn_none htake]
    exact ⟨role, hinv, hobeys⟩
  | some taken =>
    obtain ⟨happening, s', stand⟩ := taken
    rw [turn_some htake]
    obtain ⟨g', hhappens, hstand⟩ := (hobeys i).take (hknows i) htake
    refine ⟨Function.update role i g', hkeeps i happening s' g' hhappens, fun j => ?_⟩
    -- only the task whose turn it was stands elsewhere
    show Stand.Obeys _ _ _ (Function.update crew.stand i stand j)
    by_cases hj : j = i
    · subst hj
      rw [Function.update_self, Function.update_self]
      exact hstand
    · rw [Function.update_of_ne hj, Function.update_of_ne hj]
      exact hobeys j

/-- **Invariants of tasks side by side.** If every task obeys its protocol, an invariant of the
state, the log and the roles that gives each task what it knows, and that everything the protocols
allow keeps, holds after any schedule. The premise that is to be shown, `hkeeps`, speaks of states,
logs and roles only. A task enters it through its role and through what its protocol allows at this
moment. -/
theorem run_invariant
    (hknows : ∀ s log role, Inv s log role → ∀ i, (T i).knows (role i) s)
    (hkeeps : ∀ s log role, Inv s log role → ∀ i happening s' g',
      Happens (T i) (role i) s happening s' g' →
        Inv s' (log ++ [(i, happening)]) (Function.update role i g'))
    (hinv : Inv crew.state crew.log role)
    (hobeys : ∀ i, (crew.stand i).Obeys (T i) (post i) (role i))
    (schedule : List (ι × Turn Q R)) :
    ∃ role, Inv (crew.run schedule).state (crew.run schedule).log role
      ∧ ∀ i, ((crew.run schedule).stand i).Obeys (T i) (post i) (role i) := by
  induction schedule generalizing crew role with
  | nil => exact ⟨role, hinv, hobeys⟩
  | cons t rest ih =>
    obtain ⟨role', hinv', hobeys'⟩ := turn_invariant T post Inv (hknows _ _ role hinv)
      (hkeeps _ _ role hinv) hinv hobeys t.1 t.2
    exact ih hinv' hobeys'

end Invariant

end Crew

end Testbed

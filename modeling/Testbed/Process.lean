/-!
# Processes on shared state

An operation of the control plane stops again and again: for a lock, for an engine's answer. In
between, other operations move on. A *process* is such an operation as data. It is finished with a
result, or stands before an atomic step on the shared state, or has put a question to the outside
and waits for the answer. A step can be taken only when the state is ready for it, which is how a
lock is waited for. Every point at which a process stands also says what abandoning it there does
to the state, so that a cancelled operation gives back what it had claimed.

Processes are inductive: each of them finishes after finitely many steps, whatever the answers.
`Process.poll` runs one until it is finished or has to wait, and `Process.complete` runs one that
is alone to its end. Smaller state is embedded in larger state with `Process.zoom`, questions are
answered by further processes with `Process.handle`.
-/

namespace Testbed

/-- **An operation on a state `σ`** that asks questions `Q`, gets answers `R q` and ends in `α`.
What follows a step depends on the state before it, so a step can read and change at once and
nothing comes in between. -/
inductive Process (σ Q : Type) (R : Q → Type) (α : Type) : Type where
  /-- It is finished. -/
  | done (result : α)
  /-- It takes a step when the state is ready. The step and what follows it are given by the state
  before the step. -/
  | step (ready : σ → Bool) (update : σ → σ) (next : σ → Process σ Q R α) (abandon : σ → σ)
  /-- It waits for the answer to a question. -/
  | ask (question : Q) (next : R question → Process σ Q R α) (abandon : σ → σ)

namespace Process

variable {σ τ Q Q' α β : Type} {R : Q → Type} {R' : Q' → Type}

/-- One process after another. While the first is under way, abandoning it does nothing on behalf of
the second. -/
def bind : Process σ Q R α → (α → Process σ Q R β) → Process σ Q R β
  | done a, f => f a
  | step ready update next abandon, f => step ready update (fun s => (next s).bind f) abandon
  | ask question next abandon, f => ask question (fun r => (next r).bind f) abandon

instance : Monad (Process σ Q R) where
  pure := done
  bind := bind

/-- One atomic step with a result, when the state is ready. Nothing is to be done when it is
abandoned while it waits, since it has changed nothing yet. -/
def whenReady (ready : σ → Bool) (f : σ → α × σ) : Process σ Q R α :=
  step ready (fun s => (f s).2) (fun s => done (f s).1) id

/-- One atomic step with a result. It never waits. -/
def atomically (f : σ → α × σ) : Process σ Q R α := whenReady (fun _ => true) f

/-- Reads the state. The function picks what is of interest, so nobody is handed more of the state
than needed. -/
def read (f : σ → α) : Process σ Q R α := atomically (fun s => (f s, s))

/-- Changes the state. Between this step and the next one other processes may move. -/
def change (f : σ → σ) : Process σ Q R Unit := atomically (fun s => ((), f s))

/-- Puts a question. Abandoning it leaves the state alone; what the outside has done by then stays
done. -/
def query (question : Q) : Process σ Q R (R question) := ask question done id

/-- Adds what abandoning the process does, wherever it stands. What the process itself would do
comes first, and `cleanup` after it. A process that has finished is not abandoned any more. -/
def onAbandon (cleanup : σ → σ) : Process σ Q R α → Process σ Q R α
  | done a => done a
  | step ready update next abandon =>
    step ready update (fun s => (next s).onAbandon cleanup) (fun s => cleanup (abandon s))
  | ask question next abandon =>
    ask question (fun r => (next r).onAbandon cleanup) (fun s => cleanup (abandon s))

/-- A process on a part of a larger state. The rest of the larger state is neither seen nor changed
by it. It is ready when the part is. -/
def zoom (get : τ → σ) (set : σ → τ → τ) : Process σ Q R α → Process τ Q R α
  | done a => done a
  | step ready update next abandon =>
    step (fun t => ready (get t)) (fun t => set (update (get t)) t)
      (fun t => (next (get t)).zoom get set) (fun t => set (abandon (get t)) t)
  | ask question next abandon =>
    ask question (fun r => (next r).zoom get set) (fun t => set (abandon (get t)) t)

/-- A process whose questions are answered by processes. Abandoning it within an answer does what
abandoning the question would have done, after what the answering process does itself. -/
def handle (answer : (q : Q) → Process σ Q' R' (R q)) : Process σ Q R α → Process σ Q' R' α
  | done a => done a
  | step ready update next abandon =>
    step ready update (fun s => (next s).handle answer) abandon
  | ask question next abandon =>
    ((answer question).onAbandon abandon).bind (fun r => (next r).handle answer)

/-- How far a process got. A waiting process carries what its abandonment does, so it can be given
up without being looked into. -/
inductive Progress (σ Q : Type) (R : Q → Type) (α : Type) where
  /-- It is finished. -/
  | finished (result : α)
  /-- It waits, and goes on like this when it is its turn again. -/
  | waiting (rest : Process σ Q R α) (abandon : σ → σ)

/-- Lets a process run. The outside answers questions with a state of its own; `holds` says which
answers it keeps back until the next turn. A process that waits for a state stands before that step
still, while one whose answer is kept back has put its question already. -/
def poll {ε : Type} (answer : (q : Q) → ε → R q × ε) (holds : Q → ε → Bool) :
    Process σ Q R α → σ → ε → Progress σ Q R α × σ × ε
  | done a, s, e => (.finished a, s, e)
  | step ready update next abandon, s, e =>
    if ready s then poll answer holds (next s) (update s) e
    else (.waiting (step ready update next abandon) abandon, s, e)
  | ask question next abandon, s, e =>
    let (r, e') := answer question e
    if holds question e then (.waiting (next r) abandon, s, e')
    else poll answer holds (next r) s e'

/-- Lets a process run alone to its end. There is no result if it waits for a state that nobody is
left to bring about. The answers come at once. -/
def complete {ε : Type} (answer : (q : Q) → ε → R q × ε) :
    Process σ Q R α → σ → ε → Option α × σ × ε
  | done a, s, e => (some a, s, e)
  | step ready update next _, s, e =>
    if ready s then complete answer (next s) (update s) e else (none, s, e)
  | ask question next _, s, e =>
    let (r, e') := answer question e
    complete answer (next r) s e'

/-- A process before its first turn. -/
def waiting (p : Process σ Q R α) : Progress σ Q R α := .waiting p id

namespace Progress

/-- The next turn, unless the process is finished. -/
def turn {ε : Type} (answer : (q : Q) → ε → R q × ε) (holds : Q → ε → Bool) :
    Progress σ Q R α → σ → ε → Progress σ Q R α × σ × ε
  | .finished a, s, e => (.finished a, s, e)
  | .waiting rest _, s, e => poll answer holds rest s e

/-- Lets two processes take some turns each, the first one first. The first keeps its turn until it
waits, and is finished or not when the turns are used up. -/
def alternate {ε : Type} (answer : (q : Q) → ε → R q × ε) (holds : Q → ε → Bool) :
    Nat → Progress σ Q R α → Progress σ Q R β → σ → ε →
      (Progress σ Q R α × Progress σ Q R β) × σ × ε
  | 0, p, q, s, e => ((p, q), s, e)
  | turns + 1, p, q, s, e =>
    let (p, s, e) := p.turn answer holds s e
    let (q, s, e) := q.turn answer holds s e
    alternate answer holds turns p q s e

/-- The result of a finished process. -/
def result? : Progress σ Q R α → Option α
  | .finished a => some a
  | .waiting .. => none

end Progress

end Process

end Testbed

import Testbed.Process

/-!
# Transcripts of processes

A process that has the state to itself is a conversation with the outside: it puts a question, and
the outside answers it or lets the process wait until it is given up. The transcript of the
conversation keeps every question *with the state in which it was put*, so that what holds while an
answer is outstanding can be said of the transcript, and not only what holds at the end.

The outside may answer whatever it likes and may look at everything that was asked before
(`Outside`). A statement about all transcripts is therefore one about every sequence of answers,
including answers that follow the process.

## How a transcript is reasoned about

`Process.Meets` says of a process, by recursion on it, that all its transcripts have a property.
The answers are quantified one at a time, where they are given, so no outside occurs in it;
`Meets.transcript` brings the outside back. The recursion passes through `bind` (`meets_bind`),
which is all that a proof about a sequence of steps needs to know.
-/

namespace Testbed.Process

variable {σ Q α β : Type} {R : Q → Type}

/-- **A question that a process put**, with the state it was put in. There is no answer if the
process was given up while it waited for one. -/
structure Exchange (σ Q : Type) (R : Q → Type) where
  /-- The state in which the question was put. -/
  state : σ
  /-- The question. -/
  question : Q
  /-- The answer, unless the process was given up. -/
  answer : Option (R question)

/-- **What is on the other side**: it is shown everything that was asked so far and answers the next
question, or never does. It may be different for every call, and it may be a function of all that
was said before, so it covers engines with a memory and engines that lie. -/
abbrev Outside (σ Q : Type) (R : Q → Type) :=
  List (Exchange σ Q R) → (question : Q) → Option (R question)

/-- **The record of a process that ran alone.** The state between two exchanges is in the exchanges.
-/
structure Transcript (σ Q : Type) (R : Q → Type) (α : Type) where
  /-- The questions, in order. -/
  exchanges : List (Exchange σ Q R)
  /-- The result. There is none if the process was given up. -/
  result : Option α
  /-- The state at the end. -/
  after : σ

namespace Transcript

/-- The transcript with one more exchange in front. Result and final state are those of the rest. -/
def cons (x : Exchange σ Q R) (t : Transcript σ Q R α) : Transcript σ Q R α :=
  { t with exchanges := x :: t.exchanges }

/-- One transcript after another. What the first ended with is dropped, as the later one goes on
from it. -/
def append (t : Transcript σ Q R α) (later : Transcript σ Q R β) : Transcript σ Q R β :=
  { later with exchanges := t.exchanges ++ later.exchanges }

end Transcript

/-- **The conversation of a process with an outside.** A process that waits for the state to become
ready waits for somebody else, and there is nobody else. The process does what it does on being
abandoned where it is given up while a question is open. -/
def transcript (o : Outside σ Q R) : Process σ Q R α → σ → Transcript σ Q R α
  | done a, s => ⟨[], some a, s⟩
  | step ready update next _, s =>
    if ready s then transcript o (next s) (update s) else ⟨[], none, s⟩
  | ask question next abandon, s =>
    match o [] question with
    | some r =>
      let x : Exchange σ Q R := ⟨s, question, some r⟩
      (transcript (fun log => o (x :: log)) (next r) s).cons x
    | none => ⟨[⟨s, question, none⟩], none, abandon s⟩

/-- **The transcript of one process after another**: the outside has seen the questions of the first
when it is asked by the second. A result of the first is handed on with the state; without one there
is no second. -/
theorem transcript_bind {o : Outside σ Q R} {p : Process σ Q R α} {s : σ} {t : Transcript σ Q R α}
    (h : p.transcript o s = t) (f : α → Process σ Q R β) :
    (p.bind f).transcript o s =
      match t.result with
      | some a => t.append ((f a).transcript (fun log => o (t.exchanges ++ log)) t.after)
      | none => ⟨t.exchanges, none, t.after⟩ := by
  induction p generalizing s o t with
  | done a =>
    obtain rfl := h
    rfl
  | step ready update next abandon ih =>
    show (step ready update (fun s => (next s).bind f) abandon).transcript o s = _
    rw [transcript] at h ⊢
    by_cases hready : ready s = true
    · rw [if_pos hready] at h ⊢
      exact ih s h
    · rw [if_neg hready] at h ⊢
      obtain rfl := h
      rfl
  | ask question next abandon ih =>
    show (ask question (fun r => (next r).bind f) abandon).transcript o s = _
    rw [transcript] at h ⊢
    cases hr : o [] question with
    | none =>
      rw [hr] at h
      obtain rfl := h
      rfl
    | some r =>
      rw [hr] at h
      obtain rfl := h
      dsimp only
      rw [ih r rfl]
      generalize (next r).transcript _ s = t
      obtain ⟨log, result, after⟩ := t
      cases result with
      | none => rfl
      | some a => rfl

/-- The answers among exchanges are those of an outside. The outside sees what went before, so an
answer may depend on it. -/
def Answered : Outside σ Q R → List (Exchange σ Q R) → Prop
  | _, [] => True
  | o, x :: rest => x.answer = o [] x.question ∧ Answered (fun log => o (x :: log)) rest

/-- A transcript with an outside has its answers. It is how the transcript was made. -/
theorem transcript_answered (o : Outside σ Q R) (p : Process σ Q R α) (s : σ) :
    Answered o (p.transcript o s).exchanges := by
  -- the outside is shown more and more, so it changes along with the process
  induction p generalizing s o with
  | done a => trivial
  | step ready update next abandon ih =>
    unfold transcript
    split
    · exact ih s o (update s)
    · trivial
  | ask question next abandon ih =>
    unfold transcript
    split
    · rename_i r hr
      exact ⟨hr.symm, ih r _ s⟩
    · rename_i hr
      exact ⟨hr.symm, trivial⟩

/-- Every exchange has an answer of the outside, to whatever went before. Where in the list it
stands decides what went before. -/
theorem Answered.mem {o : Outside σ Q R} {log : List (Exchange σ Q R)} (h : Answered o log)
    {x : Exchange σ Q R} (hx : x ∈ log) : ∃ seen, x.answer = o seen x.question := by
  induction log generalizing o with
  | nil => cases hx
  | cons y rest ih =>
    obtain ⟨hfirst, hrest⟩ := h
    obtain rfl | hx := List.mem_cons.mp hx
    · exact ⟨[], hfirst⟩
    · obtain ⟨seen, hseen⟩ := ih hrest hx
      exact ⟨y :: seen, hseen⟩

/-- **All transcripts of a process from a state have a property**, and the process never waits for
the state to become ready. For a step there is one way to go on, for a question there are as many as
there are answers, and in addition the process may be given up. -/
def Meets : Process σ Q R α → σ → (Transcript σ Q R α → Prop) → Prop
  | done a, s, post => post ⟨[], some a, s⟩
  | step ready update next _, s, post => ready s = true ∧ (next s).Meets (update s) post
  | ask question next abandon, s, post =>
    (∀ r, (next r).Meets s (fun t => post (t.cons ⟨s, question, some r⟩)))
      ∧ post ⟨[⟨s, question, none⟩], none, abandon s⟩

/-- What all transcripts meet, the transcript with any outside meets. Hence to meet a property is to
have it with every outside. -/
theorem Meets.transcript {p : Process σ Q R α} {s : σ} {post : Transcript σ Q R α → Prop}
    (h : p.Meets s post) (o : Outside σ Q R) : post (p.transcript o s) := by
  induction p generalizing s o post with
  | done a => exact h
  | step ready update next abandon ih =>
    obtain ⟨hready, hnext⟩ := h
    rw [Process.transcript, if_pos hready]
    exact ih s hnext o
  | ask question next abandon ih =>
    obtain ⟨hnext, hdropped⟩ := h
    unfold Process.transcript
    split
    · rename_i r _
      exact ih r (hnext r) _
    · exact hdropped

/-- A property that follows from one that is met is met. It is the rule of consequence. -/
theorem Meets.mono {p : Process σ Q R α} {s : σ} {post post' : Transcript σ Q R α → Prop}
    (h : p.Meets s post) (hpost : ∀ t, post t → post' t) : p.Meets s post' := by
  induction p generalizing s post post' with
  | done a => exact hpost _ h
  | step ready update next abandon ih => exact ⟨h.1, ih s h.2 hpost⟩
  | ask question next abandon ih =>
    exact ⟨fun r => ih r (h.1 r) (fun t => hpost _), hpost _ h.2⟩

/-- Properties that say the same are met alike. It is used where a property can be put in a better
form. -/
theorem meets_congr {p : Process σ Q R α} {s : σ} {post post' : Transcript σ Q R α → Prop}
    (h : ∀ t, post t ↔ post' t) : p.Meets s post ↔ p.Meets s post' :=
  ⟨fun hp => hp.mono (fun t => (h t).mp), fun hp => hp.mono (fun t => (h t).mpr)⟩

/-- **One process after another**: the second is met from where the first one ended, unless the
first one was given up. It is an equivalence, so it can be used in both directions: to prove
something of a sequence from its parts, and to take a sequence apart of which something is known. -/
theorem meets_bind {p : Process σ Q R α} {f : α → Process σ Q R β} {s : σ}
    {post : Transcript σ Q R β → Prop} :
    (p.bind f).Meets s post ↔ p.Meets s (fun t =>
      match t.result with
      | some a => (f a).Meets t.after (fun later => post (t.append later))
      | none => post ⟨t.exchanges, none, t.after⟩) := by
  induction p generalizing s post with
  | done a => exact Iff.rfl
  | step ready update next abandon ih => exact and_congr Iff.rfl (ih s)
  | ask question next abandon ih => exact and_congr (forall_congr' fun r => ih r) Iff.rfl

/-- One operation that can fail after another: an error of the first ends both. A process that was
given up has no result, and ends both as well. -/
theorem meets_andThen {ε : Type} {x : ExceptT ε (Process σ Q R) α}
    {f : α → ExceptT ε (Process σ Q R) β} {s : σ} {post : Transcript σ Q R (Except ε β) → Prop} :
    (x >>= f).run.Meets s post ↔ x.run.Meets s (fun t =>
      match t.result with
      | some (.ok a) => (f a).run.Meets t.after (fun later => post (t.append later))
      | some (.error e) => post ⟨t.exchanges, some (.error e), t.after⟩
      | none => post ⟨t.exchanges, none, t.after⟩) := by
  refine meets_bind.trans (meets_congr fun t => ?_)
  obtain ⟨log, result, after⟩ := t
  match result with
  | some (.ok a) => exact Iff.rfl
  | some (.error e) =>
    show post ⟨log ++ [], some (.error e), after⟩ ↔ _
    rw [List.append_nil]
  | none => exact Iff.rfl

/-- Two properties that are met are met together. They may have been proved in quite different ways.
-/
theorem Meets.and {p : Process σ Q R α} {s : σ} {post post' : Transcript σ Q R α → Prop}
    (h : p.Meets s post) (h' : p.Meets s post') : p.Meets s fun t => post t ∧ post' t := by
  induction p generalizing s post post' with
  | done a => exact ⟨h, h'⟩
  | step ready update next abandon ih => exact ⟨h.1, ih s h.2 h'.2⟩
  | ask question next abandon ih => exact ⟨fun r => ih r (h.1 r) (h'.1 r), h.2, h'.2⟩

/-! ## Processes that ask nothing

A process that asks nothing and has the state to itself is a function of the state: `Settles` says
what it gives and what becomes of the state. -/

/-- **A process asks nothing, and ends** with a result and a state. There is nothing in its record
but the end. -/
def Settles (p : Process σ Q R α) (s : σ) (a : α) (s' : σ) : Prop :=
  p.Meets s (· = ⟨[], some a, s'⟩)

section Settles

variable {τ : Type} {p : Process σ Q R α} {s s' s'' : σ} {a : α} {b : β}

theorem settles_pure (a : α) (s : σ) : (pure a : Process σ Q R α).Settles s a s := rfl

theorem settles_atomically (f : σ → α × σ) (s : σ) :
    (atomically f : Process σ Q R α).Settles s (f s).1 (f s).2 := ⟨rfl, rfl⟩

theorem settles_change (f : σ → σ) (s : σ) :
    (change f : Process σ Q R Unit).Settles s () (f s) := ⟨rfl, rfl⟩

theorem settles_whenReady {ready : σ → Bool} (f : σ → α × σ) (h : ready s = true) :
    (whenReady ready f : Process σ Q R α).Settles s (f s).1 (f s).2 := ⟨h, rfl⟩

/-- One process after another. Nothing comes in between, as nothing is asked. -/
theorem Settles.andThen (h : p.Settles s a s') {f : α → Process σ Q R β}
    (hf : (f a).Settles s' b s'') : (p >>= f).Settles s b s'' := by
  refine meets_bind.mpr (h.mono ?_)
  rintro _ rfl
  exact hf.mono fun t ht => by rw [ht]; rfl

/-- Its transcript is the same with every outside. No outside is ever needed. -/
theorem Settles.transcript (h : p.Settles s a s') (o : Outside σ Q R) :
    p.transcript o s = ⟨[], some a, s'⟩ :=
  Meets.transcript h o

/-- A process settles in one way only. A process is determined by the state that it begins in. -/
theorem Settles.unique (h : p.Settles s a s') {a' : α} (h' : p.Settles s a' s'') :
    a' = a ∧ s'' = s' := by
  have heq := (h'.transcript fun _ _ => none).symm.trans (h.transcript _)
  cases heq
  exact ⟨rfl, rfl⟩

theorem Settles.onAbandon (cleanup : σ → σ) (h : p.Settles s a s') :
    (p.onAbandon cleanup).Settles s a s' := by
  unfold Settles at h ⊢
  induction p generalizing s with
  | done a => exact h
  | step ready update next abandon ih => exact ⟨h.1, ih s h.2⟩
  | ask question next abandon ih => cases h.2

/-- A process on a part of a larger state that can be read and written like a variable. The three
conditions are those of a well-behaved pair of getting and setting. -/
theorem Settles.zoom {get : τ → σ} {set : σ → τ → τ} (hget : ∀ s t, get (set s t) = s)
    (hself : ∀ t, set (get t) t = t) (hset : ∀ s s' t, set s (set s' t) = set s t) {t : τ}
    (h : p.Settles (get t) a s') : (p.zoom get set).Settles t a (set s' t) := by
  unfold Settles at h ⊢
  induction p generalizing t with
  | done a =>
    cases h
    show (⟨[], some a, t⟩ : Transcript τ Q R α) = _
    rw [hself]
  | step ready update next abandon ih =>
    obtain ⟨hready, hnext⟩ := h
    refine ⟨hready, ?_⟩
    have hnext' := ih (get t) (t := set (update (get t)) t) (by rw [hget]; exact hnext)
    rw [hset] at hnext'
    exact hnext'
  | ask question next abandon ih => cases h.2

end Settles

/-! ## The runs of `complete` are transcripts

An outside that keeps a state of its own is one that works its state out from what it was asked. -/

section Complete

variable {ε : Type} (answer : (question : Q) → ε → R question × ε)

/-- What an outside with a state of its own has become after some questions. It goes through the
questions, in order. -/
def outsideAfter (e : ε) (log : List (Exchange σ Q R)) : ε :=
  log.foldl (fun e x => (answer x.question e).2) e

/-- An outside with a state of its own, as one that is shown what was asked. It answers every
question. -/
def outsideOf (e : ε) : Outside σ Q R := fun log question =>
  some (answer question (outsideAfter answer e log)).1

/-- **A process that is run to its end alone leaves its transcript behind**: the result and the
state are those of the transcript, and the outside is what the questions made of it. With this, what
is proved of transcripts holds of the program that runs processes to their ends. -/
theorem complete_eq_transcript (p : Process σ Q R α) (s : σ) (e : ε) :
    p.complete answer s e =
      let t := p.transcript (outsideOf answer e) s
      (t.result, t.after, outsideAfter answer e t.exchanges) := by
  induction p generalizing s e with
  | done a => rfl
  | step ready update next abandon ih =>
    unfold complete transcript
    split
    · exact ih s (update s) e
    · rfl
  | ask question next abandon ih =>
    unfold complete transcript
    exact ih _ s _

end Complete

end Testbed.Process

import Mathlib.Data.List.Induction
import Testbed.Proofs.Process.Crew

/-!
# What a log says of the states in between

The log of a crew goes through all the states from the beginning to the end: each happening starts
in the state in which the one before it ended (`run_chained`). So whether something holds of a state
can be told from where it last began to hold or ceased to, which is what `Lasts` and
`Chained.of_lasts` are about. Statements about the moment at which something happened cut the log
there, and those about what happened while a task was under way cut it at the task's first turn
(`since`).
-/

namespace Testbed.Crew

variable {ι σ Q : Type} {R : Q → Type} {α : ι → Type}

namespace Happening

/-- From which state to which one a happening leads. A question and its answer do not change the
state. -/
def Leads : Happening σ Q R → σ → σ → Prop
  | moved a b, s, s' | quit a b, s, s' => s = a ∧ s' = b
  | put _, s, s' | answered _ _, s, s' => s' = s

/-- The state that a happening makes. It is the state after the step, and there is none for a
question. -/
def Makes : Happening σ Q R → σ → Prop
  | moved _ b, s | quit _ b, s => s = b
  | put _, _ | answered _ _, _ => False

/-- A property of states begins to hold. It has to be false before. -/
def Begins (P : σ → Prop) (happening : Happening σ Q R) : Prop :=
  ∃ s s', happening.Leads s s' ∧ ¬ P s ∧ P s'

/-- A property of states ceases to hold. A property that holds both before and after a step does
neither. -/
def Ceases (P : σ → Prop) (happening : Happening σ Q R) : Prop :=
  ∃ s s', happening.Leads s s' ∧ P s ∧ ¬ P s'

variable {P : σ → Prop} {s s' : σ} {happening : Happening σ Q R}

theorem begins_iff (h : happening.Leads s s') : happening.Begins P ↔ ¬ P s ∧ P s' := by
  refine ⟨?_, fun hP => ⟨s, s', h, hP⟩⟩
  rintro ⟨a, b, hab, hP⟩
  cases happening with
  | moved | quit =>
    obtain ⟨rfl, rfl⟩ := h
    obtain ⟨rfl, rfl⟩ := hab
    exact hP
  | put | answered =>
    obtain rfl : b = a := hab
    exact absurd hP.2 hP.1

theorem ceases_iff (h : happening.Leads s s') : happening.Ceases P ↔ P s ∧ ¬ P s' := by
  refine ⟨?_, fun hP => ⟨s, s', h, hP⟩⟩
  rintro ⟨a, b, hab, hP⟩
  cases happening with
  | moved | quit =>
    obtain ⟨rfl, rfl⟩ := h
    obtain ⟨rfl, rfl⟩ := hab
    exact hP
  | put | answered =>
    obtain rfl : b = a := hab
    exact absurd hP.1 hP.2

theorem ceases_moved_iff : (moved s s' : Happening σ Q R).Ceases P ↔ P s ∧ ¬ P s' := by
  refine ceases_iff ?_
  exact ⟨rfl, rfl⟩

theorem Makes.eq_of_leads {m : σ} (h : happening.Makes m) : happening.Leads s s' → s' = m := by
  cases happening with
  | moved | quit =>
    rintro ⟨-, rfl⟩
    exact h.symm
  | put | answered => exact h.elim

/-- Where a property begins to hold, a state is made in which it holds. The state is that after the
step. -/
theorem Begins.makes (h : happening.Begins P) : ∃ s, happening.Makes s ∧ P s := by
  obtain ⟨s, s', hleads, hs, hs'⟩ := h
  cases happening with
  | moved | quit =>
    obtain ⟨-, rfl⟩ := hleads
    exact ⟨_, rfl, hs'⟩
  | put | answered =>
    obtain rfl : s' = s := hleads
    exact absurd hs' hs

end Happening

/-- **A log that goes through states** from one to another. Only some happenings change the state;
the others lead from a state to itself. -/
def Chained : σ → List (ι × Happening σ Q R) → σ → Prop
  | s, [], s' => s' = s
  | s, x :: rest, s' => ∃ m, x.2.Leads s m ∧ Chained m rest s'

section Chained

variable {s s' : σ} {log later : List (ι × Happening σ Q R)}

theorem chained_append :
    Chained s (log ++ later) s' ↔ ∃ m, Chained s log m ∧ Chained m later s' := by
  induction log generalizing s with
  | nil => exact ⟨fun h => ⟨s, rfl, h⟩, by rintro ⟨_, rfl, h⟩; exact h⟩
  | cons x rest ih =>
    constructor
    · rintro ⟨m, hx, h⟩
      obtain ⟨m', hrest, hlater⟩ := ih.mp h
      exact ⟨m', ⟨m, hx, hrest⟩, hlater⟩
    · rintro ⟨m', ⟨m, hx, hrest⟩, hlater⟩
      exact ⟨m, hx, ih.mpr ⟨m', hrest, hlater⟩⟩

theorem Chained.concat {m : σ} (h : Chained s log m) {x : ι × Happening σ Q R}
    (hx : x.2.Leads m s') :
    Chained s (log ++ [x]) s' :=
  chained_append.mpr ⟨m, h, s', hx, rfl⟩

/-- A turn leads from the state before to the state after. This links the log to the states, turn by
turn. -/
theorem Stand.take_leads {α : Type} {stand stand' : Stand σ Q R α} {t : Turn Q R}
    {happening : Happening σ Q R} (h : stand.take t s = some (happening, s', stand')) :
    happening.Leads s s' := by
  unfold Stand.take at h
  split at h
  · split at h
    · cases h
      exact ⟨rfl, rfl⟩
    · cases h
  · cases h
    rfl
  · cases h
    rfl
  · cases h
    exact ⟨rfl, rfl⟩
  · cases h
    exact ⟨rfl, rfl⟩
  · cases h
    exact ⟨rfl, rfl⟩
  · cases h
  · cases h

/-- **The log of a run goes through all its states.** It is enough to look at a single turn
(`Stand.take_leads`), and to put the turns together. -/
theorem run_chained [DecidableEq ι] {crew : Crew ι σ Q R α} (h : Chained s crew.log crew.state)
    (schedule : List (ι × Turn Q R)) :
    Chained s (crew.run schedule).log (crew.run schedule).state := by
  induction schedule generalizing crew with
  | nil => exact h
  | cons t rest ih =>
    refine ih ?_
    show Chained s (crew.turn t.1 t.2).log (crew.turn t.1 t.2).state
    cases htake : (crew.stand t.1).take t.2 crew.state with
    | none =>
      rw [turn_none htake]
      exact h
    | some taken =>
      obtain ⟨happening, s', stand⟩ := taken
      rw [turn_some htake]
      exact h.concat (Stand.take_leads htake)

end Chained

/-- Where a log that has grown is cut: at its last entry or before it. It is used in inductions on
the log, from its end. -/
theorem cut_append {β : Type} {log before after : List β} {x y : β}
    (h : log ++ [x] = before ++ y :: after) :
    (log = before ∧ x = y ∧ after = [])
      ∨ ∃ rest, after = rest ++ [x] ∧ log = before ++ y :: rest := by
  obtain rfl | ⟨rest, z, rfl⟩ := List.eq_nil_or_concat after
  · obtain ⟨hlog, heq⟩ := List.append_inj' h rfl
    cases heq
    exact .inl ⟨hlog, rfl, rfl⟩
  · rw [List.concat_eq_append, ← List.cons_append, ← List.append_assoc] at h
    obtain ⟨hlog, heq⟩ := List.append_inj' h rfl
    cases heq
    exact .inr ⟨rest, List.concat_eq_append, hlog⟩

/-! ## What began to hold and has not ceased

A property that holds at the end either held from the start or began to hold at some turn, and in
both cases did not cease to hold since. It is the way from a log to a statement about the state. -/

/-- **Something began to hold and has not ceased to.** The log is cut where the property began to
hold for the last time. -/
def Lasts (P : σ → Prop) (log : List (ι × Happening σ Q R)) : Prop :=
  ∃ before x after, log = before ++ x :: after ∧ x.2.Begins P ∧ ∀ y ∈ after, ¬ y.2.Ceases P

section Lasts

variable {P : σ → Prop} {s s' : σ} {log : List (ι × Happening σ Q R)} {x : ι × Happening σ Q R}

theorem not_lasts_nil : ¬ Lasts P ([] : List (ι × Happening σ Q R)) := by
  rintro ⟨before, x, after, h, -⟩
  exact List.append_ne_nil_of_right_ne_nil _ (List.cons_ne_nil _ _) h.symm

theorem lasts_append : Lasts P (log ++ [x]) ↔ x.2.Begins P ∨ Lasts P log ∧ ¬ x.2.Ceases P := by
  constructor
  · rintro ⟨before, y, after, h, hy, hafter⟩
    obtain ⟨-, rfl, -⟩ | ⟨rest, rfl, hlog⟩ := cut_append h
    · exact .inl hy
    · obtain ⟨hrest, hx⟩ := List.forall_mem_append.mp hafter
      exact .inr ⟨⟨before, y, rest, hlog, hy, hrest⟩, hx x List.mem_cons_self⟩
  · rintro (hx | ⟨⟨before, y, after, rfl, hy, hafter⟩, hx⟩)
    · exact ⟨log, x, [], rfl, hx, List.forall_mem_nil _⟩
    · refine ⟨before, y, after ++ [x], by rw [List.append_assoc, List.cons_append], hy, ?_⟩
      exact List.forall_mem_append.mpr ⟨hafter, List.forall_mem_singleton.mpr hx⟩

/-- What held because it lasted still holds because it lasts. Either the property held before the
step already, or it begins to hold at the step. -/
theorem lasts_of_leads (hx : x.2.Leads s s') (hlasts : P s → Lasts P log) (hP : P s') :
    Lasts P (log ++ [x]) := by
  refine lasts_append.mpr ?_
  by_cases hs : P s
  · exact .inr ⟨hlasts hs, fun hceases => ((Happening.ceases_iff hx).mp hceases).2 hP⟩
  · exact .inl ((Happening.begins_iff hx).mpr ⟨hs, hP⟩)

/-- What lasts holds at the end. It began at some turn, and nothing since has ended it. -/
theorem Chained.of_lasts (h : Chained s log s') (hlasts : Lasts P log) : P s' := by
  induction log using List.reverseRecOn generalizing s' with
  | nil => exact absurd hlasts not_lasts_nil
  | append_singleton log x ih =>
    obtain ⟨m, hlog, _, hx, rfl⟩ := chained_append.mp h
    obtain hbegins | ⟨hlasts, hceases⟩ := lasts_append.mp hlasts
    · exact ((Happening.begins_iff hx).mp hbegins).2
    · exact by_contra fun hs' => hceases ((Happening.ceases_iff hx).mpr ⟨ih hlog hlasts, hs'⟩)

/-- What does not hold and never begins to does not hold at the end. The proof is by induction on
the log. -/
theorem Chained.not_of_not_begins (h : Chained s log s') (hs : ¬ P s)
    (hlog : ∀ x ∈ log, ¬ x.2.Begins P) : ¬ P s' := by
  induction log generalizing s with
  | nil =>
    obtain rfl : s' = s := h
    exact hs
  | cons x rest ih =>
    obtain ⟨m, hx, hrest⟩ := h
    obtain ⟨hfirst, hlog⟩ := List.forall_mem_cons.mp hlog
    exact ih hrest (fun hm => hfirst ((Happening.begins_iff hx).mpr ⟨hs, hm⟩)) hlog

/-- What holds and never ceases to holds at the end. It is the same for what is to be kept. -/
theorem Chained.of_not_ceases (h : Chained s log s') (hs : P s)
    (hlog : ∀ x ∈ log, ¬ x.2.Ceases P) : P s' := by
  refine not_not.mp (h.not_of_not_begins (P := fun s => ¬ P s) (not_not.mpr hs) ?_)
  rintro x hx ⟨a, b, hleads, ha, hb⟩
  exact hlog x hx ⟨a, b, hleads, not_not.mp ha, hb⟩

/-- What holds and never ceases to holds before every turn. The log up to that turn is a log too. -/
theorem Chained.holds_before (h : Chained s log s') (hs : P s) (hlog : ∀ x ∈ log, ¬ x.2.Ceases P)
    {i : ι} {t t' : σ} (hmem : (i, .moved t t') ∈ log) : P t := by
  obtain ⟨before, after, rfl⟩ := List.append_of_mem hmem
  obtain ⟨_, hbefore, _, ⟨rfl, -⟩, -⟩ := chained_append.mp h
  exact hbefore.of_not_ceases hs fun y hy => hlog y (List.mem_append_left _ hy)

/-- **A property holds in no state from here on exactly if it does not hold now and never begins
to.** -/
theorem Chained.never_iff (h : Chained s log s') (hs : ¬ P s) :
    (∀ x ∈ log, ∀ m, x.2.Makes m → ¬ P m) ↔ ∀ x ∈ log, ¬ x.2.Begins P := by
  constructor
  · intro hnever x hx hbegins
    obtain ⟨m, hmakes, hm⟩ := hbegins.makes
    exact hnever x hx m hmakes hm
  · intro hlog x hx m hmakes
    obtain ⟨before, after, rfl⟩ := List.append_of_mem hx
    rw [List.append_cons] at h hlog
    obtain ⟨m', hbefore, -⟩ := chained_append.mp h
    obtain ⟨_, -, _, hleads, rfl⟩ := chained_append.mp hbefore
    obtain rfl := hmakes.eq_of_leads hleads
    exact hbefore.not_of_not_begins hs fun y hy => hlog y (List.mem_append_left _ hy)

end Lasts

/-! ## Tasks under way

What happened while a task was under way is the end of the log, from the task's first turn on. What
lasts over that time holds at the task's last turn. -/

/-- Whether a task has had a turn. One that could not go on at any of them has had none. -/
def Begun (i : ι) (log : List (ι × Happening σ Q R)) : Prop := ∃ x ∈ log, x.1 = i

/-- **A task is under way** from its first turn until it has ended. A task that was given up is not
under way any more. -/
def UnderWay (crew : Crew ι σ Q R α) (i : ι) : Prop :=
  Begun i crew.log ∧ (crew.stand i).ended = false


section Since

variable [DecidableEq ι] {i : ι} {log : List (ι × Happening σ Q R)} {x : ι × Happening σ Q R}

/-- **What happened since the first turn of a task.** The turn itself is not part of it. -/
def since (i : ι) : List (ι × Happening σ Q R) → List (ι × Happening σ Q R)
  | [] => []
  | x :: rest => if x.1 = i then rest else since i rest

theorem since_append (h : Begun i log) : since i (log ++ [x]) = since i log ++ [x] := by
  induction log with
  | nil =>
    obtain ⟨y, hy, -⟩ := h
    cases hy
  | cons y rest ih =>
    rw [List.cons_append, since, since]
    by_cases hy : y.1 = i
    · rw [if_pos hy, if_pos hy]
    · rw [if_neg hy, if_neg hy]
      obtain ⟨z, hz, hzi⟩ := h
      obtain rfl | hz := List.mem_cons.mp hz
      · exact absurd hzi hy
      · exact ih ⟨z, hz, hzi⟩

theorem since_of_not_begun (h : ¬ Begun i log) : since i (log ++ [x]) = [] := by
  induction log with
  | nil => exact ite_self _
  | cons y rest ih =>
    rw [List.cons_append, since, if_neg fun hy => h ⟨y, List.mem_cons_self, hy⟩]
    exact ih fun ⟨z, hz, hzi⟩ => h ⟨z, List.mem_cons_of_mem _ hz, hzi⟩

omit [DecidableEq ι] in
theorem begun_append : Begun i (log ++ [x]) ↔ Begun i log ∨ x.1 = i := by
  constructor
  · rintro ⟨y, hy, rfl⟩
    obtain hy | hy := List.mem_append.mp hy
    · exact .inl ⟨y, hy, rfl⟩
    · cases List.mem_singleton.mp hy
      exact .inr rfl
  · rintro (⟨y, hy, rfl⟩ | hx)
    · exact ⟨y, List.mem_append_left _ hy, rfl⟩
    · exact ⟨x, List.mem_append_right _ List.mem_cons_self, hx⟩

/-- What happened since a task began is the end of the log. If the task has not begun, it is
nothing. -/
theorem since_suffix : ∃ before, log = before ++ since i log := by
  induction log with
  | nil => exact ⟨[], rfl⟩
  | cons y rest ih =>
    rw [since]
    by_cases hy : y.1 = i
    · rw [if_pos hy]
      exact ⟨[y], rfl⟩
    · rw [if_neg hy]
      obtain ⟨before, h⟩ := ih
      exact ⟨y :: before, congrArg (y :: ·) h⟩

/-- What lasts since a task began holds at the end. What was before does not matter. -/
theorem Chained.of_lasts_since {P : σ → Prop} {s s' : σ} (h : Chained s log s')
    (hlasts : Lasts P (since i log)) : P s' := by
  obtain ⟨before, hlog⟩ : ∃ before, log = before ++ since i log := since_suffix
  rw [hlog] at h
  obtain ⟨m, -, hsince⟩ := chained_append.mp h
  exact hsince.of_lasts hlasts

end Since

/-! ## The last turn of a task

Two turns of two tasks, and what lies between them. In this form a fact about one of them can be
carried to the other. -/

section LastTurn

variable {i j : ι} {happening : Happening σ Q R} {log later between : List (ι × Happening σ Q R)}
  {x : ι × Happening σ Q R}

/-- **What happened at the last turn of a task**, and later. It is told by where the log is cut. -/
def LastTurn (i : ι) (happening : Happening σ Q R) (later log : List (ι × Happening σ Q R)) :
    Prop :=
  (∃ before, log = before ++ (i, happening) :: later) ∧ ∀ x ∈ later, x.1 ≠ i

/-- **What happened between the last turns of two tasks**, of which the first one had its last turn
earlier. Others may have had turns in between, and afterwards. -/
def Between (i j : ι) (between log : List (ι × Happening σ Q R)) : Prop :=
  ∃ happening happening' later, LastTurn i happening (between ++ (j, happening') :: later) log
    ∧ ∀ x ∈ later, x.1 ≠ j

theorem lastTurn_append : LastTurn i happening later (log ++ [x])
    ↔ x = (i, happening) ∧ later = []
      ∨ x.1 ≠ i ∧ ∃ rest, later = rest ++ [x] ∧ LastTurn i happening rest log := by
  constructor
  · rintro ⟨⟨before, h⟩, hlater⟩
    obtain ⟨-, rfl, rfl⟩ | ⟨rest, rfl, hlog⟩ := cut_append h
    · exact .inl ⟨rfl, rfl⟩
    · obtain ⟨hrest, hx⟩ := List.forall_mem_append.mp hlater
      exact .inr ⟨hx x List.mem_cons_self, rest, rfl, ⟨before, hlog⟩, hrest⟩
  · rintro (⟨rfl, rfl⟩ | ⟨hx, rest, rfl, ⟨before, rfl⟩, hrest⟩)
    · exact ⟨⟨log, rfl⟩, List.forall_mem_nil _⟩
    · refine ⟨⟨before, by rw [List.append_assoc, List.cons_append]⟩, ?_⟩
      exact List.forall_mem_append.mpr ⟨hrest, List.forall_mem_singleton.mpr hx⟩

/-- The later one of two last turns. The earlier one is before the cut. -/
theorem LastTurn.second {happening' : Happening σ Q R}
    (h : LastTurn i happening (between ++ (j, happening') :: later) log)
    (hlater : ∀ x ∈ later, x.1 ≠ j) : LastTurn j happening' later log := by
  obtain ⟨⟨before, rfl⟩, -⟩ := h
  exact ⟨⟨before ++ (i, happening) :: between, by rw [List.append_assoc, List.cons_append]⟩,
    hlater⟩

/-- From one turn to a later one. The state after the first is the one before what lies between. -/
theorem Chained.middle {s₀ s s' t t' s₁ : σ} {before : List (ι × Happening σ Q R)}
    (h : Chained s₀ (before ++ (i, .moved s s') :: (between ++ (j, .moved t t') :: later)) s₁) :
    Chained s' between t := by
  obtain ⟨_, -, _, ⟨-, rfl⟩, hrest⟩ := chained_append.mp h
  obtain ⟨_, hbetween, _, ⟨rfl, -⟩, -⟩ := chained_append.mp hrest
  exact hbetween

end LastTurn

/-! ## Who was last

Which task was the last to do something of a kind. There is one as soon as anybody did, and a later
happening of the kind makes another one the last. -/

section Last

variable {P : Happening σ Q R → Prop} {i : ι} {log : List (ι × Happening σ Q R)}
  {x : ι × Happening σ Q R}

/-- **The last happening of a kind** was a task's. Others may have done other things since. -/
def LastOf (P : Happening σ Q R → Prop) (i : ι) (log : List (ι × Happening σ Q R)) : Prop :=
  ∃ before happening after, log = before ++ (i, happening) :: after ∧ P happening
    ∧ ∀ x ∈ after, ¬ P x.2

theorem lastOf_append :
    LastOf P i (log ++ [x]) ↔ x.1 = i ∧ P x.2 ∨ ¬ P x.2 ∧ LastOf P i log := by
  constructor
  · rintro ⟨before, happening, after, h, hP, hafter⟩
    obtain ⟨-, rfl, -⟩ | ⟨rest, rfl, hlog⟩ := cut_append h
    · exact .inl ⟨rfl, hP⟩
    · obtain ⟨hrest, hx⟩ := List.forall_mem_append.mp hafter
      exact .inr ⟨hx x List.mem_cons_self, before, happening, rest, hlog, hP, hrest⟩
  · rintro (⟨rfl, hP⟩ | ⟨hx, before, happening, after, rfl, hP, hafter⟩)
    · exact ⟨log, x.2, [], rfl, hP, List.forall_mem_nil _⟩
    · refine ⟨before, happening, after ++ [x], by rw [List.append_assoc, List.cons_append], hP, ?_⟩
      exact List.forall_mem_append.mpr ⟨hafter, List.forall_mem_singleton.mpr hx⟩

/-- **A task was the last to begin**: whoever had a turn after its first one had begun before. A
task begins at its first turn, so only one task can be the last to begin. -/
def BeganLast (i : ι) (log : List (ι × Happening σ Q R)) : Prop :=
  ∃ before happening after, log = before ++ (i, happening) :: after ∧ ¬ Begun i before
    ∧ ∀ x ∈ after, x.1 = i ∨ Begun x.1 before

/-- A task begins. Nobody has begun since. -/
theorem beganLast_of_not_begun (h : ¬ Begun x.1 log) : BeganLast x.1 (log ++ [x]) :=
  ⟨log, x.2, [], rfl, h, List.forall_mem_nil _⟩

/-- A task goes on that has begun. Going on is no beginning. -/
theorem BeganLast.append (h : BeganLast i log) (hx : Begun x.1 log) : BeganLast i (log ++ [x]) := by
  obtain ⟨before, happening, after, rfl, hfirst, hafter⟩ := h
  refine ⟨before, happening, after ++ [x], by rw [List.append_assoc, List.cons_append], hfirst, ?_⟩
  refine List.forall_mem_append.mpr ⟨hafter, List.forall_mem_singleton.mpr ?_⟩
  obtain ⟨y, hy, hyx⟩ := hx
  rw [← hyx]
  obtain hbefore | hrest := List.mem_append.mp hy
  · exact .inr ⟨y, hbefore, rfl⟩
  · obtain rfl | hmem := List.mem_cons.mp hrest
    · exact .inl rfl
    · exact hafter y hmem

end Last

end Testbed.Crew

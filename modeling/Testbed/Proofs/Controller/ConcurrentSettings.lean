import Testbed.Proofs.Controller.ApplyingSteps
import Testbed.Proofs.Controller.Origins
import Testbed.Proofs.Process.Log

/-!
# Settings applied side by side

When settings are applied by several calls at once, the calls change the time-out, the engines and
the settings in force one after the other, and each of these in an order of its own. There is no one
order of the calls behind it: a call can be overtaken between its changes. So the control plane can
end up with the time-out of one call and the settings of another (`settings_mixed`), although every
call has returned without an error.

What can be said is which call each part comes from, and `applied_in_parts` says it: the time-out is
that of the call that began last, the engines are those of the call that gave the engines back last,
and the settings in force are those of the call that ended last. The engines are the one part that
takes more than a step, and here the lock is needed: `Office` is the invariant that one call at a
time configures them, and finds no engine that the call before it has left behind.

What makes the difference is which turn counts. A call has many turns, and the three parts depend on
three different ones: its first, the one at which it gives the lock back, and its last. Two calls
may have these in any order, apart from what the lock forbids. So the three parts may come from
three different calls.
-/

namespace Testbed.Controller

open Crew (Begun BeganLast LastOf)
open Registry (Table)

namespace Headway

/-- What a call knows that configures the engines. There is at most one such call at a time. -/
def tenure? : Headway → Option Tenure
  | working tenure => some tenure
  | _ => none

/-- The report of a call that has configured the engines. Before that it is not complete. -/
def report? : Headway → Option SettingsReport
  | handed report | ended report => some report
  | _ => none

namespace Moves

variable {s : Settings} {g g' : Headway} {c c' : Controller}

theorem not_fresh (h : Moves s g c c' g') : g' ≠ .fresh := by
  cases h with
  | _ => exact nofun

/-- The time-out is swapped at the first step and at no other. The step that drops the clients comes
later and does not set it. -/
theorem timeout (h : Moves s g c c' g') :
    g = .fresh ∧ c'.registry.timeoutMs = Registry.millisOf s.rpcTimeout
      ∨ g ≠ .fresh ∧ c'.registry.timeoutMs = c.registry.timeoutMs := by
  cases h with
  | begins _ htimeout => exact .inl ⟨rfl, htimeout⟩
  | drops _ htimeout | works _ htimeout => exact .inr ⟨nofun, htimeout⟩
  | enters | hands | ends => exact .inr ⟨nofun, rfl⟩

/-- A call ends by putting its settings in force. It is the last of its steps. -/
theorem settings {report : SettingsReport} (h : Moves s g c c' (.ended report)) :
    c'.settings = s := by
  cases h with
  | ends => rfl

end Moves

end Headway

/-- The engines and the lock on them are left alone. Time-out, clients and settings may change. -/
structure SameEngines (c c' : Controller) : Prop where
  table : c'.registry.record? = c.registry.record?
  configured : c'.configured = c.configured
  configuring : c'.configuring = c.configuring

/-- The engines of a table are configured, or were there to begin with and had not been
configured. -/
def Accounted (c₀ : Controller) (configured : List String) (t : Table) : Prop :=
  ∀ id, (t id).isSome = true →
    id ∈ configured ∨ (c₀.registry.record? id).isSome = true ∧ id ∉ c₀.configured

/-- **One call at a time configures the engines.** The second case says that the one call knows the
table and the configured engines, which is what it would lose if somebody else were at them. The
last condition is about the beginning of its work, so that it can be carried over to its end by
`Tenure.Done.others`. -/
inductive Office {ι : Type} (c₀ c : Controller) (headway : ι → Headway) : Prop
  /-- No call does. -/
  | vacant (hidle : c.configuring = false) (hnone : ∀ i, (headway i).tenure? = none)
      (haccounted : Accounted c₀ c.configured c.registry.record?)
  /-- One call does, and no other. -/
  | taken (i : ι) (tenure : Tenure) (hbusy : c.configuring = true)
      (hi : headway i = .working tenure) (honly : ∀ j, j ≠ i → (headway j).tenure? = none)
      (hknows : c.registry.record? = tenure.table ∧ c.configured = tenure.configured)
      (haccounted : Accounted c₀ tenure.configured tenure.first)

section Office

variable {ι : Type} [DecidableEq ι] {s : Settings} {c₀ c c' : Controller} {headway : ι → Headway}
  {i : ι} {g' : Headway}

/-- The call that configures the engines is the only one. What it knows of the table is what the
table is. -/
theorem Office.of_working (h : Office c₀ c headway) {tenure : Tenure}
    (hi : headway i = .working tenure) :
    c.configuring = true ∧ (∀ j, j ≠ i → (headway j).tenure? = none)
      ∧ (c.registry.record? = tenure.table ∧ c.configured = tenure.configured)
      ∧ Accounted c₀ tenure.configured tenure.first := by
  have hsome : (headway i).tenure? = some tenure := by
    rw [hi]
    rfl
  cases h with
  | vacant _ hnone =>
    rw [hnone i] at hsome
    cases hsome
  | taken k tenure' hbusy hk honly hknows haccounted =>
    obtain rfl : i = k := by
      by_contra hne
      rw [honly i hne] at hsome
      cases hsome
    rw [hi] at hk
    cases hk
    exact ⟨hbusy, honly, hknows, haccounted⟩

theorem Office.knows (h : Office c₀ c headway) (i : ι) : (headway i).Knows c := by
  cases hi : headway i with
  | working tenure => exact (h.of_working hi).2.2.1
  | fresh | begun | handed | ended => trivial

/-- A step of a call that does not configure the engines. It may be a step of swapping, waiting or
ending. -/
theorem Office.same (h : Office c₀ c headway) (hsame : SameEngines c c')
    (hg : (headway i).tenure? = none) (hg' : g'.tenure? = none) :
    Office c₀ c' (Function.update headway i g') := by
  cases h with
  | vacant hidle hnone haccounted =>
    refine .vacant (hsame.configuring.trans hidle) ?_ ?_
    · exact (Function.forall_update_iff headway fun _ g => g.tenure? = none).mpr
        ⟨hg', fun j _ => hnone j⟩
    · rw [hsame.configured, hsame.table]
      exact haccounted
  | taken k tenure hbusy hk honly hknows haccounted =>
    have hki : k ≠ i := by
      rintro rfl
      rw [hk] at hg
      cases hg
    refine .taken k tenure (hsame.configuring.trans hbusy) ?_ ?_ ?_ haccounted
    · rw [Function.update_of_ne hki, hk]
    · exact (Function.forall_update_iff headway fun j g => j ≠ k → g.tenure? = none).mpr
        ⟨fun _ => hg', fun j _ => honly j⟩
    · rw [hsame.table, hsame.configured]
      exact hknows

/-- **Every step leaves one call at most to configure the engines.** There are four kinds of steps:
entering, working, handing back, and anything else. A call enters if nobody is inside; while
somebody works nobody enters; and when the engines are handed back, they are accounted for by what
the call has done. -/
theorem Office.moves (h : Office c₀ c headway) (hm : Headway.Moves s (headway i) c c' g') :
    Office c₀ c' (Function.update headway i g') := by
  generalize hg : headway i = g at hm
  have htenure (hnone : g.tenure? = none) : (headway i).tenure? = none := by
    rw [hg]
    exact hnone
  cases hm with
  | begins htable | drops htable => exact h.same ⟨htable, rfl, rfl⟩ (htenure rfl) rfl
  | ends => exact h.same ⟨rfl, rfl, rfl⟩ (htenure rfl) rfl
  | enters hidle =>
    cases h with
    | taken _ _ hbusy =>
      rw [hidle] at hbusy
      cases hbusy
    | vacant _ hnone haccounted =>
      refine .taken i _ rfl (Function.update_self ..) (fun j hj => ?_) ⟨rfl, rfl⟩ haccounted
      rw [Function.update_of_ne hj]
      exact hnone j
  | works htable =>
    obtain ⟨hbusy, honly, ⟨-, hconfigured⟩, haccounted⟩ := h.of_working hg
    refine .taken i _ hbusy (Function.update_self ..) (fun j hj => ?_) ⟨htable, hconfigured⟩
      haccounted
    rw [Function.update_of_ne hj]
    exact honly j hj
  | hands hdone =>
    obtain ⟨-, honly, ⟨htable, -⟩, haccounted⟩ := h.of_working hg
    refine .vacant rfl ?_ fun id hsome => ?_
    · exact (Function.forall_update_iff headway fun _ g => g.tenure? = none).mpr ⟨rfl, honly⟩
    · obtain hnamed | ⟨hfirst, hnot⟩ := hdone.others id (htable ▸ hsome)
      · exact .inl hnamed
      · exact .inr ((haccounted id hfirst).resolve_left hnot)

end Office

/-! ## The parts and their calls

Each part of what is in force comes from one call: the time-out, the engines, the settings. For each
it is said which call that is, by what it was the last to do, and nothing forces the three to be one
and the same. -/

/-- What happened at the turns of calls. Steps, requests and answers are among them. -/
abbrev CallLog (ι : Type) : Type := List (ι × Crew.Happening Controller Call fun _ => Answer)

/-- **A call was the last to give the engines back.** At that turn `configuring` ceases to hold.
There may be calls that configure the engines after it and have not given them back. -/
def HandedLast {ι : Type} (i : ι) (log : CallLog ι) : Prop :=
  LastOf (Crew.Happening.Ceases (·.configuring = true)) i log

/-- **A call was the last to have a turn.** It may have begun long before. -/
def TurnedLast {ι : Type} (i : ι) (log : CallLog ι) : Prop := LastOf (fun _ => True) i log

/-- **The engines are those of settings**, but for engines that were there to begin with and had not
been configured. An engine that was registered by a caller before all this, and was not configured,
may still be there. It is forgotten by none of the calls unless some settings named it. -/
structure EnginesOf (s : Settings) (c₀ c : Controller) : Prop where
  /-- The list names the engines of the settings. -/
  configured : c.configured = s.engines.map (·.id)
  /-- They are registered as the settings name them. -/
  settled : Settled s c.registry.record?
  /-- No others are, if callers have not registered them. -/
  accounted : Accounted c₀ c.configured c.registry.record?

/-- **The engines are those of the call that gave them back last**, if its report is without an
error and no other call configures them. While another call is at work, the table may be anything,
but the list of configured engines is still that of the call that has finished last. -/
def LastEngines {ι : Type} (ss : ι → Settings) (c : Controller) (log : CallLog ι)
    (headway : ι → Headway) : Prop :=
  ∃ i report, HandedLast i log ∧ (headway i).report? = some report
    ∧ c.configured = (ss i).engines.map (·.id)
    ∧ (c.configuring = false → report.result = .ok () → Settled (ss i) c.registry.record?)

/-- **What calls that apply settings have made of the control plane.** Each part has a field of its
own, and each field looks at one kind of turn in the log. This is why the invariant can be kept by
looking at one part after the other: a step that changes the time-out changes no engines, and one
that gives the engines back changes no settings in force. -/
structure InParts {ι : Type} (ss : ι → Settings) (c₀ c : Controller) (log : CallLog ι)
    (headway : ι → Headway) : Prop where
  /-- One call at a time configures the engines. -/
  office : Office c₀ c headway
  /-- Calls that have done nothing have had no turn. -/
  fresh : ∀ i, headway i = .fresh ↔ ¬ Begun i log
  /-- The time-out is that of the call that began last. -/
  timeout : (∃ i, BeganLast i log ∧ c.registry.timeoutMs = Registry.millisOf (ss i).rpcTimeout)
    ∨ ∀ i, headway i = .fresh
  /-- The engines are those of the call that gave them back last. -/
  engines : LastEngines ss c log headway ∨ ∀ i, (headway i).report? = none
  /-- The settings are those of the call that had the last turn, if it ended with it. -/
  settings : ∀ i report, TurnedLast i log → headway i = .ended report → c.settings = ss i

section InParts

variable {ι : Type} [DecidableEq ι] {ss : ι → Settings} {c₀ c c' : Controller}
  {log : CallLog ι} {headway : ι → Headway} {i : ι} {g' : Headway}

theorem InParts.fresh_moves (h : InParts ss c₀ c log headway)
    (hm : Headway.Moves (ss i) (headway i) c c' g') (j : ι) :
    Function.update headway i g' j = .fresh ↔ ¬ Begun j (log ++ [(i, .moved c c')]) := by
  rw [Crew.begun_append]
  by_cases hj : j = i
  · rw [hj, Function.update_self]
    exact iff_of_false hm.not_fresh fun hnot => hnot (.inr rfl)
  · rw [Function.update_of_ne hj, h.fresh j, or_iff_left (Ne.symm hj)]

omit [DecidableEq ι] in
theorem InParts.timeout_moves (h : InParts ss c₀ c log headway)
    (hm : Headway.Moves (ss i) (headway i) c c' g') :
    ∃ j, BeganLast j (log ++ [(i, .moved c c')])
      ∧ c'.registry.timeoutMs = Registry.millisOf (ss j).rpcTimeout := by
  obtain ⟨hfresh, htimeout⟩ | ⟨hbegun, hsame⟩ := hm.timeout
  · exact ⟨i, Crew.beganLast_of_not_begun ((h.fresh i).mp hfresh), htimeout⟩
  · obtain ⟨j, hlast, htimeout⟩ | hfresh := h.timeout
    · exact ⟨j, hlast.append (not_not.mp (mt (h.fresh i).mpr hbegun)), hsame.trans htimeout⟩
    · exact absurd (hfresh i) hbegun

/-- A step at which the engines are not given back. The last call to give them back is the one that
it was, or there was none. -/
theorem InParts.engines_same (h : InParts ss c₀ c log headway)
    (hreport : g'.report? = (headway i).report?) (hconfigured : c'.configured = c.configured)
    (hbusy : c.configuring = true → c'.configuring = true)
    (hidle : c'.configuring = false → c'.registry.record? = c.registry.record?) :
    LastEngines ss c' (log ++ [(i, .moved c c')]) (Function.update headway i g')
      ∨ ∀ j, (Function.update headway i g' j).report? = none := by
  have hreports : ∀ j, (Function.update headway i g' j).report? = (headway j).report? :=
    (Function.forall_update_iff headway fun j g => g.report? = (headway j).report?).mpr
      ⟨hreport, fun _ _ => rfl⟩
  obtain ⟨j, report, hlast, hj, hnamed, hsettled⟩ | hnone := h.engines
  · refine .inl ⟨j, report, Crew.lastOf_append.mpr (.inr ⟨fun hceases => ?_, hlast⟩), ?_, ?_, ?_⟩
    · obtain ⟨hbefore, hafter⟩ := Crew.Happening.ceases_moved_iff.mp hceases
      exact hafter (hbusy hbefore)
    · rw [hreports, hj]
    · rw [hconfigured, hnamed]
    · intro hfree
      rw [hidle hfree]
      exact hsettled (Bool.eq_false_iff.mpr fun hheld => Bool.eq_false_iff.mp hfree (hbusy hheld))
  · refine .inr fun j => ?_
    rw [hreports, hnone]

theorem InParts.engines_moves (h : InParts ss c₀ c log headway)
    (hm : Headway.Moves (ss i) (headway i) c c' g') :
    LastEngines ss c' (log ++ [(i, .moved c c')]) (Function.update headway i g')
      ∨ ∀ j, (Function.update headway i g' j).report? = none := by
  generalize hg : headway i = g at hm
  have hreport (report : Option SettingsReport) (hsame : g.report? = report) :
      report = (headway i).report? := by
    rw [hg, hsame]
  cases hm with
  | begins htable | drops htable => exact h.engines_same (hreport _ rfl) rfl id fun _ => htable
  | ends => exact h.engines_same (hreport _ rfl) rfl id fun _ => rfl
  | enters => exact h.engines_same (hreport _ rfl) rfl (fun _ => rfl) nofun
  | works =>
    refine h.engines_same (hreport _ rfl) rfl id fun hidle => ?_
    exact absurd (h.office.of_working hg).1 (Bool.eq_false_iff.mp hidle)
  | @hands _ tenure report hdone =>
    obtain ⟨hbusy, -, ⟨htable, -⟩, -⟩ := h.office.of_working hg
    refine .inl ⟨i, report, Crew.lastOf_append.mpr (.inl ⟨rfl, ?_⟩), ?_, rfl, fun _ hok => ?_⟩
    · exact Crew.Happening.ceases_moved_iff.mpr ⟨hbusy, Bool.false_ne_true⟩
    · rw [Function.update_self]
      rfl
    · show Settled (ss i) c.registry.record?
      rw [htable]
      exact hdone.settled hok

/-- **Every step keeps the invariant.** The fields are kept separately, by `Office.moves`,
`InParts.fresh_moves`, `InParts.timeout_moves` and `InParts.engines_moves`. What is left is the last
field, and it is immediate: the last turn is the one at hand. -/
theorem InParts.moves (h : InParts ss c₀ c log headway)
    (hm : Headway.Moves (ss i) (headway i) c c' g') :
    InParts ss c₀ c' (log ++ [(i, .moved c c')]) (Function.update headway i g') where
  office := h.office.moves hm
  fresh := h.fresh_moves hm
  timeout := .inl (h.timeout_moves hm)
  engines := h.engines_moves hm
  settings j report hlast hended := by
    obtain ⟨rfl, -⟩ | ⟨hnot, -⟩ := Crew.lastOf_append.mp hlast
    · rw [Function.update_self] at hended
      rw [hended] at hm
      exact hm.settings
    · exact absurd trivial hnot

omit [DecidableEq ι] in
/-- Calls that have done nothing yet. Nobody has done anything, so the last case of everything
applies. -/
theorem inParts_start (ss : ι → Settings) (hidle : c₀.configuring = false) :
    InParts ss c₀ c₀ [] fun _ => .fresh where
  office := .vacant hidle (fun _ => rfl) fun id hsome => by
    by_cases hconfigured : id ∈ c₀.configured
    · exact .inl hconfigured
    · exact .inr ⟨hsome, hconfigured⟩
  fresh i := iff_of_true rfl fun ⟨_, hmem, _⟩ => List.not_mem_nil hmem
  timeout := .inr fun _ => rfl
  engines := .inr fun _ => rfl
  settings _ _ _ hended := by cases hended

/-- **Calls that apply settings**, before their first turns. Their number does not matter. -/
def settingsCrew (ss : ι → Settings) (c : Controller) :
    Crew ι Controller Call (fun _ => Answer) (fun _ => SettingsReport) :=
  Crew.start c fun i => applySettings (ss i)

/-- What calls have made of the control plane when they have returned. The invariant is read at the
end of the run, where each call has a report. -/
theorem inParts_of_returned {schedule : List (ι × Crew.Turn Call fun _ => Answer)}
    (hidle : c₀.configuring = false)
    (h : ∀ i, ((settingsCrew ss c₀).run schedule).stand i ≠ .abandoned) :
    ∃ headway, InParts ss c₀ ((settingsCrew ss c₀).run schedule).state
        ((settingsCrew ss c₀).run schedule).log headway
      ∧ ∀ i report, (((settingsCrew ss c₀).run schedule).stand i).result? = some report →
        headway i = .ended report := by
  rw [Crew.run_eq_goes h]
  have hstart : InParts ss c₀ (settingsCrew ss c₀).state (settingsCrew ss c₀).log
      fun _ => .fresh := inParts_start ss hidle
  have hfollows : ∀ i, ((settingsCrew ss c₀).stand i).Follows (applying (ss i))
      (fun g report => g = .ended report) .fresh := fun i => applySettings_follows (ss i)
  have hpatient : ∀ t ∈ schedule.filter (·.2.goes),
      t.2.Patient fun (_ : Call) (_ : Answer) => True :=
    fun t ht => Crew.Turn.goes_patient (List.mem_filter.mp ht).2
  have hkeeps : ∀ c log headway, InParts ss c₀ c log headway → ∀ i happening c' g',
      Crew.Advances (fun (_ : Call) (_ : Answer) => True) (applying (ss i)) (headway i) c happening
        c' g' → InParts ss c₀ c' (log ++ [(i, happening)]) (Function.update headway i g') := by
    intro c log headway hinv i happening c' g' hadvances
    cases hadvances with
    | moved hmoves => exact hinv.moves hmoves
    | put hasks => exact hasks.elim
    | answered _ hhears => exact hhears.elim
  obtain ⟨headway, hinv, hfollows⟩ := Crew.run_keeps (fun i => applying (ss i)) _ (InParts ss c₀)
    (fun _ _ _ hinv i => hinv.office.knows i) hkeeps hstart hfollows hpatient
  refine ⟨headway, hinv, fun i report hresult => ?_⟩
  obtain ⟨report', hresult', hended⟩ := (hfollows i).of_ended (Crew.ended_of_result hresult)
  rw [hresult] at hresult'
  cases hresult'
  exact hended

/-- **Settings that are applied side by side come into force in parts.** Any number of calls apply
settings to a control plane on which no settings are being applied, in any order of their steps.
When all of them have returned without an error, the time-out of the registry is that of the call
that began last, the engines are those of the call that gave the engines back last, and the settings
in force are those of the call that had the last turn. No call is preferred, and nothing is assumed
of the schedule except that it lets all calls return. That the three calls may be different ones is
no defect of the description: `overtaking_in_parts` is a schedule in which they are. -/
theorem applied_in_parts [Nonempty ι] (ss : ι → Settings) {c₀ : Controller}
    (hidle : c₀.configuring = false) {schedule : List (ι × Crew.Turn Call fun _ => Answer)}
    (hok : ∀ i, ∃ report, (((settingsCrew ss c₀).run schedule).stand i).result? = some report
      ∧ report.result = .ok ()) :
    let crew := (settingsCrew ss c₀).run schedule
    (∃ i, BeganLast i crew.log
        ∧ crew.state.registry.timeoutMs = Registry.millisOf (ss i).rpcTimeout)
      ∧ (∃ i, HandedLast i crew.log ∧ EnginesOf (ss i) c₀ crew.state)
      ∧ ∃ i, TurnedLast i crew.log ∧ crew.state.settings = ss i := by
  intro crew
  obtain ⟨i₀⟩ := ‹Nonempty ι›
  obtain ⟨headway, hinv, hreturned⟩ := inParts_of_returned hidle fun i habandoned => by
    obtain ⟨report, hresult, -⟩ := hok i
    rw [habandoned] at hresult
    cases hresult
  have hended (i : ι) : ∃ report, headway i = .ended report ∧ report.result = .ok () := by
    obtain ⟨report, hresult, hok⟩ := hok i
    exact ⟨report, hreturned i report hresult, hok⟩
  refine ⟨?_, ?_, ?_⟩
  · refine hinv.timeout.resolve_right fun hfresh => ?_
    obtain ⟨report, hended, -⟩ := hended i₀
    rw [hfresh i₀] at hended
    cases hended
  · -- nobody configures the engines any more
    obtain ⟨hfree, haccounted⟩ : crew.state.configuring = false
        ∧ Accounted c₀ crew.state.configured crew.state.registry.record? := by
      cases hinv.office with
      | vacant hfree _ haccounted => exact ⟨hfree, haccounted⟩
      | taken i _ _ hi =>
        obtain ⟨report, hended, -⟩ := hended i
        rw [hi] at hended
        cases hended
    obtain ⟨i, report, hlast, hreport, hconfigured, hsettled⟩ | hnone := hinv.engines
    · obtain ⟨report', hended, hok⟩ := hended i
      rw [hended] at hreport
      cases hreport
      exact ⟨i, hlast, hconfigured, hsettled hfree hok, haccounted⟩
    · obtain ⟨report, hended, -⟩ := hended i₀
      have hreport := hnone i₀
      rw [hended] at hreport
      cases hreport
  · obtain ⟨log, x, hlog⟩ : ∃ log x, crew.log = log ++ [x] := by
      obtain hnil | ⟨log, x, hlog⟩ := List.eq_nil_or_concat crew.log
      · obtain ⟨report, hended, -⟩ := hended i₀
        have hfresh := (hinv.fresh i₀).mpr fun ⟨x, hmem, _⟩ => by
          rw [hnil] at hmem
          cases hmem
        rw [hended] at hfresh
        cases hfresh
      · exact ⟨log, x, hlog.trans List.concat_eq_append⟩
    have hlast : TurnedLast x.1 crew.log := by
      rw [hlog]
      exact Crew.lastOf_append.mpr (.inl ⟨rfl, trivial⟩)
    obtain ⟨report, hended, -⟩ := hended x.1
    exact ⟨x.1, hlast, hinv.settings x.1 report hlast hended⟩

end InParts

section Examples

/-- Settings that name no engine can be applied in every state in which nobody is at work. No
address can be in the way then. -/
theorem applicable_of_no_engines {s : Settings} (hs : s.engines = []) {c : Controller}
    (hc : Ready c) :
    ∃ report c', (applySettings s).Settles c report c' ∧ report.result = .ok ()
      ∧ c'.settings = s := by
  obtain ⟨report, c', ha⟩ := hc.applied s
  refine ⟨report, c', ha.settles, ?_, ha.settings⟩
  have hengines := ha.engines
  rw [hs] at hengines
  unfold SettingsReport.result SettingsReport.failures
  rw [ha.kept, List.map_eq_nil_iff.mp hengines]
  rfl

/-- Two settings that differ in the time-out. Both name no engine. -/
def twoTimeouts (second : Bool) : Settings :=
  { settingsWith [] with rpcTimeout := if second then ⟨5, 0⟩ else ⟨60, 0⟩ }

/-- Settings with a very long time-out, longer than a registry can hold in milliseconds. -/
def longTimeout : Settings := { settingsWith [] with rpcTimeout := ⟨9223372036854775807, 0⟩ }

/-- The first call swaps the time-out, and before it goes on the second call does all its work. The
schedule is written out, so the run can be evaluated. -/
def overtaking : List (Bool × Crew.Turn Call fun _ => Answer) :=
  (false :: List.replicate 8 true ++ List.replicate 7 false).map fun i =>
    (i, .go fun _ => .ok .null)

/-- Both calls return, without an error. The run ends with both of them satisfied, which is what
makes the mixture worth knowing. -/
theorem overtaking_returned (i : Bool) :
    ∃ report, (((settingsCrew twoTimeouts (initial (settingsWith []))).run overtaking).stand
      i).result? = some report ∧ report.result = .ok () := by
  have hfailures : (((settingsCrew twoTimeouts (initial (settingsWith []))).run overtaking).stand
      i).result?.map (·.failures) = some [] := by
    revert i
    decide +kernel
  obtain ⟨report, hreport, hfailures⟩ := Option.map_eq_some_iff.mp hfailures
  refine ⟨report, hreport, ?_⟩
  rw [SettingsReport.result, hfailures]
  rfl

/-- A call is overtaken by another one: the time-out is still that of the call that began last, the
engines and the settings those of the calls that were last with them. -/
theorem overtaking_in_parts :
    let crew := (settingsCrew twoTimeouts (initial (settingsWith []))).run overtaking
    (initial (settingsWith [])).configuring = false
      ∧ (∀ i, ∃ report, (crew.stand i).result? = some report ∧ report.result = .ok ())
      ∧ (∃ i, BeganLast i crew.log
        ∧ crew.state.registry.timeoutMs = Registry.millisOf (twoTimeouts i).rpcTimeout)
      ∧ (∃ i, HandedLast i crew.log
        ∧ EnginesOf (twoTimeouts i) (initial (settingsWith [])) crew.state)
      ∧ ∃ i, TurnedLast i crew.log ∧ crew.state.settings = twoTimeouts i :=
  ⟨rfl, overtaking_returned, applied_in_parts twoTimeouts rfl overtaking_returned⟩

/-- **The time-out of one call and the settings of another**: two calls that can be applied in every
state return without an error, and no settings are those that the time-out and the settings in force
come from. Nor is the time-out always the one of the settings to the letter, if there is only one
call: a very long one is cut to what the registry can hold. The two settings differ in the time-out
only. The first call swaps the time-out for its own and is then overtaken by the second, which does
all of its work, so that the second time-out and the first settings are what remains. -/
theorem settings_mixed :
    let crew := (settingsCrew twoTimeouts (initial (settingsWith []))).run overtaking
    (∀ i c, Ready c →
        ∃ report c', (applySettings (twoTimeouts i)).Settles c report c' ∧ report.result = .ok ())
      ∧ (∀ i, ∃ report, (crew.stand i).result? = some report ∧ report.result = .ok ())
      ∧ (¬ ∃ i, crew.state.registry.timeoutMs = Registry.millisOf (twoTimeouts i).rpcTimeout
        ∧ crew.state.settings = twoTimeouts i)
      ∧ ∃ report c', (applySettings longTimeout).Settles (initial (settingsWith [])) report c'
        ∧ report.result = .ok () ∧ c'.settings = longTimeout
        ∧ c'.registry.timeout ≠ longTimeout.rpcTimeout := by
  dsimp only
  refine ⟨fun i c hc => ?_, overtaking_returned, ?_, ?_⟩
  · obtain ⟨report, c', hsettles, hok, -⟩ :=
      applicable_of_no_engines (s := twoTimeouts i) rfl hc
    exact ⟨report, c', hsettles, hok⟩
  · have htimeout : ((settingsCrew twoTimeouts (initial (settingsWith []))).run
        overtaking).state.registry.timeoutMs = 5000 := by
      decide +kernel
    have hsettings : ((settingsCrew twoTimeouts (initial (settingsWith []))).run
        overtaking).state.settings.rpcTimeout = ⟨60, 0⟩ := by
      decide +kernel
    rintro ⟨i, htimeout', hsettings'⟩
    rw [htimeout] at htimeout'
    rw [hsettings'] at hsettings
    cases i with
    | false => exact absurd htimeout' (by decide)
    | true => exact absurd hsettings (by decide)
  · obtain ⟨report, c', hsettles, hok, hsettings⟩ :=
      applicable_of_no_engines (s := longTimeout) rfl (ready_initial (settingsWith []))
    have hcut : ((applySettings longTimeout).transcript (fun _ _ => none)
        (initial (settingsWith []))).after.registry.timeout ≠ longTimeout.rpcTimeout := by
      decide +kernel
    rw [hsettles.transcript] at hcut
    exact ⟨report, c', hsettles, hok, hsettings, hcut⟩

end Examples

end Testbed.Controller

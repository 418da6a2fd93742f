import Testbed.Proofs.Controller.Settings
import Testbed.Proofs.Process.Dialogue

/-!
# Settings on their way into force

Applying settings touches three things: the time-out of the registry, the engines, and the settings
in force. Each is changed at a moment of its own, and between these moments others have their turns.
Only the engines are changed under a lock, which is `configuring`: while a call has it, nobody else
writes to the table of engines, although others may still drop clients.

So a call can be followed by how far it got (`Headway`). What it knows while it has the lock is the
table, which is as it left it (`Tenure`), and when it gives the lock back, the table holds its
engines – if its report is without an error – and no engine that had been configured before
(`Tenure.Done`). `applySettings_follows` says that this is how settings are applied; who else is at
work at the time does not matter to it.

The lock is not held from the beginning to the end. The time-out is swapped before it is taken, and
the settings are put in force after it was given back. What happens in these gaps is up to others,
and a call knows nothing of the engines then (`Headway.Knows`); nor does it have to, as neither step
reads them.

What is said of the engines at the end is said of every table that they may have been found in. In
particular nothing is assumed of the settings: an identifier may be given twice, and then one of its
records is in the row at the end, which `Settled` allows for.
-/

namespace Testbed.Controller

open Process (follows_bind)
open Registry (Table)

/-! ## How far a call got

A call goes through stages: fresh, begun, configuring, handed back, ended. In the stage where it
configures the engines it knows what it has made of the table, since nobody else writes there. -/

/-- **What a call knows of the engines** while nobody else configures them. The table is known
exactly, and not only which engines are in it. While the lock is held all writing to it is the
call's own, so it is known from one step to the next. -/
structure Tenure where
  /-- The engines that were configured before. -/
  configured : List String
  /-- The table at the beginning. -/
  first : Table
  /-- The table now. -/
  table : Table

/-- Every engine that settings name is in its row of a table. If an identifier is given twice, one
of its records is. -/
def Settled (s : Settings) (t : Table) : Prop :=
  ∀ id ∈ s.engines.map (·.id), ∃ record ∈ s.engines, record.id = id ∧ t id = some record

/-- **The work of a call on the engines is done.** Nothing is said about the engines in case of an
error, except that no engine is there that was configured before and is not any more: forgetting
engines never fails. -/
structure Tenure.Done (tenure : Tenure) (s : Settings) (report : SettingsReport) : Prop where
  /-- Without an error, the engines are as the settings name them. -/
  settled : report.result = .ok () → Settled s tenure.table
  /-- Other engines were there before and had not been configured. -/
  others : ∀ id, (tenure.table id).isSome = true →
    id ∈ s.engines.map (·.id) ∨ (tenure.first id).isSome = true ∧ id ∉ tenure.configured

/-- **How far a call is that applies settings.** The report is there from the moment at which the
engines are handed back. It does not change when the settings are put in force, which cannot fail.
-/
inductive Headway where
  /-- It has done nothing yet. -/
  | fresh
  /-- It has swapped the time-out. -/
  | begun
  /-- It configures the engines. -/
  | working (tenure : Tenure)
  /-- It has configured the engines. -/
  | handed (report : SettingsReport)
  /-- It has put its settings in force. -/
  | ended (report : SettingsReport)

namespace Headway

/-- **The steps of a call that applies settings.** Every step says what it does to the time-out and
to the table, since these are what other calls are concerned with. -/
inductive Moves (s : Settings) : Headway → Controller → Controller → Headway → Prop
  /-- It swaps the time-out. -/
  | begins {c : Controller} {r : Registry} (htable : r.record? = c.registry.record?)
      (htimeout : r.timeoutMs = Registry.millisOf s.rpcTimeout) :
      Moves s .fresh c (c.setRegistry r) .begun
  /-- It drops clients on account of the time-out. -/
  | drops {c : Controller} {r : Registry} (htable : r.record? = c.registry.record?)
      (htimeout : r.timeoutMs = c.registry.timeoutMs) : Moves s .begun c (c.setRegistry r) .begun
  /-- It is the one that configures the engines. -/
  | enters {c : Controller} (hidle : c.configuring = false) :
      Moves s .begun c (c.setConfiguring true)
        (.working ⟨c.configured, c.registry.record?, c.registry.record?⟩)
  /-- It works on the registry. -/
  | works {c : Controller} {r : Registry} {tenure : Tenure} {table : Table}
      (htable : r.record? = table) (htimeout : r.timeoutMs = c.registry.timeoutMs) :
      Moves s (.working tenure) c (c.setRegistry r) (.working { tenure with table })
  /-- It has configured the engines. -/
  | hands {c : Controller} {tenure : Tenure} {report : SettingsReport}
      (hdone : tenure.Done s report) :
      Moves s (.working tenure) c
        { c with configured := s.engines.map (·.id), configuring := false } (.handed report)
  /-- It puts its settings in force. -/
  | ends {c : Controller} {report : SettingsReport} :
      Moves s (.handed report) c { c with settings := s } (.ended report)

/-- **What a call knows** of the engines while it configures them. At every other stage it knows
nothing, and others may do with the engines what they like. -/
def Knows : Headway → Controller → Prop
  | working tenure, c => c.registry.record? = tenure.table ∧ c.configured = tenure.configured
  | _, _ => True

end Headway

/-- **The dialogue of a call that applies settings.** It asks nothing. Nothing is asked, because a
call that applies settings makes no request to any engine: registering one does not connect it. -/
def applying (s : Settings) : Dialogue Headway Controller Call (fun _ => Answer) where
  knows := Headway.Knows
  moves := Headway.Moves s
  asks _ _ _ := False
  hears _ _ _ _ := False

/-! ## The engines

The operations on engines, as steps within that stage. Other calls may take the registry in between,
but what they do is not to the table. -/

section Writing

variable {Q α : Type} {R : Q → Type} {t : Table}

/-- **The dialogue of an operation of the registry**, if nobody else writes to the table: its role
is the table. An operation of the registry that writes to the table also marks the registry as held
and drops clients. These steps leave the table and the time-out alone, and the dialogue does not
tell them apart from doing nothing. -/
def writing {Q : Type} {R : Q → Type} : Dialogue Table Registry Q R where
  knows t r := r.record? = t
  moves _ r r' t' := r'.record? = t' ∧ r'.timeoutMs = r.timeoutMs
  asks _ _ _ := False
  hears _ _ _ _ := False

/-- Taking the registry and giving it back leaves the table alone. They are no writing. -/
theorem exclusively_follows {p : Process Registry Q R α} {post : Table → α → Prop}
    (hp : p.Follows writing post t) : (Registry.exclusively p).Follows writing post t := by
  refine fun r hr _ => ⟨t, ⟨hr, rfl⟩, ?_⟩
  show Process.Follows _ _ _ ((p.onAbandon Registry.release).bind fun a => _)
  refine follows_bind.mpr ((hp.onAbandon _).mono fun t' a ha => ?_)
  exact fun r hr _ => ⟨t', ⟨hr, rfl⟩, ha⟩

theorem unregister_follows (id : String) :
    (Registry.unregister id : Process Registry Q R _).Follows writing (fun t' result =>
      (result = .ok () ∨ result = .error (.unknown id)) ∧ t' = Function.update t id none) t := by
  refine exclusively_follows fun r hr _ => ⟨t, ⟨hr, rfl⟩, ?_⟩
  show Process.Follows _ _ _ (if (r.entry? id).isSome = true then _ else _)
  split
  · refine fun r hr _ => ⟨Function.update t id none, ⟨?_, rfl⟩, fun r hr _ =>
      ⟨_, ⟨hr, rfl⟩, .inl rfl, rfl⟩⟩
    rw [Registry.record?_dropEntry, hr]
  · rename_i hunknown
    refine ⟨.inr rfl, ?_⟩
    have hnone : t id = none := by
      rw [← hr, Registry.record?_eq_comp, Function.comp_apply,
        Option.not_isSome_iff_eq_none.mp hunknown]
      rfl
    rw [← hnone, Function.update_eq_self]

theorem register_follows (record : EngineRecord) :
    (Registry.register record : Process Registry Q R _).Follows writing (fun t' result =>
      result = .ok () ∧ t' = Function.update t record.id (some record)
        ∨ (∃ e, result = .error e) ∧ t' = t) t := by
  refine exclusively_follows fun r hr _ => ⟨t, ⟨hr, rfl⟩, ?_⟩
  show Process.Follows _ _ _ ((Process.done (r.addressOwner? record)).bind _)
  cases r.addressOwner? record with
  | some owner => exact .inr ⟨⟨_, rfl⟩, rfl⟩
  | none =>
    refine fun r hr _ => ⟨Function.update t record.id (some record), ⟨?_, rfl⟩, .inl ⟨rfl, rfl⟩⟩
    rw [Registry.record?_putRecord, hr]

end Writing

section Engines

variable {α : Type} {s : Settings} {tenure : Tenure}

/-- While a call configures the engines, the table is written to by nobody else. So what it has
written stays. -/
theorem onRegistry_follows {p : Process Registry Call (fun _ => Answer) α}
    {post : Table → α → Prop} (hp : p.Follows writing post tenure.table) :
    (onRegistry p).Follows (applying s) (fun g a =>
      ∃ table, g = .working { tenure with table } ∧ post table a) (.working tenure) := by
  show (p.zoom Controller.registry setRegistry).Follows _ _ _
  induction p generalizing tenure with
  | done a => exact ⟨tenure.table, rfl, hp⟩
  | step ready update next abandon ih =>
    intro c hc hready
    obtain ⟨table, ⟨htable, htimeout⟩, hnext⟩ := hp c.registry hc.1 hready
    exact ⟨_, .works htable htimeout, @ih c.registry { tenure with table } hnext⟩
  | ask question next abandon ih =>
    obtain ⟨_, hasks, -⟩ := hp
    exact hasks.elim

theorem forgetEngines_follows (ids : List String) :
    (forgetEngines ids).Follows (applying s) (fun g kept => kept = [] ∧ g = .working { tenure with
      table := fun id => if id ∈ ids then none else tenure.table id }) (.working tenure) := by
  induction ids generalizing tenure with
  | nil => exact ⟨rfl, rfl⟩
  | cons id rest ih =>
    refine follows_bind.mpr ((onRegistry_follows (unregister_follows id)).mono ?_)
    rintro _ result ⟨table, rfl, hresult, rfl⟩
    refine follows_bind.mpr (ih.mono ?_)
    rintro _ _ ⟨rfl, rfl⟩
    have htable := takeOut_cons tenure.table id rest
    obtain rfl | rfl := hresult
    · exact ⟨rfl, congrArg (fun table => Headway.working { tenure with table }) htable⟩
    · exact ⟨rfl, congrArg (fun table => Headway.working { tenure with table }) htable⟩

/-- The table after an engine was tried. A failure writes nothing. -/
def EngineOutcome.write (record : EngineRecord) (t : Table) : EngineOutcome → Table
  | unchanged | registered => Function.update t record.id (some record)
  | failed _ => t

/-- The table after engines were tried in turn. They are written in the order of the attempts. -/
def tableAfter (t : Table) : List (EngineRecord × EngineOutcome) → Table
  | [] => t
  | (record, outcome) :: rest => tableAfter (outcome.write record t) rest

theorem ensureEngine_follows (record : EngineRecord) :
    (ensureEngine record).Follows (applying s) (fun g outcome => g = .working { tenure with
      table := outcome.write record tenure.table }) (.working tenure) := by
  intro c hc _
  show ∃ g', Headway.Moves s (.working tenure) c (c.setRegistry c.registry) g'
    ∧ Process.Follows _ _ g' (if c.registry.record? record.id = some record then _ else _)
  refine ⟨.working tenure, .works hc.1 rfl, ?_⟩
  rw [hc.1]
  split
  · rename_i hrow
    show Headway.working tenure = .working { tenure with table := Function.update _ _ _ }
    rw [← hrow, Function.update_eq_self]
  · refine follows_bind.mpr ((onRegistry_follows (register_follows record)).mono ?_)
    rintro _ result ⟨table, rfl, ⟨rfl, rfl⟩ | ⟨⟨e, rfl⟩, rfl⟩⟩
    · rfl
    · rfl

theorem ensureEngines_follows (engines : List EngineRecord) :
    (ensureEngines engines).Follows (applying s) (fun g tried => tried.map (·.1) = engines
      ∧ g = .working { tenure with table := tableAfter tenure.table tried }) (.working tenure) := by
  induction engines generalizing tenure with
  | nil => exact ⟨rfl, rfl⟩
  | cons record rest ih =>
    refine follows_bind.mpr ((ensureEngine_follows record).mono ?_)
    rintro _ outcome rfl
    refine follows_bind.mpr (ih.mono ?_)
    rintro _ tried ⟨rfl, rfl⟩
    exact ⟨rfl, rfl⟩

end Engines

/-! ## The whole call

The stages put together. What the call has done to the table is told by its own attempts, from the
table that it found. -/

section Calls

variable {s : Settings} {t : Table} {tried : List (EngineRecord × EngineOutcome)} {id : String}

/-- The time-out is swapped first, and clients are dropped afterwards. In between another call may
swap it again. -/
theorem setTimeout_follows :
    (onRegistry (Registry.setTimeout s.rpcTimeout)).Follows (applying s) (fun g _ => g = .begun)
      .fresh := by
  intro c _ _
  let ms := Registry.millisOf s.rpcTimeout
  show ∃ g', Headway.Moves s .fresh c (c.setRegistry { c.registry with timeoutMs := ms }) g'
    ∧ Process.Follows _ _ g' (onRegistry (if c.registry.timeoutMs = ms then _ else _))
  refine ⟨.begun, .begins rfl rfl, ?_⟩
  split
  · rfl
  · refine fun c _ _ => ⟨.begun, .drops rfl rfl, fun c _ _ => ⟨.begun, .drops ?_ rfl, ?_⟩⟩
    · exact Registry.record?_dropBuilt c.registry
    · exact fun c _ _ => ⟨.begun, .drops rfl rfl, rfl⟩

/-- A row is written by an engine that was tried, or is as before. No attempt takes a row out. -/
theorem tableAfter_isSome (h : (tableAfter t tried id).isSome = true) :
    id ∈ tried.map (·.1.id) ∨ (t id).isSome = true := by
  induction tried generalizing t with
  | nil => exact .inr h
  | cons x rest ih =>
    obtain ⟨record, outcome⟩ := x
    obtain hmem | hsome := ih h
    · exact .inl (List.mem_cons_of_mem _ hmem)
    · by_cases hid : id = record.id
      · rw [hid]
        exact .inl List.mem_cons_self
      · cases outcome with
        | unchanged | registered =>
          rw [EngineOutcome.write, Function.update_of_ne hid] at hsome
          exact .inr hsome
        | failed => exact .inr hsome

/-- If all engines that are tried succeed, a row is as before unless one of them is in it. The rows
of engines with one identifier are written more than once, and the last counts. -/
theorem tableAfter_of_succeed (id : String) (h : ∀ x ∈ tried, x.2.Succeeds) :
    (∃ x ∈ tried, x.1.id = id ∧ tableAfter t tried id = some x.1)
      ∨ id ∉ tried.map (·.1.id) ∧ tableAfter t tried id = t id := by
  induction tried generalizing t with
  | nil => exact .inr ⟨List.not_mem_nil, rfl⟩
  | cons x rest ih =>
    obtain ⟨record, outcome⟩ := x
    obtain ⟨hfirst, hrest⟩ := List.forall_mem_cons.mp h
    have hwrite : outcome.write record t = Function.update t record.id (some record) := by
      cases outcome with
      | unchanged | registered => rfl
      | failed => exact hfirst.elim
    show _ ∨ _ ∧ tableAfter (outcome.write record t) rest id = t id
    obtain ⟨x, hx, hid, hrow⟩ | ⟨hnotMem, hrow⟩ := ih (t := outcome.write record t) hrest
    · exact .inl ⟨x, List.mem_cons_of_mem _ hx, hid, hrow⟩
    · rw [hrow, hwrite]
      by_cases hid : id = record.id
      · refine .inl ⟨(record, outcome), List.mem_cons_self, hid.symm, ?_⟩
        show tableAfter (outcome.write record t) rest id = some record
        rw [hrow, hwrite, hid, Function.update_self]
      · exact .inr ⟨mt List.mem_cons.mp fun hmem => hmem.elim hid hnotMem,
          Function.update_of_ne hid ..⟩

/-- Engines are forgotten and others are tried: this is all that a call does to the engines. The
engines that were to be forgotten have no rows, the others have theirs. -/
theorem done_of_tried {configured : List String} {first : Table}
    (hengines : tried.map (·.1) = s.engines) :
    Tenure.Done ⟨configured, first, tableAfter (fun id =>
      if id ∈ configured.filter (fun id => !(s.engines.map (·.id)).contains id) then none
      else first id) tried⟩ s { engines := tried } where
  settled hok id hid := by
    obtain ⟨x, hx, hxid, hrow⟩ | ⟨hnotMem, -⟩ :=
      tableAfter_of_succeed id ((result_ok_iff tried).mp hok)
    · refine ⟨x.1, ?_, hxid, hrow⟩
      rw [← hengines]
      exact List.mem_map_of_mem hx
    · rw [← hengines, List.map_map] at hid
      exact absurd hid hnotMem
  others id hsome := by
    obtain hmem | hsome := tableAfter_isSome hsome
    · rw [← hengines, List.map_map]
      exact .inl hmem
    · by_cases hnamed : id ∈ s.engines.map (·.id)
      · exact .inl hnamed
      split at hsome
      · cases hsome
      · rename_i hkept
        refine .inr ⟨hsome, fun hconfigured => hkept (List.mem_filter.mpr ⟨hconfigured, ?_⟩)⟩
        rw [List.contains_eq_mem, Bool.not_eq_true', decide_eq_false_iff_not]
        exact hnamed

/-- **A call that applies settings** takes its steps, from the first to the last. It is assembled
from its three parts – the time-out, the engines under their lock, and the settings – and ends with
the report that it returns. Nothing is assumed about the state it is started in. -/
theorem applySettings_follows (s : Settings) :
    (applySettings s).Follows (applying s) (fun g report => g = .ended report) .fresh := by
  refine follows_bind.mpr (setTimeout_follows.mono ?_)
  rintro _ _ rfl c - hidle
  refine ⟨_, .enters ((Bool.not_eq_true' _).mp hidle), ?_⟩
  let wanted := s.engines.map (·.id)
  have hwork : Process.Follows (applying s) (fun g report => g = .handed report)
      (.working ⟨c.configured, c.registry.record?, c.registry.record?⟩)
      (do
        let before ← Process.read (·.configured)
        let kept ← forgetEngines (before.filter (fun id => !wanted.contains id))
        let engines ← ensureEngines s.engines
        Process.change (fun c => { c with configured := wanted, configuring := false })
        return ({ kept, engines } : SettingsReport)) := by
    intro c' hc' _
    obtain ⟨hrow, hconfigured⟩ : _ ∧ c'.configured = c.configured := hc'
    refine ⟨_, .works hrow rfl, ?_⟩
    show Process.Follows _ _ _
      ((forgetEngines (c'.configured.filter fun id => !wanted.contains id)).bind _)
    rw [hconfigured]
    refine follows_bind.mpr ((forgetEngines_follows _).mono ?_)
    rintro _ _ ⟨rfl, rfl⟩
    refine follows_bind.mpr ((ensureEngines_follows s.engines).mono ?_)
    rintro _ tried ⟨hengines, rfl⟩
    exact fun _ _ _ => ⟨.handed { engines := tried }, .hands (done_of_tried hengines), rfl⟩
  show Process.Follows _ _ _ ((Process.onAbandon (setConfiguring false) _).bind _)
  refine follows_bind.mpr ((hwork.onAbandon _).mono ?_)
  rintro _ report rfl
  exact fun _ _ _ => ⟨.ended report, .ends, rfl⟩

end Calls

end Testbed.Controller

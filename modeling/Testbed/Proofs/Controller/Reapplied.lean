import Testbed.Proofs.Controller.ConcurrentSettings
import Testbed.Proofs.Process.Interference

/-!
# The same settings again

Settings are applied without an error exactly if all their engines are in place afterwards, and then
applying them again has nothing left to do. Neither asks anything of the table of engines at the
beginning, which may hold whatever engines, at whatever addresses: an engine that is tried finds its
record in its row or is refused or is written there, and the engines that are tried after it have
rows of their own (`ensureEngines_in_place`).

Others may be at work on the control plane in the meantime, as long as they leave the engines and
the settings alone. These are its `bearings`, and a call that applies settings heeds nothing else.

That the second call does nothing is more than that it finds the engines it wants. Its report says
of every engine that it is unchanged, the time-out is the one that is there, so no client is
dropped, and the list of engines to be forgotten is empty. The registry is therefore the same in all
its parts, and not only in its table.
-/

namespace Testbed.Controller

open Process (heeds_bind heeds_onAbandon heeds_whenReady heeds_zoom)

variable {c c' : Controller} {s : Settings}

/-! ## Engines in place

An engine that is registered with its record is left alone by the operation that makes sure of it.
This goes for many of them by induction. -/

/-- **Making sure of an engine** succeeds exactly if it is in place afterwards, and leaves the rows
of the others alone. The three outcomes are looked at one by one. A refused engine is not in place:
if it were, its record would have been found in its row and it would not have been tried. -/
theorem ensureEngine_in_place (record : EngineRecord) (h : c.registry.held = false) :
    ∃ outcome r, (ensureEngine record).Settles c outcome (c.setRegistry r) ∧ r.held = false
      ∧ (∀ id, id ≠ record.id → r.record? id = c.registry.record? id)
      ∧ (outcome.Succeeds ↔ r.record? record.id = some record) := by
  by_cases hrow : c.registry.record? record.id = some record
  · exact ⟨.unchanged, c.registry, ensureEngine_unchanged h hrow, h, fun _ _ => rfl,
      iff_of_true trivial hrow⟩
  obtain ⟨hrow', -⟩ | ⟨owner, -, hsettles⟩ | ⟨-, hsettles⟩ := ensureEngine_settles record h
  · exact absurd hrow' hrow
  · exact ⟨_, c.registry, hsettles, h, fun _ _ => rfl, iff_of_false id hrow⟩
  · refine ⟨_, c.registry.putRecord record, hsettles, h, fun id hid => ?_, iff_of_true trivial ?_⟩
    · rw [Registry.record?_putRecord, Function.update_of_ne hid]
    · rw [Registry.record?_putRecord, Function.update_self]

/-- **Making sure of engines** that have rows of their own: each of them succeeds exactly if it is
in place at the end. By induction over the engines. Their identifiers are different, so what was
found about the first is not changed by trying the others. -/
theorem ensureEngines_in_place {engines : List EngineRecord} (hids : (engines.map (·.id)).Nodup)
    (h : c.registry.held = false) :
    ∃ tried r, tried.map (·.1) = engines
      ∧ (ensureEngines engines).Settles c tried (c.setRegistry r) ∧ r.held = false
      ∧ (∀ id, id ∉ engines.map (·.id) → r.record? id = c.registry.record? id)
      ∧ ∀ x ∈ tried, (x.2.Succeeds ↔ r.record? x.1.id = some x.1) := by
  induction engines generalizing c with
  | nil => exact ⟨[], c.registry, rfl, rfl, h, fun _ _ => rfl, List.forall_mem_nil _⟩
  | cons record rest ih =>
    obtain ⟨hid, hids⟩ := List.nodup_cons.mp hids
    obtain ⟨outcome, r, hfirst, hheld, hothers, hplace⟩ := ensureEngine_in_place record h
    obtain ⟨tried, r', rfl, hrest, hheld', hothers', hplaces⟩ :=
      ih (c := c.setRegistry r) hids hheld
    refine ⟨(record, outcome) :: tried, r', rfl,
      hfirst.andThen (hrest.andThen (Process.settles_pure _ _)), hheld', fun id hmem => ?_,
      List.forall_mem_cons.mpr ⟨?_, hplaces⟩⟩
    · obtain ⟨hne, hmem⟩ := not_or.mp (mt List.mem_cons.mpr hmem)
      exact (hothers' id hmem).trans (hothers id hne)
    · -- the engines tried after it leave its row alone
      rw [hplace, hothers' record.id hid]
      rfl

/-- Making sure of engines that are in place already. The report says of each that it is unchanged.
-/
theorem ensureEngines_unchanged {engines : List EngineRecord} (h : c.registry.held = false)
    (hrows : ∀ record ∈ engines, c.registry.record? record.id = some record) :
    (ensureEngines engines).Settles c (engines.map (·, .unchanged)) c := by
  induction engines with
  | nil => exact Process.settles_pure _ _
  | cons record rest ih =>
    obtain ⟨hrow, hrows⟩ := List.forall_mem_cons.mp hrows
    exact (ensureEngine_unchanged h hrow).andThen ((ih hrows).andThen (Process.settles_pure _ _))

/-! ## A call that has the control plane to itself

Applied twice, settings find everything as they have left it. The time-out is the same, nothing is
to be forgotten, and every engine is in place. -/

/-- The time-out that settings leave is theirs. It is set at the first step. -/
theorem timeout_of_settles {report : SettingsReport}
    (h : (applySettings s).Settles c report c') :
    c'.registry.timeoutMs = Registry.millisOf s.rpcTimeout := by
  -- it is set at the first step, and no other step touches it
  let Inv (g : Headway) (c : Controller) : Prop :=
    g.Knows c ∧ (g ≠ .fresh → c.registry.timeoutMs = Registry.millisOf s.rpcTimeout)
  have hkeeps : ∀ g c c' g', Inv g c → Headway.Moves s g c c' g' → Inv g' c' := by
    rintro g c c' g' ⟨hknows, htimeout⟩ hmoves
    refine ⟨?_, fun _ => ?_⟩
    · cases hmoves with
      | enters => exact ⟨rfl, rfl⟩
      | works htable => exact ⟨htable, hknows.2⟩
      | begins | drops | hands | ends => trivial
    · obtain ⟨-, hset⟩ | ⟨hne, hkept⟩ := hmoves.timeout
      · exact hset
      · exact hkept.trans (htimeout hne)
  obtain ⟨g, hinv, rfl⟩ := (applySettings_follows s).of_settles Inv (fun _ _ hinv => hinv.1) hkeeps
    ⟨trivial, fun hne => absurd rfl hne⟩ h
  exact hinv.2 nofun

/-- **Applying settings** whose engines have rows of their own: each of them succeeds exactly if it
is in place at the end. In contrast to the conditions under which settings succeed, nothing is asked
of the engines that were there before. The answer is given in terms of the table at the end. -/
theorem applySettings_in_place (hids : (s.engines.map (·.id)).Nodup)
    (hfree : c.registry.held = false) (hidle : c.configuring = false) :
    ∃ tried r, tried.map (·.1) = s.engines
      ∧ (applySettings s).Settles c { engines := tried } (configuredWith s r c) ∧ r.held = false
      ∧ ∀ x ∈ tried, (x.2.Succeeds ↔ r.record? x.1.id = some x.1) := by
  obtain ⟨r₁, hp₁, hheld₁, -⟩ :=
    rewrites_onRegistry (c := c) (Registry.setTimeout_settles s.rpcTimeout hfree)
  let c₁ := setConfiguring true (c.setRegistry r₁)
  obtain ⟨r₂, hp₂, hheld₂, -⟩ := forgetEngines_rewrites (c := c₁)
    (c.configured.filter (fun id => !(s.engines.map (·.id)).contains id)) hheld₁
  obtain ⟨tried, r₃, hengines, hp₃, hheld₃, -, hplaces⟩ :=
    ensureEngines_in_place (c := c₁.setRegistry r₂) hids hheld₂
  exact ⟨tried, r₃, hengines, applySettings_settles_of hidle hp₁ hp₂ hp₃, hheld₃, hplaces⟩

/-- **The control plane is as settings leave it**, with all their engines in place. It is more than
success: the time-out, the list of configured engines and the settings in force are also as the
settings say. -/
structure InForce (s : Settings) (c : Controller) : Prop where
  free : c.registry.held = false
  idle : c.configuring = false
  timeout : c.registry.timeoutMs = Registry.millisOf s.rpcTimeout
  configured : c.configured = s.engines.map (·.id)
  settings : c.settings = s
  rows : ∀ record ∈ s.engines, c.registry.record? record.id = some record

/-- **Settings that are in force are applied without a change.** The state at the end is the state
at the beginning, with all that is in it. -/
theorem InForce.applySettings (h : InForce s c) :
    (applySettings s).Settles c { engines := s.engines.map (·, .unchanged) } c := by
  have hforgotten : c.configured.filter (fun id => !(s.engines.map (·.id)).contains id) = [] := by
    rw [h.configured, List.filter_eq_nil_iff]
    intro id hid
    simp [List.contains_eq_mem, hid]
  have htimeout : (onRegistry (Registry.setTimeout s.rpcTimeout)).Settles c () c :=
    onRegistry_settles (Registry.setTimeout_same h.timeout)
  have hforget : (forgetEngines (c.configured.filter fun id =>
      !(s.engines.map (·.id)).contains id)).Settles (setConfiguring true c) []
        (setConfiguring true c) := by
    rw [hforgotten]
    exact Process.settles_pure _ _
  have hensure : (ensureEngines s.engines).Settles (setConfiguring true c)
      (s.engines.map (·, .unchanged)) (setConfiguring true c) :=
    ensureEngines_unchanged h.free h.rows
  have hsettles := applySettings_settles_of h.idle htimeout hforget hensure
  have hsame : configuredWith s c.registry c = c := by
    unfold configuredWith
    rw [← h.configured, ← h.idle, ← h.settings]
  rw [hsame] at hsettles
  exact hsettles

/-! ## Others at work elsewhere

Nodes and projects may change meanwhile, and clients may be built. None of this is among the things
that applying settings looks at. -/

/-- **The bearings of a control plane**: the registry of engines, which of them came with settings,
whether somebody is applying settings, and the settings in force. Operations on nodes and projects
touch it only where they look for clients in the registry; what they do to projects and to the cells
of nodes is outside it. -/
def bearings (c : Controller) : Registry × List String × Bool × Settings :=
  (c.registry, c.configured, c.configuring, c.settings)

/-- Others are at work that leave the bearings alone. Everything else may have changed. -/
def Aside (c c' : Controller) : Prop := c'.bearings = c.bearings

theorem bearings_iff : c'.bearings = c.bearings ↔ c'.registry = c.registry
    ∧ c'.configured = c.configured ∧ c'.configuring = c.configuring ∧ c'.settings = c.settings := by
  unfold bearings
  simp

section Heeds

variable {α : Type}

theorem onRegistry_heeds (p : Process Registry Call (fun _ => Answer) α) :
    (onRegistry p).Heeds bearings := by
  refine heeds_zoom (fun c c' h => (bearings_iff.mp h).1) (fun r c c' h => ?_) p
  obtain ⟨-, hconfigured, hconfiguring, hsettings⟩ := bearings_iff.mp h
  exact bearings_iff.mpr ⟨rfl, hconfigured, hconfiguring, hsettings⟩

theorem forgetEngines_heeds (ids : List String) : (forgetEngines ids).Heeds bearings := by
  induction ids with
  | nil => trivial
  | cons id rest ih =>
    refine heeds_bind (onRegistry_heeds _) fun result => heeds_bind ih fun later => ?_
    rcases result with ⟨_ | _ | _⟩ | ⟨⟩ <;> trivial

theorem ensureEngine_heeds (record : EngineRecord) : (ensureEngine record).Heeds bearings := by
  refine heeds_bind (onRegistry_heeds _) fun row => ?_
  split
  · trivial
  · refine heeds_bind (onRegistry_heeds _) fun result => ?_
    cases result <;> trivial

theorem ensureEngines_heeds (engines : List EngineRecord) :
    (ensureEngines engines).Heeds bearings := by
  induction engines with
  | nil => trivial
  | cons record rest ih =>
    exact heeds_bind (ensureEngine_heeds record) fun outcome => heeds_bind ih fun later => trivial

/-- **A call that applies settings heeds the bearings only.** What it does and returns depends on
the bearings, and it changes nothing else. So its runs among others are those that it has alone, as
far as the others leave the bearings alone. -/
theorem applySettings_heeds (s : Settings) : (applySettings s).Heeds bearings := by
  refine heeds_bind (onRegistry_heeds _) fun _ => heeds_bind ?_ fun _ => ?_
  · refine heeds_whenReady fun c c' h => ?_
    obtain ⟨hregistry, hconfigured, hconfiguring, hsettings⟩ := bearings_iff.mp h
    exact ⟨congrArg not hconfiguring, rfl,
      bearings_iff.mpr ⟨hregistry, hconfigured, rfl, hsettings⟩⟩
  refine heeds_bind (heeds_onAbandon _ ?_) fun report => heeds_bind ?_ fun _ => trivial
  · refine heeds_bind (heeds_whenReady fun c c' h => ⟨rfl, (bearings_iff.mp h).2.1, h⟩)
      fun before => heeds_bind (forgetEngines_heeds _) fun kept =>
        heeds_bind (ensureEngines_heeds _) fun engines => heeds_bind ?_ fun _ => trivial
    refine heeds_whenReady fun c c' h => ⟨rfl, rfl, bearings_iff.mpr ?_⟩
    obtain ⟨hregistry, -, -, hsettings⟩ := bearings_iff.mp h
    exact ⟨hregistry, rfl, rfl, hsettings⟩
  · refine heeds_whenReady fun c c' h => ⟨rfl, rfl, bearings_iff.mpr ?_⟩
    obtain ⟨hregistry, hconfigured, hconfiguring, -⟩ := bearings_iff.mp h
    exact ⟨hregistry, hconfigured, hconfiguring, rfl⟩

end Heeds

/-- **Settings were applied, and may be applied again**: the report of a call and the state at its
end. -/
structure Repeatable (s : Settings) (report : SettingsReport) (c' : Controller) : Prop where
  /-- There was no error exactly if every record is in the row of its identifier. -/
  ok_iff : report.result = .ok () ↔
    ∀ record ∈ s.engines, c'.registry.record? record.id = some record
  /-- If so, a second call returns without an error. It leaves the registry – its engines, their
  statuses, the clients in use and the time-out – and the configured engines as they are. -/
  again : report.result = .ok () → (applySettings s).Amid Aside c' fun report' c'' =>
    report'.result = .ok () ∧ c''.registry = c'.registry ∧ c''.configured = c'.configured

/-- **Applying settings, and applying them again**, in any state and for settings that give no
identifier twice. If nobody else works on the registry, both calls return, whatever others do
elsewhere. Any settings with different identifiers are allowed, also those in which engines share an
address; if they are refused the first time, nothing is said about a second time. Nor is the state
restricted, except that nobody else works on the engines at the time: engines may have been
registered by callers or by earlier settings, at whatever addresses. -/
theorem settings_repeatable (s : Settings) (hids : (s.engines.map (·.id)).Nodup) (c : Controller)
    (hfree : c.registry.held = false) (hidle : c.configuring = false) :
    (applySettings s).Amid Aside c (Repeatable s) := by
  obtain ⟨tried, r, hengines, hsettles, hheld, hplaces⟩ :=
    applySettings_in_place hids hfree hidle
  have htimeout := timeout_of_settles hsettles
  refine (hsettles.amid (applySettings_heeds s) rfl).mono ?_
  rintro _ c' ⟨rfl, hc'⟩
  obtain ⟨hregistry, hconfigured, hconfiguring, hsettings⟩ := bearings_iff.mp hc'
  have hok : ({ engines := tried } : SettingsReport).result = .ok () ↔
      ∀ record ∈ s.engines, c'.registry.record? record.id = some record := by
    rw [result_ok_iff, ← hengines, List.forall_mem_map, hregistry]
    exact forall₂_congr hplaces
  refine ⟨hok, fun hresult => ?_⟩
  have hforce : InForce s c' :=
    { free := by rw [hregistry]; exact hheld
      idle := hconfiguring
      timeout := by rw [hregistry]; exact htimeout
      configured := hconfigured
      settings := hsettings
      rows := hok.mp hresult }
  refine (hforce.applySettings.amid (applySettings_heeds s) rfl).mono ?_
  rintro _ c'' ⟨rfl, hc''⟩
  obtain ⟨hregistry', hconfigured', -, -⟩ := bearings_iff.mp hc''
  exact ⟨(result_ok_iff _).mpr (List.forall_mem_map.mpr fun _ _ => trivial), hregistry',
    hconfigured'⟩

/-- Settings that move an engine which was registered by other means. The first application
registers it anew, and the second one finds it so. -/
theorem moved_engine_repeatable :
    let s := settingsWith [engineOn "a" "10.0.0.1", engineOn "b" "10.0.0.2"]
    let r := (Registry.new s.rpcTimeout).putRecord (engineOn "a" "10.0.0.9")
    let c := (initial s).setRegistry r
    (s.engines.map (·.id)).Nodup ∧ c.registry.held = false ∧ c.configuring = false
      ∧ (applySettings s).Amid Aside c (Repeatable s) := by
  intro s r c
  have hids : (s.engines.map (·.id)).Nodup := by decide
  exact ⟨hids, rfl, rfl, settings_repeatable s hids c rfl rfl⟩

end Testbed.Controller

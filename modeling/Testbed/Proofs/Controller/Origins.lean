import Testbed.Proofs.Controller.Settings

/-!
# Where engines come from

An engine is registered by a caller, with a client, or because settings name it. The entry keeps the
client, so its *origin* is seen in the registry. Settings are meant to leave the engines of callers
alone, and what stands in the way is that they do not look at origins. They look at `configured`,
the identifiers that the settings before them named – whether or not those settings registered the
engines. A caller's engine that settings name with the record it has already is not registered
again, one whose new address belongs to another engine cannot be, and one that a caller registers
later takes the place of the settings' own. All three are in the list, and the next settings that do
not name them forget them.

These are the only ways (`configured_of_caller_iff`). Origins change one identifier at a time, so
they are followed as functions of the identifier: `Moves` says what a task makes of them, settings
are three such moves (`Applied`), and between settings an engine keeps its origin, is brought by a
caller or is gone (`Turns.origin`).

The origin is not recorded anywhere as such. It is the presence of a supplied client in the entry,
which is all that tells the two kinds of engines apart later on. So when settings register an engine
with another record, its origin changes with the record, and an engine whose record they find
unchanged keeps the origin that it has.
-/

namespace Testbed

namespace Registry

/-- **Where an engine comes from.** Callers register engines while the control plane runs, and bring
the client; for engines of settings, the registry builds the client itself. -/
inductive Origin where
  /-- Settings named it. -/
  | settings
  /-- A caller registered it with a client. -/
  | caller
  deriving DecidableEq

/-- The origin of an entry. It is all that is left in a registry of how an engine came into it. -/
def originOf (e : RegistryEntry) : Origin := if e.supplied.isSome then .caller else .settings

/-- The origin of an engine, if it is registered. An engine that is not registered has none. -/
def origin? (r : Registry) (id : String) : Option Origin := (r.entry? id).map originOf

section Origins

variable (r : Registry) (id : String) (record : EngineRecord)

theorem origin?_eq_comp : r.origin? = Option.map originOf ∘ r.entry? := rfl

theorem origin?_putRecord :
    (r.putRecord record).origin? = Function.update r.origin? record.id (some .settings) := by
  rw [origin?_eq_comp, entry?_putRecord, Function.comp_update]
  rfl

theorem origin?_putSupplied (name : String) :
    (r.putSupplied record name).origin? = Function.update r.origin? record.id (some .caller) := by
  rw [origin?_eq_comp, entry?_putSupplied, Function.comp_update]
  rfl

theorem origin?_dropEntry : (r.dropEntry id).origin? = Function.update r.origin? id none := by
  rw [origin?_eq_comp, entry?_dropEntry, Function.comp_update]
  rfl

theorem origin?_dropBuilt : r.dropBuilt.origin? = r.origin? := by
  funext id
  rw [origin?_eq_comp, Function.comp_apply, entry?_dropBuilt, Option.map_map]
  refine congrArg (Option.map · _) (funext fun e => ?_)
  show originOf (if _ then _ else _) = originOf e
  split
  · rfl
  · rfl

end Origins

end Registry

namespace Controller

open Registry (Origin)

/-! ## What settings do to origins

An engine is a caller's or came with settings, which its entry tells by the client that was
supplied. Applying settings is followed through its parts, with the origins as the only thing that
is looked at. -/

/-- **Nobody is at work on the engines**: the registry is free, and nobody applies settings. Without
this the outcome of a change would depend on whom it has to wait for. Changes that are made while
the control plane is ready leave it ready (`Turn.Leads.ready`). -/
structure Ready (c : Controller) : Prop where
  /-- The registry is free. -/
  free : c.registry.held = false
  /-- Nobody is applying settings. -/
  idle : c.configuring = false

/-- The engines that were registered, of some that were tried. Others were there already or have
failed. -/
def registeredAmong (tried : List (EngineRecord × EngineOutcome)) : List String :=
  (tried.filter (·.2 = .registered)).map (·.1.id)

theorem mem_registeredAmong_cons {record : EngineRecord} {outcome : EngineOutcome}
    {tried : List (EngineRecord × EngineOutcome)} {id : String} :
    id ∈ registeredAmong ((record, outcome) :: tried)
      ↔ outcome = .registered ∧ id = record.id ∨ id ∈ registeredAmong tried := by
  unfold registeredAmong
  rw [List.filter_cons]
  dsimp only
  by_cases houtcome : outcome = .registered
  · rw [if_pos (decide_eq_true houtcome), List.map_cons, List.mem_cons, and_iff_right houtcome]
  · rw [if_neg (mt of_decide_eq_true houtcome)]
    exact (or_iff_right fun h => houtcome h.1).symm

/-- The engines that settings registered. Others were registered already, or could not be. It is
read off the report, and so are its failures. -/
def SettingsReport.registered (report : SettingsReport) : List String :=
  registeredAmong report.engines

/-- **A task moves origins** and changes nothing else but the registry. The new registry is not
described any further than by its origins, and that it is free. This is enough to go on from it, and
it hides how entries, clients and statuses change on the way. -/
def Moves {α : Type} (x : Task α) (c : Controller) (a : α) (origins : String → Option Origin) :
    Prop :=
  ∃ r, x.Settles c a (c.setRegistry r) ∧ r.held = false ∧ r.origin? = origins

section Moves

variable {α : Type} {c : Controller} {a : α} {r : Registry}

theorem moves_pure (h : c.registry.held = false) : Moves (pure a) c a c.registry.origin? :=
  ⟨c.registry, rfl, h, rfl⟩

theorem moves_onRegistry {p : Process Registry Call (fun _ => Answer) α}
    {origins : String → Option Origin} (hp : p.Settles c.registry a r) (hheld : r.held = false)
    (horigins : r.origin? = origins) : Moves (onRegistry p) c a origins :=
  ⟨r, onRegistry_settles hp, hheld, horigins⟩

theorem setTimeout_moves (timeout : Duration) (h : c.registry.held = false) :
    Moves (onRegistry (Registry.setTimeout timeout)) c () c.registry.origin? := by
  by_cases hsame : c.registry.timeoutMs = Registry.millisOf timeout
  · exact moves_onRegistry (Registry.setTimeout_same hsame) h rfl
  · exact moves_onRegistry (Registry.setTimeout_other h hsame) h (Registry.origin?_dropBuilt _)

/-- An engine is forgotten, or was not there. In both cases it is not registered afterwards. -/
theorem unregister_moves (id : String) (h : c.registry.held = false) :
    ∃ result, (result = .ok () ∨ result = .error (.unknown id))
      ∧ Moves (onRegistry (Registry.unregister id)) c result
        (Function.update c.registry.origin? id none) := by
  by_cases hknown : (c.registry.entry? id).isSome = true
  · exact ⟨_, .inl rfl, moves_onRegistry (Registry.unregister_known h hknown) h
      (Registry.origin?_dropEntry c.registry id)⟩
  · refine ⟨_, .inr rfl, moves_onRegistry (Registry.unregister_unknown h hknown) h ?_⟩
    have hnone : c.registry.origin? id = none := by
      unfold Registry.origin?
      rw [Option.not_isSome_iff_eq_none.mp hknown]
      rfl
    rw [← hnone, Function.update_eq_self]

/-- An engine is a caller's if its registration with a client succeeds. If it is refused nothing
changes. -/
theorem registerWith_moves (record : EngineRecord) (name : String)
    (h : c.registry.held = false) :
    Moves (onRegistry (Registry.registerWith record name)) c (.ok ())
        (Function.update c.registry.origin? record.id (some .caller))
      ∨ ∃ e, Moves (onRegistry (Registry.registerWith record name)) c (.error e)
        c.registry.origin? := by
  cases howner : c.registry.addressOwner? record with
  | some owner => exact .inr ⟨_, moves_onRegistry (Registry.registerWith_refused h howner) h rfl⟩
  | none => exact .inl (moves_onRegistry (Registry.registerWith_accepted h howner) h
      (Registry.origin?_putSupplied c.registry record name))

theorem forgetEngines_moves (ids : List String) (h : c.registry.held = false) :
    Moves (forgetEngines ids) c [] fun id => if id ∈ ids then none else c.registry.origin? id := by
  induction ids generalizing c with
  | nil => exact moves_pure h
  | cons id rest ih =>
    obtain ⟨result, hresult, r, hfirst, hheld, horigin⟩ := unregister_moves id h
    obtain ⟨r', hrest, hheld', horigins⟩ := ih (c := c.setRegistry r) hheld
    refine ⟨r', hfirst.andThen (hrest.andThen ?_), hheld', ?_⟩
    · obtain rfl | rfl := hresult
      · exact Process.settles_pure _ _
      · exact Process.settles_pure _ _
    · rw [horigins, ← takeOut_cons, ← horigin]
      rfl

/-- Making sure of an engine changes its origin if it registers the engine. An engine that was there
keeps its origin. -/
theorem ensureEngine_moves (record : EngineRecord) (h : c.registry.held = false) :
    ∃ outcome, Moves (ensureEngine record) c outcome
      (if outcome = .registered then Function.update c.registry.origin? record.id (some .settings)
        else c.registry.origin?) := by
  obtain ⟨-, hsettles⟩ | ⟨owner, -, hsettles⟩ | ⟨-, hsettles⟩ := ensureEngine_settles record h
  · exact ⟨.unchanged, c.registry, hsettles, h, rfl⟩
  · exact ⟨.failed (.addressTaken owner record.address), c.registry, hsettles, h, rfl⟩
  · exact ⟨.registered, c.registry.putRecord record, hsettles, h,
      Registry.origin?_putRecord c.registry record⟩

theorem ensureEngines_moves (engines : List EngineRecord) (h : c.registry.held = false) :
    ∃ tried, tried.map (·.1) = engines ∧ Moves (ensureEngines engines) c tried fun id =>
      if id ∈ registeredAmong tried then some .settings else c.registry.origin? id := by
  induction engines generalizing c with
  | nil => exact ⟨[], rfl, moves_pure h⟩
  | cons record rest ih =>
    obtain ⟨outcome, r, hfirst, hheld, horigin⟩ := ensureEngine_moves record h
    obtain ⟨tried, rfl, r', hrest, hheld', horigins⟩ := ih (c := c.setRegistry r) hheld
    refine ⟨(record, outcome) :: tried, rfl, r',
      hfirst.andThen (hrest.andThen (Process.settles_pure _ _)), hheld', ?_⟩
    funext id
    rw [horigins]
    show (if id ∈ registeredAmong tried then some .settings else r.origin? id) = _
    rw [horigin]
    by_cases hmem : id ∈ registeredAmong tried
    · rw [if_pos hmem, if_pos (mem_registeredAmong_cons.mpr (.inr hmem))]
    rw [if_neg hmem]
    by_cases hid : outcome = .registered ∧ id = record.id
    · rw [if_pos hid.1, hid.2, Function.update_self,
        if_pos (mem_registeredAmong_cons.mpr (.inl ⟨hid.1, rfl⟩))]
    · rw [if_neg (mt mem_registeredAmong_cons.mp fun h => h.elim hid hmem)]
      split
      · rename_i houtcome
        exact Function.update_of_ne (fun heq => hid ⟨houtcome, heq⟩) ..
      · rfl

/-- **What settings do to origins**: the engines that earlier settings named and these do not are
forgotten, and the origin of the others changes exactly if they are registered. The last field is
the whole effect on origins, and it is a function of the report and of the list of configured
engines before. That the origin of an engine does not occur in the condition under which it is
forgotten is the reason for everything in this file. -/
structure Applied (s : Settings) (c : Controller) (report : SettingsReport) (c' : Controller) :
    Prop where
  /-- The settings are applied. -/
  settles : (applySettings s).Settles c report c'
  /-- Nobody is at work on the engines afterwards. -/
  ready : Ready c'
  /-- No engine could not be forgotten. -/
  kept : report.kept = []
  /-- The engines of the settings are tried in their order. -/
  engines : report.engines.map (·.1) = s.engines
  /-- The settings are in force. -/
  settings : c'.settings = s
  /-- The list names the engines of the settings. -/
  configured : c'.configured = s.engines.map (·.id)
  /-- Only engines of the settings are registered. -/
  registered : ∀ id ∈ report.registered, id ∈ s.engines.map (·.id)
  /-- The origins. -/
  origin : ∀ id, c'.registry.origin? id =
    if id ∈ report.registered then some .settings
    else if id ∈ c.configured ∧ id ∉ s.engines.map (·.id) then none
    else c.registry.origin? id

theorem Ready.applied (hc : Ready c) (s : Settings) : ∃ report c', Applied s c report c' := by
  obtain ⟨r₁, hp₁, hheld₁, horigins₁⟩ := setTimeout_moves s.rpcTimeout hc.free
  -- from here on nobody else applies settings
  let c₁ := setConfiguring true (c.setRegistry r₁)
  let dropped := c.configured.filter (fun id => !(s.engines.map (·.id)).contains id)
  obtain ⟨r₂, hp₂, hheld₂, horigins₂⟩ := forgetEngines_moves (c := c₁) dropped hheld₁
  obtain ⟨tried, hengines, r₃, hp₃, hheld₃, horigins₃⟩ :=
    ensureEngines_moves (c := c₁.setRegistry r₂) s.engines hheld₂
  refine ⟨_, _, applySettings_settles_of hc.idle hp₁ hp₂ hp₃, ⟨hheld₃, rfl⟩, rfl, hengines, rfl,
    rfl, fun id hid => ?_, fun id => ?_⟩
  · obtain ⟨x, hx, rfl⟩ := List.mem_map.mp hid
    rw [← hengines, List.map_map]
    exact List.mem_map_of_mem (List.mem_filter.mp hx).1
  · show r₃.origin? id = _
    rw [horigins₃]
    refine if_congr Iff.rfl rfl ?_
    show r₂.origin? id = _
    rw [horigins₂]
    refine if_congr ?_ rfl (congrFun horigins₁ id)
    rw [List.mem_filter, List.contains_eq_mem, Bool.not_eq_true', decide_eq_false_iff_not]

/-- **The engines that settings forget** are those that the settings before them named and they do
not. -/
theorem Applied.forgets_iff {s : Settings} {report : SettingsReport} {c' : Controller}
    (h : Applied s c report c') {id : String} (hsome : (c.registry.origin? id).isSome = true) :
    c'.registry.origin? id = none ↔ id ∈ c.configured ∧ id ∉ s.engines.map (·.id) := by
  rw [h.origin]
  by_cases hid : id ∈ report.registered
  · rw [if_pos hid]
    exact iff_of_false nofun fun hforgotten => hforgotten.2 (h.registered id hid)
  · rw [if_neg hid]
    split
    · rename_i hforgotten
      exact iff_of_true rfl hforgotten
    · rename_i hkept
      exact iff_of_false (Option.isSome_iff_ne_none.mp hsome) hkept

end Moves

/-! ## Changes, one after another

Callers and settings change the registry in turn. For every engine it is said which change was the
last to matter, from the beginning on. -/

/-- **A change of the engines**, with what came of it. The result is part of the change, so that it
can be told from a sequence of changes which of the registrations were refused. -/
inductive Turn where
  /-- A caller registered an engine with a client. -/
  | supplied (record : EngineRecord) (name : String) (result : Except RegistryError Unit)
  /-- A caller had an engine forgotten. -/
  | forgotten (id : String) (result : Except RegistryError Unit)
  /-- Settings were applied. -/
  | applied (s : Settings) (report : SettingsReport)

/-- A change leads from one state to another, while nothing else is going on. What comes of the
change is part of it. -/
def Turn.Leads : Turn → Controller → Controller → Prop
  | supplied record name result, c, c' =>
    (onRegistry (Registry.registerWith record name)).Settles c result c'
  | forgotten id result, c, c' => (onRegistry (Registry.unregister id)).Settles c result c'
  | applied s report, c, c' => (applySettings s).Settles c report c'

/-- A caller made the change. Settings are applied by nobody in particular. -/
def Turn.IsCallers : Turn → Prop
  | supplied .. | forgotten .. => True
  | applied .. => False

/-- **Changes lead from one state to another**, one after another. Nothing else happens in between.
-/
inductive Turns : Controller → List Turn → Controller → Prop
  | nil (c : Controller) : Turns c [] c
  | cons {c c' c'' : Controller} {turn : Turn} {rest : List Turn} (h : turn.Leads c c')
      (hrest : Turns c' rest c'') : Turns c (turn :: rest) c''

/-- A caller registered the engine with a client, and was not refused. He may have forgotten it
since. -/
def Supplied (turns : List Turn) (id : String) : Prop :=
  ∃ record name, .supplied record name (.ok ()) ∈ turns ∧ record.id = id

section Turns

variable {c c' : Controller} {turn : Turn} {turns : List Turn} {id : String}

theorem supplied_cons : Supplied (turn :: turns) id ↔ Supplied [turn] id ∨ Supplied turns id := by
  unfold Supplied
  simp only [List.mem_cons, List.not_mem_nil, or_false, or_and_right, exists_or]

theorem supplied_supplied {record : EngineRecord} {name : String}
    {result : Except RegistryError Unit} :
    Supplied [.supplied record name result] id ↔ result = .ok () ∧ record.id = id := by
  constructor
  · rintro ⟨record', name', hmem, hid⟩
    cases List.mem_singleton.mp hmem
    exact ⟨rfl, hid⟩
  · rintro ⟨rfl, hid⟩
    exact ⟨record, name, List.mem_singleton_self _, hid⟩

/-- **What a caller's change does to an engine**: it is gone, or the caller's, or as it was. Other
engines are as they were. -/
theorem Turn.Leads.origin (h : turn.Leads c c') (hc : Ready c) (hcallers : turn.IsCallers) :
    Ready c' ∧ c'.configured = c.configured ∧ ∀ id, c'.registry.origin? id = none
      ∨ Supplied [turn] id ∧ c'.registry.origin? id = some .caller
      ∨ ¬ Supplied [turn] id ∧ c'.registry.origin? id = c.registry.origin? id := by
  cases turn with
  | supplied record name result =>
    obtain ⟨r, hp, hheld, horigins⟩ | ⟨e, r, hp, hheld, horigins⟩ :=
      registerWith_moves record name hc.free
    · obtain ⟨rfl, rfl⟩ := hp.unique h
      refine ⟨⟨hheld, hc.idle⟩, rfl, fun id => .inr ?_⟩
      show _ ∧ r.origin? id = _ ∨ _ ∧ r.origin? id = _
      rw [supplied_supplied, horigins]
      by_cases hid : record.id = id
      · exact .inl ⟨⟨rfl, hid⟩, by rw [hid, Function.update_self]⟩
      · exact .inr ⟨fun hyes => hid hyes.2, Function.update_of_ne (Ne.symm hid) ..⟩
    · obtain ⟨rfl, rfl⟩ := hp.unique h
      refine ⟨⟨hheld, hc.idle⟩, rfl, fun id => .inr (.inr ⟨?_, congrFun horigins id⟩)⟩
      exact fun hyes => nomatch (supplied_supplied.mp hyes).1
  | forgotten id' result =>
    obtain ⟨result', -, r, hp, hheld, horigins⟩ := unregister_moves id' hc.free
    obtain ⟨-, rfl⟩ := hp.unique h
    refine ⟨⟨hheld, hc.idle⟩, rfl, fun id => ?_⟩
    show r.origin? id = none ∨ _ ∧ r.origin? id = _ ∨ _ ∧ r.origin? id = _
    rw [horigins]
    by_cases hid : id = id'
    · exact .inl (by rw [hid, Function.update_self])
    · refine .inr (.inr ⟨?_, Function.update_of_ne hid ..⟩)
      rintro ⟨_, _, hmem, -⟩
      cases List.mem_singleton.mp hmem
  | applied => exact hcallers.elim

/-- **What callers' changes do to an engine**: it is gone, or a caller's, or as it was. The three
cases are not symmetric: an engine that a caller registered may have been forgotten by a caller
later, and then it is in the first case. By induction over the changes. -/
theorem Turns.origin (h : Turns c turns c') (hc : Ready c)
    (hcallers : ∀ turn ∈ turns, turn.IsCallers) :
    Ready c' ∧ c'.configured = c.configured ∧ ∀ id, c'.registry.origin? id = none
      ∨ Supplied turns id ∧ c'.registry.origin? id = some .caller
      ∨ ¬ Supplied turns id ∧ c'.registry.origin? id = c.registry.origin? id := by
  induction h with
  | nil c =>
    refine ⟨hc, rfl, fun id => .inr (.inr ⟨?_, rfl⟩)⟩
    exact fun ⟨_, _, hmem, _⟩ => List.not_mem_nil hmem
  | cons h _ ih =>
    obtain ⟨hfirst, hrest⟩ := List.forall_mem_cons.mp hcallers
    obtain ⟨hready, hconfigured, horigin⟩ := h.origin hc hfirst
    obtain ⟨hready', hconfigured', horigin'⟩ := ih hready hrest
    refine ⟨hready', hconfigured'.trans hconfigured, fun id => ?_⟩
    rw [supplied_cons]
    obtain hgone | ⟨hyes, hcaller⟩ | ⟨hno, hsame⟩ := horigin' id
    · exact .inl hgone
    · exact .inr (.inl ⟨.inr hyes, hcaller⟩)
    rw [hsame]
    obtain hgone | ⟨hyes, hcaller⟩ | ⟨hno', hsame'⟩ := horigin id
    · exact .inl hgone
    · exact .inr (.inl ⟨.inl hyes, hcaller⟩)
    · exact .inr (.inr ⟨fun hyes => hyes.elim hno' hno, hsame'⟩)

theorem Turn.Leads.ready (h : turn.Leads c c') (hc : Ready c) : Ready c' := by
  cases turn with
  | applied s report =>
    obtain ⟨report', c'', ha⟩ := hc.applied s
    obtain ⟨-, rfl⟩ := ha.settles.unique h
    exact ha.ready
  | supplied => exact (h.origin hc trivial).1
  | forgotten => exact (h.origin hc trivial).1

theorem Turns.ready (h : Turns c turns c') (hc : Ready c) : Ready c' := by
  induction h with
  | nil c => exact hc
  | cons h _ ih => exact ih (h.ready hc)

theorem ready_initial (s : Settings) : Ready (initial s) := ⟨rfl, rfl⟩

/-- Every change leads somewhere. So the assumption that a change leads somewhere can be met, and
none of what is said of changes is empty. -/
theorem Ready.leads (hc : Ready c) :
    (∀ record name, ∃ result c', (Turn.supplied record name result).Leads c c')
      ∧ (∀ id, ∃ result c', (Turn.forgotten id result).Leads c c')
      ∧ ∀ s, ∃ report c', (Turn.applied s report).Leads c c' := by
  refine ⟨fun record name => ?_, fun id => ?_, fun s => ?_⟩
  · obtain ⟨r, hp, -⟩ | ⟨e, r, hp, -⟩ := registerWith_moves record name hc.free
    · exact ⟨_, _, hp⟩
    · exact ⟨_, _, hp⟩
  · obtain ⟨result, -, r, hp, -⟩ := unregister_moves id hc.free
    exact ⟨_, _, hp⟩
  · obtain ⟨report, c', ha⟩ := hc.applied s
    exact ⟨_, _, ha.settles⟩

/-! ## The engines that settings forget

The list of configured engines may name one that a caller registered. Exactly then do the next
settings that do not want it take it away from him. -/

/-- **Which engines of callers settings forget.** Let a control plane be started, let callers change
its engines and settings be applied, and look at it after the last settings `s` and what callers did
since then. The list of configured engines names those of `s`, whatever became of them. One that is
named and registered is a caller's exactly if a caller registered it since then, or it was a
caller's before `s` and `s` did not register it. And the next settings forget exactly those
registered engines that `s` names and they do not, also if they are callers'. The first part shows
that the list says nothing about origins. The second says when an engine in it is a caller's, with
the two ways in which this comes about. The third is the consequence: whether an engine is forgotten
does not depend on whose it is. -/
theorem configured_of_caller_iff {s₀ s : Settings} {before rest : List Turn}
    {report : SettingsReport} {c₁ c₂ c₃ : Controller} (hbefore : Turns (initial s₀) before c₁)
    (hs : (applySettings s).Settles c₁ report c₂) (hrest : Turns c₂ rest c₃)
    (hcallers : ∀ turn ∈ rest, turn.IsCallers) :
    (∀ id, id ∈ c₃.configured ↔ id ∈ s.engines.map (·.id))
      ∧ (∀ id ∈ c₃.configured, (c₃.registry.origin? id).isSome = true →
        (c₃.registry.origin? id = some .caller ↔ Supplied rest id
          ∨ c₁.registry.origin? id = some .caller ∧ id ∉ report.registered))
      ∧ ∀ s', ∃ report' c₄, (applySettings s').Settles c₃ report' c₄
        ∧ ∀ id, (c₃.registry.origin? id).isSome = true →
          (c₄.registry.origin? id = none ↔ id ∈ c₃.configured ∧ id ∉ s'.engines.map (·.id)) := by
  obtain ⟨_, _, ha⟩ := (hbefore.ready (ready_initial s₀)).applied s
  obtain ⟨rfl, rfl⟩ := ha.settles.unique hs
  obtain ⟨hc₃, hconfigured, horigins⟩ := hrest.origin ha.ready hcallers
  rw [ha.configured] at hconfigured
  refine ⟨fun id => by rw [hconfigured], fun id hid hsome => ?_, fun s' => ?_⟩
  · rw [hconfigured] at hid
    obtain hgone | ⟨hyes, hcaller⟩ | ⟨hno, hsame⟩ := horigins id
    · rw [hgone] at hsome
      cases hsome
    · exact iff_of_true hcaller (.inl hyes)
    · rw [hsame, ha.origin, or_iff_right hno]
      by_cases hregistered : id ∈ report.registered
      · rw [if_pos hregistered]
        exact iff_of_false nofun fun h => h.2 hregistered
      · rw [if_neg hregistered, if_neg fun h => h.2 hid, and_iff_left hregistered]
  · obtain ⟨report', c₄, hnext⟩ := hc₃.applied s'
    exact ⟨report', c₄, hnext.settles, fun id => hnext.forgets_iff⟩

end Turns

section Examples

/-- **An engine of a caller's is forgotten by settings**: it is named by settings with the record
that it has, so that they do not register it, and by the next settings no more. -/
theorem caller_engine_forgotten :
    let lab := engineOn "lab" "10.0.0.1"
    ∃ report c report' c', Turns (initial (settingsWith []))
        [.supplied lab "m" (.ok ()), .applied (settingsWith [lab]) report] c
      ∧ "lab" ∈ c.configured ∧ c.registry.origin? "lab" = some .caller
      ∧ (applySettings (settingsWith [])).Settles c report' c'
      ∧ c'.registry.origin? "lab" = none := by
  intro lab
  let r := (Registry.putSupplied (initial (settingsWith [])).registry lab "m").putClient "lab"
    (.supplied "m")
  let c₁ := (initial (settingsWith [])).setRegistry r
  have hsupplied : (Turn.supplied lab "m" (.ok ())).Leads (initial (settingsWith [])) c₁ :=
    onRegistry_settles (Registry.registerWith_accepted rfl rfl)
  obtain ⟨report, c, ha⟩ := (hsupplied.ready (ready_initial _)).applied (settingsWith [lab])
  have hreport : report.registered = [] := by
    have hregistered : (((applySettings (settingsWith [lab])).transcript (fun _ _ => none)
        c₁).result.map (·.registered)) = some [] := by
      decide +kernel
    rw [ha.settles.transcript] at hregistered
    exact Option.some.inj hregistered
  have hmem : "lab" ∈ c.configured := by
    rw [ha.configured]
    exact List.mem_singleton_self _
  have hcaller : c.registry.origin? "lab" = some .caller := by
    rw [ha.origin, hreport, if_neg List.not_mem_nil, if_neg fun h => List.not_mem_nil h.1]
    exact (congrFun (Registry.origin?_putSupplied _ lab "m") "lab").trans (Function.update_self ..)
  obtain ⟨report', c', hnext⟩ := ha.ready.applied (settingsWith [])
  refine ⟨report, c, report', c', .cons hsupplied (.cons ha.settles (.nil c)), hmem, hcaller,
    hnext.settles, (hnext.forgets_iff ?_).mpr ⟨hmem, List.not_mem_nil⟩⟩
  rw [hcaller]
  rfl

/-- An engine that settings name is registered by a caller afterwards, and forgotten by the next
settings. -/
theorem later_engine_forgotten :
    let lab := engineOn "lab" "10.0.0.1"
    ∃ report c₂ c₃ report' c₄,
      (applySettings (settingsWith [lab])).Settles (initial (settingsWith [])) report c₂
      ∧ Turns c₂ [.supplied lab "m" (.ok ())] c₃
      ∧ "lab" ∈ c₃.configured ∧ c₃.registry.origin? "lab" = some .caller
      ∧ (applySettings (settingsWith [])).Settles c₃ report' c₄
      ∧ c₄.registry.origin? "lab" = none := by
  intro lab
  obtain ⟨report, c₂, ha⟩ := (ready_initial (settingsWith [])).applied (settingsWith [lab])
  have howner : c₂.registry.addressOwner? lab = none := by
    have howner : ((applySettings (settingsWith [lab])).transcript (fun _ _ => none)
        (initial (settingsWith []))).after.registry.addressOwner? lab = none := by
      decide +kernel
    rw [ha.settles.transcript] at howner
    exact howner
  let c₃ := c₂.setRegistry ((c₂.registry.putSupplied lab "m").putClient "lab" (.supplied "m"))
  have hsupplied : (Turn.supplied lab "m" (.ok ())).Leads c₂ c₃ :=
    onRegistry_settles (Registry.registerWith_accepted ha.ready.free howner)
  have hrest : Turns c₂ [.supplied lab "m" (.ok ())] c₃ := .cons hsupplied (.nil c₃)
  have hsome : (c₃.registry.origin? "lab").isSome = true := by
    rw [show c₃.registry.origin? = _ from Registry.origin?_putSupplied c₂.registry lab "m"]
    rfl
  obtain ⟨hnamed, hcaller, hnext⟩ :=
    configured_of_caller_iff (.nil _) ha.settles hrest (List.forall_mem_singleton.mpr trivial)
  have hmem := (hnamed "lab").mpr (List.mem_singleton_self _)
  obtain ⟨report', c₄, hs', hforgets⟩ := hnext (settingsWith [])
  refine ⟨report, c₂, c₃, report', c₄, ha.settles, hrest, hmem, ?_, hs', ?_⟩
  · exact (hcaller "lab" hmem hsome).mpr (.inl ⟨lab, "m", List.mem_singleton_self _, rfl⟩)
  · exact (hforgets "lab" hsome).mpr ⟨hmem, List.not_mem_nil⟩

end Examples

end Controller

end Testbed

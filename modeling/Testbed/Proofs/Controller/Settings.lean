import Mathlib.Data.List.Nodup
import Testbed.Controller.Engines
import Testbed.Proofs.Controller.State
import Testbed.Proofs.Registry.Table

/-!
# Settings and the registry

Settings are applied by forgetting the engines that are no longer wanted and registering the wanted
ones, in their order. Each engine is tried once. If its address still belongs to another engine at
that moment, it is refused, and nobody comes back to it – also when the other engine is about to
move away, because its own new record stands later in the same settings.

So whether settings come into force as they are depends on where the engines *come from*. The
addresses are `Vacated` if no record takes the address that an engine after it had. This is the only
obstacle: `applySettings_ok_iff` says so for all states that settings lead to, and all settings that
give no identifier and no address twice.

The proof separates the table from the operations. `Attempts` is what becomes of a table when
engines are tried in turn, and the one induction about their order (`Attempts.succeed_iff`) knows
nothing of processes; `Rewrites` is how operations of the control plane bring it about.

Both directions of `Attempts.succeed_iff` are about where an engine stands in the settings. One
whose old address is wanted by an engine before it is still in its row when that engine is tried,
because nobody touches the row until its own turn. And when an engine is tried, those before it are
in the table with their new records, which have other addresses; so its address can only be occupied
by an engine that comes later.
-/

namespace Testbed.Controller

open Registry (Table)

/-! ## Trying engines in turn

A table of engines, and attempts to write rows into it one after another. An attempt fails for an
address that somebody else has at that moment, so the order of the attempts decides where engines
exchange addresses. -/

/-- Whether an engine of the settings is registered as they say. It does not matter whether it was
so before. -/
def EngineOutcome.Succeeds : EngineOutcome → Prop
  | unchanged | registered => True
  | failed _ => False

/-- **What becomes of a table when an engine is tried.** There are three outcomes. An engine that is
in its row with the same record is left alone, without a look at addresses; one whose address no
other engine has is registered; and one whose address is occupied is refused, and the table stays as
it is. -/
inductive Attempt (record : EngineRecord) : Table → EngineOutcome → Table → Prop
  | unchanged {t : Table} (h : t record.id = some record) : Attempt record t .unchanged t
  | registered {t : Table} (h : ¬ t.Occupied record) :
      Attempt record t .registered (Function.update t record.id (some record))
  | failed {t : Table} (owner : String) (h : t.Occupied record) :
      Attempt record t (.failed (.addressTaken owner record.address)) t

/-- What becomes of a table when engines are tried in turn. They are taken in the order of the list,
and each sees what the ones before have left. -/
inductive Attempts : Table → List (EngineRecord × EngineOutcome) → Table → Prop
  | nil (t : Table) : Attempts t [] t
  | cons {t t' t'' : Table} {record : EngineRecord} {outcome : EngineOutcome}
      {rest : List (EngineRecord × EngineOutcome)} (h : Attempt record t outcome t')
      (hrest : Attempts t' rest t'') : Attempts t ((record, outcome) :: rest) t''

/-- **The addresses are vacated**: no record takes the address that an engine after it had. An
engine may keep its address, and it may move to one that is free, or that an engine *before* it has
left by then. What it cannot do is to move to where a later engine still is. The condition is about
pairs in the order of the settings, so the same engines in another order may satisfy it or not. -/
def Vacated (t : Table) (engines : List EngineRecord) : Prop :=
  engines.Pairwise fun record later => ∀ old, t later.id = some old → old.address ≠ record.address

/-- No identifier and no address is given twice. Two settings with this property may still clash
with each other. -/
structure Apart (engines : List EngineRecord) : Prop where
  ids : (engines.map (·.id)).Nodup
  addresses : (engines.map (·.address)).Nodup

/-- Two engines have one address. Their identifiers differ, as one engine may be named twice. -/
def SharedAddress (engines : List EngineRecord) : Prop :=
  ∃ a ∈ engines, ∃ b ∈ engines, a.id ≠ b.id ∧ a.address = b.address

/-- No other engines have an address of the engines. Engines that are named themselves may have such
addresses, for the time being. -/
def Uncontested (t : Table) (engines : List EngineRecord) : Prop :=
  ∀ id old, t id = some old → id ∉ engines.map (·.id) → old.address ∉ engines.map (·.address)

section Attempts

variable {t t' : Table} {record : EngineRecord} {outcome : EngineOutcome}
  {engines : List EngineRecord} {tried : List (EngineRecord × EngineOutcome)}

theorem Attempt.orderly (h : Attempt record t outcome t') (ht : t.Orderly) : t'.Orderly := by
  cases h with
  | unchanged | failed => exact ht
  | registered hfree => exact ht.insert hfree

/-- An attempt succeeds exactly if the address is free, and then the record is in its row. There is
no other reason for a failure. -/
theorem Attempt.succeeds_iff (h : Attempt record t outcome t') (ht : t.Orderly) :
    outcome.Succeeds ↔ ¬ t.Occupied record := by
  cases h with
  | unchanged hrow =>
    refine iff_of_true trivial ?_
    rintro ⟨id, old, hold, hne, haddress⟩
    exact hne (ht.distinct id record.id old record hold hrow haddress)
  | registered hfree => exact iff_of_true trivial hfree
  | failed owner hoccupied => exact iff_of_false id (not_not_intro hoccupied)

theorem Attempt.table_eq (h : Attempt record t outcome t') (hsucceeds : outcome.Succeeds) :
    t' = Function.update t record.id (some record) := by
  cases h with
  | unchanged hrow => rw [← hrow, Function.update_eq_self]
  | registered => rfl
  | failed => exact hsucceeds.elim

theorem Attempts.orderly (h : Attempts t tried t') (ht : t.Orderly) : t'.Orderly := by
  induction h with
  | nil => exact ht
  | cons hfirst _ ih => exact ih (hfirst.orderly ht)

/-- Rows of other engines are not touched. They are not even looked at, but for their addresses. -/
theorem Attempts.row_of_notMem (h : Attempts t tried t') {id : String}
    (hid : id ∉ tried.map (·.1.id)) : t' id = t id := by
  induction h with
  | nil => rfl
  | cons hfirst _ ih =>
    obtain ⟨hne, hrest⟩ := not_or.mp (mt List.mem_cons.mpr hid)
    rw [ih hrest]
    cases hfirst with
    | unchanged | failed => rfl
    | registered => exact Function.update_of_ne hne _ _

/-- **If all attempts succeed, every engine is in its row.** A later attempt does not undo an
earlier one, because their identifiers differ. -/
theorem Attempts.row_of_mem (h : Attempts t tried t') (hids : (tried.map (·.1.id)).Nodup)
    (hsucceed : ∀ x ∈ tried, x.2.Succeeds) {x : EngineRecord × EngineOutcome} (hx : x ∈ tried) :
    t' x.1.id = some x.1 := by
  induction h with
  | nil => cases hx
  | cons hfirst hrest ih =>
    obtain ⟨hnotMem, hids⟩ := List.nodup_cons.mp hids
    obtain ⟨hsucceeds, hsucceed⟩ := List.forall_mem_cons.mp hsucceed
    obtain rfl | hx := List.mem_cons.mp hx
    · rw [hrest.row_of_notMem hnotMem, hfirst.table_eq hsucceeds, Function.update_self]
    · exact ih hids hsucceed hx

/-- The address of the first engine is occupied exactly if an engine after it had it. An engine
before it has been given its new address by then. -/
theorem occupied_iff (hids : record.id ∉ engines.map (·.id))
    (hothers : Uncontested t (record :: engines)) :
    t.Occupied record ↔ ∃ later ∈ engines, ∃ old, t later.id = some old
      ∧ old.address = record.address := by
  constructor
  · rintro ⟨id, old, hold, hne, haddress⟩
    have hmem : id ∈ engines.map (·.id) := by
      refine by_contra fun hid => hothers id old hold ?_ ?_
      · exact fun hmem => (List.mem_cons.mp hmem).elim hne hid
      · rw [haddress]
        exact List.mem_cons_self
    obtain ⟨later, hlater, rfl⟩ := List.mem_map.mp hmem
    exact ⟨later, hlater, old, hold, haddress⟩
  · rintro ⟨later, hlater, old, hold, haddress⟩
    refine ⟨later.id, old, hold, fun heq => hids ?_, haddress⟩
    rw [← heq]
    exact List.mem_map_of_mem hlater

/-- Registering an engine leaves the others' addresses uncontested. So the condition holds for the
rest of the engines. -/
theorem Uncontested.update (hothers : Uncontested t (record :: engines))
    (haddress : record.address ∉ engines.map (·.address)) :
    Uncontested (Function.update t record.id (some record)) engines := by
  intro id old hold hid
  by_cases hne : id = record.id
  · subst hne
    rw [Function.update_self] at hold
    cases hold
    exact haddress
  · rw [Function.update_of_ne hne] at hold
    have hnotMem := hothers id old hold fun hmem => (List.mem_cons.mp hmem).elim hne hid
    exact fun hmem => hnotMem (List.mem_cons_of_mem _ hmem)

/-- Whether addresses are vacated is read off the rows of the engines. Other rows do not come into
it. -/
theorem vacated_congr (h : ∀ record ∈ engines, t' record.id = t record.id) :
    Vacated t' engines ↔ Vacated t engines := by
  refine List.Pairwise.iff_of_mem fun {record later} _ hlater => ?_
  rw [h later hlater]

/-- **All attempts succeed exactly if the addresses are vacated.** The condition is about the table
at the beginning. The induction is over the engines: registering the first one changes no row of a
later one, so whether the later addresses are vacated stays the same (`vacated_congr`), and no other
engine comes to have an address of the settings (`Uncontested.update`). -/
theorem Attempts.succeed_iff (h : Attempts t tried t') (ht : t.Orderly)
    (hapart : Apart (tried.map (·.1))) (hothers : Uncontested t (tried.map (·.1))) :
    (∀ x ∈ tried, x.2.Succeeds) ↔ Vacated t (tried.map (·.1)) := by
  induction h with
  | nil => exact iff_of_true (List.forall_mem_nil _) List.Pairwise.nil
  | @cons t t₁ t₂ record outcome rest hfirst hrest ih =>
    obtain ⟨hid, hids⟩ := List.nodup_cons.mp hapart.ids
    obtain ⟨haddress, haddresses⟩ := List.nodup_cons.mp hapart.addresses
    have hoccupied := occupied_iff hid hothers
    -- the first engine gets in exactly if no engine after it has its address
    have hfirst_iff : outcome.Succeeds ↔
        ∀ later ∈ rest.map (·.1), ∀ old, t later.id = some old → old.address ≠ record.address := by
      rw [hfirst.succeeds_iff ht, hoccupied]
      exact ⟨fun h later hlater old hold heq => h ⟨later, hlater, old, hold, heq⟩,
        fun h ⟨later, hlater, old, hold, heq⟩ => h later hlater old hold heq⟩
    refine List.forall_mem_cons.trans (Iff.trans ?_ List.pairwise_cons.symm)
    rw [← hfirst_iff]
    refine and_congr_right fun hsucceeds => ?_
    -- and then the others find the table as it was, but for the row of the first
    obtain rfl := hfirst.table_eq hsucceeds
    refine (ih (hfirst.orderly ht) ⟨hids, haddresses⟩ (hothers.update haddress)).trans ?_
    refine vacated_congr fun later hlater => Function.update_of_ne (fun heq => hid ?_) _ _
    show record.id ∈ _
    rw [← heq]
    exact List.mem_map_of_mem hlater

/-! ### An empty table

No engine has an address yet, so none has to be vacated. What can still stand in the way is another
engine of the same settings. -/

/-- Engines without a shared address have different addresses. The identifiers are assumed to
differ. -/
theorem apart_of_not_shared (hids : (engines.map (·.id)).Nodup) (h : ¬ SharedAddress engines) :
    Apart engines where
  ids := hids
  addresses := by
    refine List.Nodup.map_on (fun a ha b hb haddress => ?_) (List.Nodup.of_map _ hids)
    refine by_contra fun hne => h ⟨a, ha, b, hb, fun hid => hne ?_, haddress⟩
    exact List.inj_on_of_nodup_map hids ha hb hid

/-- **An empty table takes all engines in unless two of them have one address.** The order plays no
part here. Of two engines with one address the first is registered and the second is refused,
whichever they are. -/
theorem Attempts.succeed_iff_of_empty (h : Attempts (fun _ => none) tried t')
    (hids : ((tried.map (·.1)).map (·.id)).Nodup) :
    (∀ x ∈ tried, x.2.Succeeds) ↔ ¬ SharedAddress (tried.map (·.1)) := by
  constructor
  · rintro hsucceed ⟨a, ha, b, hb, hne, haddress⟩
    have hrow : ∀ record ∈ tried.map (·.1), t' record.id = some record := by
      rw [List.map_map] at hids
      exact List.forall_mem_map.mpr fun x hx => h.row_of_mem hids hsucceed hx
    exact hne ((h.orderly .empty).distinct _ _ _ _ (hrow a ha) (hrow b hb) haddress)
  · intro hshared
    refine (h.succeed_iff .empty (apart_of_not_shared hids hshared) ?_).mpr ?_
    · rintro _ _ ⟨⟩
    · exact List.pairwise_of_forall fun _ _ => by rintro _ ⟨⟩

/-- An engine is refused for its address only. The error names the one that has it. -/
theorem Attempts.taken_of_failed (h : Attempts t tried t') {x : EngineRecord × EngineOutcome}
    (hx : x ∈ tried) {cause : RegistryError} (hcause : x.2 = .failed cause) :
    ∃ owner, cause = .addressTaken owner x.1.address := by
  induction h with
  | nil => cases hx
  | cons hfirst _ ih =>
    obtain rfl | hx := List.mem_cons.mp hx
    · cases hfirst with
      | unchanged | registered => cases hcause
      | failed owner =>
        cases hcause
        exact ⟨owner, rfl⟩
    · exact ih hx

end Attempts

/-! ## The operations

Each part of applying settings is such a change of the table, while nobody else is at work. They are
told by what they do to it, with no word on clients. -/

section Operations

variable {α : Type} {c : Controller} {a : α} {t : Table}

/-- **A task rewrites the table of engines** and changes nothing else but the registry. The registry
has more in it than the table: clients, statuses and the time-out. They change as well, but no
attempt depends on them, so they are hidden here. -/
def Rewrites (x : Task α) (c : Controller) (a : α) (t : Table) : Prop :=
  ∃ r, x.Settles c a (c.setRegistry r) ∧ r.held = false ∧ r.record? = t

theorem rewrites_pure (h : c.registry.held = false) :
    Rewrites (pure a) c a c.registry.record? := ⟨c.registry, rfl, h, rfl⟩

theorem rewrites_onRegistry {p : Process Registry Call (fun _ => Answer) α}
    (h : Registry.Leaves p c.registry a t) : Rewrites (onRegistry p) c a t := by
  obtain ⟨r, hp, hheld, htable⟩ := h
  exact ⟨r, onRegistry_settles hp, hheld, htable⟩

/-- What is taken out first is taken out, too. The order in which they are taken out does not
matter. -/
theorem takeOut_cons {β : Type} (f : String → Option β) (id : String) (rest : List String) :
    (fun id' => if id' ∈ rest then none else Function.update f id none id')
      = fun id' => if id' ∈ id :: rest then none else f id' := by
  funext id'
  by_cases hid : id' = id
  · rw [hid, Function.update_self, ite_self, if_pos List.mem_cons_self]
  · rw [Function.update_of_ne hid]
    exact if_congr (by rw [List.mem_cons, or_iff_right hid]) rfl rfl

/-- Forgetting engines takes their rows out, and always succeeds. An engine that is not there is
passed over. -/
theorem forgetEngines_rewrites (ids : List String) (h : c.registry.held = false) :
    Rewrites (forgetEngines ids) c [] fun id =>
      if id ∈ ids then none else c.registry.record? id := by
  induction ids generalizing c with
  | nil => exact rewrites_pure h
  | cons id rest ih =>
    obtain ⟨r, hfirst, hheld, hrow⟩ := rewrites_onRegistry (Registry.unregister_settles id h)
    obtain ⟨r', hrest, hheld', hrows⟩ := ih (c := c.setRegistry r) hheld
    refine ⟨r', hfirst.andThen (hrest.andThen ?_), hheld', ?_⟩
    · -- an engine that is not there is as good as forgotten
      by_cases hknown : (c.registry.record? id).isSome = true
      · rw [if_pos hknown]
        exact Process.settles_pure _ _
      · rw [if_neg hknown]
        exact Process.settles_pure _ _
    · rw [hrows, ← takeOut_cons, ← hrow]
      rfl

/-- Before making sure of an engine its row is looked at. It changes nothing. -/
theorem ensureEngine_looks (record : EngineRecord) (h : c.registry.held = false) :
    (onRegistry (Registry.inspect (·.record? record.id))).Settles c
      (c.registry.record? record.id) c :=
  onRegistry_settles (Registry.inspect_settles (·.record? record.id) h)

/-- Nothing is done for an engine that is registered with its record already. Its client and its
status stay as they are. -/
theorem ensureEngine_unchanged {record : EngineRecord} (h : c.registry.held = false)
    (hrow : c.registry.record? record.id = some record) :
    (ensureEngine record).Settles c .unchanged c := by
  refine (ensureEngine_looks record h).andThen ?_
  rw [if_pos hrow]
  exact Process.settles_pure _ _

/-- **What it takes to make sure of an engine**: it is registered with its record already, or
another engine has its address, or it is registered. The three cases are those of the code, in its
order. The record is compared as a whole: an engine that is registered with another port, or with
the same address and another name, is registered again. -/
theorem ensureEngine_settles (record : EngineRecord) (h : c.registry.held = false) :
    (c.registry.record? record.id = some record ∧ (ensureEngine record).Settles c .unchanged c)
      ∨ (∃ owner, c.registry.addressOwner? record = some owner
        ∧ (ensureEngine record).Settles c (.failed (.addressTaken owner record.address)) c)
      ∨ c.registry.addressOwner? record = none
        ∧ (ensureEngine record).Settles c .registered
          (c.setRegistry (c.registry.putRecord record)) := by
  by_cases hrow : c.registry.record? record.id = some record
  · exact .inl ⟨hrow, ensureEngine_unchanged h hrow⟩
  cases howner : c.registry.addressOwner? record with
  | some owner =>
    refine .inr (.inl ⟨owner, rfl, (ensureEngine_looks record h).andThen ?_⟩)
    rw [if_neg hrow]
    exact (onRegistry_settles (Registry.register_refused h howner)).andThen
      (Process.settles_pure _ _)
  | none =>
    refine .inr (.inr ⟨rfl, (ensureEngine_looks record h).andThen ?_⟩)
    rw [if_neg hrow]
    exact (onRegistry_settles (Registry.register_accepted h howner)).andThen
      (Process.settles_pure _ _)

/-- Making sure of an engine is an attempt. What it does to clients is not said. -/
theorem ensureEngine_rewrites (record : EngineRecord) (h : c.registry.held = false)
    (ht : Table.Orderly c.registry.record?) :
    ∃ outcome t, Attempt record c.registry.record? outcome t
      ∧ Rewrites (ensureEngine record) c outcome t := by
  have howner_iff := Registry.addressOwner?_eq_none_iff c.registry record ht
  obtain ⟨hrow, hsettles⟩ | ⟨owner, howner, hsettles⟩ | ⟨howner, hsettles⟩ :=
    ensureEngine_settles record h
  · exact ⟨_, _, .unchanged hrow, c.registry, hsettles, h, rfl⟩
  · refine ⟨_, _, .failed owner (not_not.mp fun hfree => ?_), c.registry, hsettles, h, rfl⟩
    rw [howner_iff.mpr hfree] at howner
    cases howner
  · exact ⟨_, _, .registered (howner_iff.mp howner), c.registry.putRecord record, hsettles, h,
      Registry.record?_putRecord c.registry record⟩

/-- Making sure of engines one after another is to try them in turn. The outcomes are in the order
of the engines. -/
theorem ensureEngines_rewrites (engines : List EngineRecord) (h : c.registry.held = false)
    (ht : Table.Orderly c.registry.record?) :
    ∃ tried t, tried.map (·.1) = engines ∧ Attempts c.registry.record? tried t
      ∧ Rewrites (ensureEngines engines) c tried t := by
  induction engines generalizing c with
  | nil => exact ⟨[], _, rfl, .nil _, rewrites_pure h⟩
  | cons record rest ih =>
    obtain ⟨outcome, t, hattempt, r, hfirst, hheld, rfl⟩ := ensureEngine_rewrites record h ht
    obtain ⟨tried, t', rfl, hattempts, r', hrest, hheld', rfl⟩ :=
      ih (c := c.setRegistry r) hheld (hattempt.orderly ht)
    exact ⟨(record, outcome) :: tried, _, rfl, .cons hattempt hattempts, r',
      hfirst.andThen (hrest.andThen (Process.settles_pure _ _)), hheld', rfl⟩

/-! ## Applying settings

The parts put together. Whether settings are applied without an error is decided by the addresses
alone, and the exact condition is on the table before and on the engines that are wanted. -/

/-- **Nobody is at work on the registry**, and the engines are some of those that came with the
settings. The last condition is what makes the table a matter of settings alone. It fails once a
caller has registered an engine at run time, and such states are dealt with in terms of origins. -/
structure Quiet (c : Controller) : Prop where
  /-- The registry is free. -/
  free : c.registry.held = false
  /-- Nobody is applying settings. -/
  idle : c.configuring = false
  /-- The table is orderly. -/
  orderly : Table.Orderly c.registry.record?
  /-- The engines came with the settings. -/
  configured : ∀ id record, c.registry.record? id = some record → id ∈ c.configured

/-- The rows that are left when the engines that are no longer wanted are forgotten. Their records
may be outdated. -/
def wantedRows (t : Table) (engines : List EngineRecord) : Table :=
  fun id => if id ∈ engines.map (·.id) then t id else none

theorem Quiet.forgotten_eq (h : Quiet c) (engines : List EngineRecord) :
    (fun id => if id ∈ c.configured.filter (fun id => !(engines.map (·.id)).contains id) then none
      else c.registry.record? id) = wantedRows c.registry.record? engines := by
  funext id
  unfold wantedRows
  have hforgotten : id ∈ c.configured.filter (fun id => !(engines.map (·.id)).contains id)
      ↔ id ∈ c.configured ∧ id ∉ engines.map (·.id) := by
    rw [List.mem_filter, List.contains_eq_mem, Bool.not_eq_true', decide_eq_false_iff_not]
  by_cases hwanted : id ∈ engines.map (·.id)
  · rw [if_pos hwanted, if_neg fun hmem => (hforgotten.mp hmem).2 hwanted]
  · rw [if_neg hwanted]
    cases hrow : c.registry.record? id with
    | none => exact ite_self _
    | some record => exact if_pos (hforgotten.mpr ⟨h.configured id record hrow, hwanted⟩)

/-- The state after settings were applied. Projects and nodes are as before. -/
def configuredWith (s : Settings) (r : Registry) (c : Controller) : Controller :=
  { c with registry := r, configured := s.engines.map (·.id), configuring := false, settings := s }

/-- Applying settings, from what its parts do. What they do is assumed, so that it need not be said
here how they do it. -/
theorem applySettings_settles_of {s : Settings} {r₁ r₂ r₃ : Registry} {kept : List RegistryError}
    {tried : List (EngineRecord × EngineOutcome)} (hidle : c.configuring = false)
    (htimeout : (onRegistry (Registry.setTimeout s.rpcTimeout)).Settles c () (c.setRegistry r₁))
    (hforget : (forgetEngines (c.configured.filter fun id =>
        !(s.engines.map (·.id)).contains id)).Settles (setConfiguring true (c.setRegistry r₁)) kept
      (setConfiguring true (c.setRegistry r₂)))
    (hensure : (ensureEngines s.engines).Settles (setConfiguring true (c.setRegistry r₂)) tried
      (setConfiguring true (c.setRegistry r₃))) :
    (applySettings s).Settles c { kept, engines := tried } (configuredWith s r₃ c) := by
  refine htimeout.andThen (.andThen (Process.settles_whenReady _ ?_) ?_)
  · show (!c.configuring) = true
    rw [hidle]
    rfl
  let record (c : Controller) : Controller :=
    { c with configured := s.engines.map (·.id), configuring := false }
  have hrecord : (do
      Process.change record
      return { kept, engines := tried } : Task SettingsReport).Settles
      (setConfiguring true (c.setRegistry r₃)) { kept, engines := tried }
      (record (setConfiguring true (c.setRegistry r₃))) := by
    refine .andThen (Process.settles_change _ _) ?_
    exact Process.settles_pure _ _
  refine .andThen (.onAbandon _ (.andThen (Process.settles_atomically _ _) (hforget.andThen
    (hensure.andThen hrecord)))) ?_
  exact .andThen (Process.settles_change _ _) (Process.settles_pure _ _)

/-- **Applying settings** forgets the engines that are no longer wanted and tries the wanted ones in
turn. The rows of engines that the new settings name are kept until their turn, with their old
records; this is what may get in the way of an earlier engine. -/
theorem applySettings_settles (h : Quiet c) (s : Settings) :
    ∃ tried r, tried.map (·.1) = s.engines
      ∧ Attempts (wantedRows c.registry.record? s.engines) tried r.record?
      ∧ (applySettings s).Settles c { engines := tried } (configuredWith s r c)
      ∧ r.held = false := by
  obtain ⟨r₁, hp₁, hheld₁, htable₁⟩ :=
    rewrites_onRegistry (c := c) (Registry.setTimeout_settles s.rpcTimeout h.free)
  -- from here on nobody else applies settings
  let c₁ := setConfiguring true (c.setRegistry r₁)
  obtain ⟨r₂, hp₂, hheld₂, htable₂⟩ := forgetEngines_rewrites (c := c₁)
    (c.configured.filter (fun id => !(s.engines.map (·.id)).contains id)) hheld₁
  have htable : r₂.record? = wantedRows c.registry.record? s.engines := by
    rw [htable₂, ← h.forgotten_eq, ← htable₁]
    rfl
  have horderly : Table.Orderly r₂.record? := by
    rw [htable]
    exact h.orderly.filter _
  obtain ⟨tried, t, hengines, hattempts, r₃, hp₃, hheld₃, htable₃⟩ :=
    ensureEngines_rewrites (c := c₁.setRegistry r₂) s.engines hheld₂ horderly
  refine ⟨tried, r₃, hengines, ?_, applySettings_settles_of h.idle hp₁ hp₂ hp₃, hheld₃⟩
  rw [htable₃, ← htable]
  exact hattempts

theorem Attempts.configured {engines : List EngineRecord}
    {tried : List (EngineRecord × EngineOutcome)} {t' : Table}
    (hengines : tried.map (·.1) = engines)
    (h : Attempts (wantedRows t engines) tried t') {id : String} {record : EngineRecord}
    (hrow : t' id = some record) : id ∈ engines.map (·.id) := by
  refine by_contra fun hid => ?_
  have hnotMem : id ∉ tried.map (·.1.id) := by
    rw [← hengines, List.map_map] at hid
    exact hid
  rw [h.row_of_notMem hnotMem, wantedRows, if_neg hid] at hrow
  cases hrow

/-- **The states that settings lead to**: a control plane is started, and settings are applied one
after another. No caller registers engines in between, so the table before settings are applied is
what earlier settings made of it, be they without an error or not. -/
inductive Configured : Controller → Prop
  | initial (s : Settings) : Configured (initial s)
  | applied {c c' : Controller} {s : Settings} {report : SettingsReport} (h : Configured c)
      (hs : (applySettings s).Settles c report c') : Configured c'

/-- Between settings nobody is at work on the registry. Each change ends before the next one begins.
-/
theorem Configured.quiet (h : Configured c) : Quiet c := by
  induction h with
  | initial s => exact ⟨rfl, rfl, .empty, by rintro id record ⟨⟩⟩
  | @applied c c' s report _ hs ih =>
    obtain ⟨tried, r, hengines, hattempts, hsettles, hheld⟩ := applySettings_settles ih s
    obtain ⟨-, rfl⟩ := hsettles.unique hs
    exact ⟨hheld, rfl, hattempts.orderly (ih.orderly.filter _), fun id record hrow =>
      hattempts.configured hengines hrow⟩

/-- Settings are applied without an error exactly if all attempts succeed. Engines that could not be
forgotten do not occur. -/
theorem result_ok_iff (tried : List (EngineRecord × EngineOutcome)) :
    ({ engines := tried } : SettingsReport).result = .ok () ↔ ∀ x ∈ tried, x.2.Succeeds := by
  unfold SettingsReport.result SettingsReport.failures
  rw [List.nil_append]
  induction tried with
  | nil => exact iff_of_true rfl (List.forall_mem_nil _)
  | cons x rest ih =>
    obtain ⟨record, outcome⟩ := x
    rw [List.forall_mem_cons]
    cases outcome with
    | unchanged | registered => exact ih.trans (and_iff_right trivial).symm
    | failed cause => exact iff_of_false (by rintro ⟨⟩) And.left

/-- If all attempts succeed, the registry lists the engines of the settings. Nothing else is left in
it, as everything else was taken out before. -/
theorem Attempts.perm {engines : List EngineRecord} {tried : List (EngineRecord × EngineOutcome)}
    {r : Registry} (hengines : tried.map (·.1) = engines) (hids : (engines.map (·.id)).Nodup)
    (h : Attempts (wantedRows t engines) tried r.record?) (hr : Table.Orderly r.record?)
    (hsucceed : ∀ x ∈ tried, x.2.Succeeds) : r.records.Perm engines := by
  have hnodup : engines.Nodup :=
    List.Pairwise.of_map _ (fun _ _ hne heq => hne (congrArg _ heq)) hids
  refine (List.perm_ext_iff_of_nodup (r.nodup_records hr) hnodup).mpr fun record => ?_
  rw [r.mem_records_iff record hr]
  have hrow : ∀ wanted ∈ engines, r.record? wanted.id = some wanted := by
    rw [← hengines, List.map_map] at hids
    rw [← hengines]
    exact List.forall_mem_map.mpr fun x hx => h.row_of_mem hids hsucceed hx
  constructor
  · intro hrecord
    -- the row is one of those that were tried, and holds what was tried
    obtain ⟨wanted, hmem, hid⟩ := List.mem_map.mp (h.configured hengines hrecord)
    have hwanted := hrow wanted hmem
    rw [hid, hrecord] at hwanted
    cases hwanted
    exact hmem
  · exact hrow record

/-- **When settings come into force as they are.** Take any state that settings lead to, and
settings that give no identifier and no address twice. Applying them ends with a report. It is
without an error exactly if the addresses are vacated: no engine takes the address that an engine
after it in the settings had before. If so, the registry lists exactly the engines of the settings.
The registry lists the engines in the order of their identifiers, so the list is a permutation of
the settings' own.

That settings can be refused although nothing is wrong with them in themselves is what is at stake:
`moved_engines_refused` has two engines that each move on by one host. With the two in the other
order the same settings come into force. -/
theorem applySettings_ok_iff (h : Configured c) {s : Settings} (hs : Apart s.engines) :
    ∃ report c', (applySettings s).Settles c report c'
      ∧ (report.result = .ok () ↔ Vacated c.registry.record? s.engines)
      ∧ (report.result = .ok () → c'.registry.records.Perm s.engines) := by
  have hquiet := h.quiet
  obtain ⟨tried, r, hengines, hattempts, hsettles, -⟩ := applySettings_settles hquiet s
  have horderly := hquiet.orderly.filter (· ∈ s.engines.map (·.id))
  refine ⟨_, _, hsettles, ?_, fun hok => ?_⟩
  · rw [result_ok_iff]
    -- only wanted engines are left when the first one is tried
    have huncontested : Uncontested (wantedRows c.registry.record? s.engines) s.engines := by
      intro id old hold hid
      rw [wantedRows, if_neg hid] at hold
      cases hold
    have hvacated := hattempts.succeed_iff horderly (by rw [hengines]; exact hs)
      (by rw [hengines]; exact huncontested)
    rw [hvacated, hengines]
    exact vacated_congr fun record hmem => if_pos (List.mem_map_of_mem hmem)
  · exact hattempts.perm hengines hs.ids (hattempts.orderly horderly) ((result_ok_iff tried).mp hok)

/-- The error of a report is that of an engine. It is the first that failed. -/
theorem failed_of_result {tried : List (EngineRecord × EngineOutcome)} {e : ControlError}
    (h : ({ engines := tried } : SettingsReport).result = .error e) :
    ∃ x ∈ tried, ∃ cause, x.2 = .failed cause ∧ e = .ofRegistry cause := by
  unfold SettingsReport.result firstError at h
  split at h
  · cases h
  · rename_i first rest hfailures
    cases h
    obtain ⟨cause, hcause, rfl⟩ := List.mem_map.mp (hfailures ▸ List.mem_cons_self)
    obtain ⟨⟨record, outcome⟩, hx, hfailed⟩ := List.mem_filterMap.mp hcause
    refine ⟨_, hx, cause, ?_, rfl⟩
    cases outcome with
    | unchanged | registered => cases hfailed
    | failed cause' =>
      cases hfailed
      rfl

/-- **The first settings** come into force unless two of their engines have one address, and what is
reported then is that an address is taken. There is no engine before them whose address could be in
the way, so unlike later settings they do not depend on the order of the engines. -/
theorem first_settings (s : Settings) (hids : (s.engines.map (·.id)).Nodup) :
    ∃ report c', (applySettings s).Settles (initial s) report c'
      ∧ (report.result = .ok () ↔ ¬ SharedAddress s.engines)
      ∧ ∀ e, report.result = .error e →
        ∃ owner, ∃ record ∈ s.engines, e = .ofRegistry (.addressTaken owner record.address) := by
  obtain ⟨tried, r, hengines, hattempts, hsettles, -⟩ :=
    applySettings_settles (Configured.initial s).quiet s
  have hempty : wantedRows (initial s).registry.record? s.engines = fun _ => none :=
    funext fun _ => ite_self _
  rw [hempty] at hattempts
  refine ⟨_, _, hsettles, ?_, fun e he => ?_⟩
  · rw [result_ok_iff, ← hengines]
    exact hattempts.succeed_iff_of_empty (hengines ▸ hids)
  · obtain ⟨x, hx, cause, hcause, rfl⟩ := failed_of_result he
    obtain ⟨owner, rfl⟩ := hattempts.taken_of_failed hx hcause
    exact ⟨owner, x.1, hengines ▸ List.mem_map_of_mem hx, rfl⟩

end Operations

section Examples

/-- An engine on some host. It is reached by the usual protocol at the usual port. -/
def engineOn (id host : String) : EngineRecord where
  id
  protocol := "http"
  host
  port := EngineRecord.defaultPort

/-- Settings with some engines. Everything else is as usual. -/
def settingsWith (engines : List EngineRecord) : Settings where
  projectsPath := "/srv/lattice"
  engines

/-- Nothing stands in the way of the first settings. Their engines have different addresses. -/
theorem first_settings_in_force :
    let s := settingsWith [engineOn "a" "10.0.0.1", engineOn "b" "10.0.0.2"]
    Configured (initial s) ∧ Apart s.engines
      ∧ ∃ report c', (applySettings s).Settles (initial s) report c' ∧ report.result = .ok ()
        ∧ c'.registry.records.Perm s.engines := by
  intro s
  have hapart : Apart s.engines := ⟨by decide, by decide⟩
  obtain ⟨report, c', hsettles, hiff, hperm⟩ := applySettings_ok_iff (.initial s) hapart
  have hok := hiff.mpr (.cons (by rintro _ _ _ ⟨⟩) (.cons (by rintro _ ⟨⟩) .nil))
  exact ⟨.initial s, hapart, report, c', hsettles, hok, hperm hok⟩

/-- **Settings that are refused although they contradict nothing**: the engines move on by one host,
and the first one is tried while its new host is still the second one's. -/
theorem moved_engines_refused :
    let s := settingsWith [engineOn "a" "10.0.0.1", engineOn "b" "10.0.0.2"]
    let moved := settingsWith [engineOn "a" "10.0.0.2", engineOn "b" "10.0.0.3"]
    let c := ((applySettings s).transcript (fun _ _ => none) (initial s)).after
    let t := (applySettings moved).transcript (fun _ _ => none) c
    Configured c ∧ Apart moved.engines
      ∧ t.result.map (·.result)
        = some (.error (.ofRegistry (.addressTaken "b" "http://10.0.0.2:3080")))
      ∧ t.after.registry.records = [engineOn "a" "10.0.0.1", engineOn "b" "10.0.0.3"] := by
  intro s moved c t
  have hfailures : t.result.map (·.failures) = some [.addressTaken "b" "http://10.0.0.2:3080"] := by
    decide +kernel
  have hresult : t.result.map (·.result)
      = some (.error (.ofRegistry (.addressTaken "b" "http://10.0.0.2:3080"))) := by
    obtain ⟨report, hreport, hfailures⟩ := Option.map_eq_some_iff.mp hfailures
    rw [hreport, Option.map_some, SettingsReport.result, hfailures]
    rfl
  refine ⟨?_, ⟨by decide, by decide⟩, hresult, by decide +kernel⟩
  obtain ⟨tried, r, -, -, hsettles, -⟩ := applySettings_settles (Configured.initial s).quiet s
  have hc : c = configuredWith s r (initial s) :=
    congrArg Process.Transcript.after (hsettles.transcript fun _ _ => none)
  rw [hc]
  exact .applied (.initial s) hsettles

end Examples

end Testbed.Controller

import Testbed.Proofs.Node.Existence
import Testbed.Proofs.Node.Settings
import Testbed.Proofs.Node.StagedUpdate

/-!
# What an update leaves under each key

An update that succeeds has taken over several things under one key, one after another: what its
generic part asked for, what the engine reported when it confirmed that part, and what the call
asked for that some keys have of their own. `setting_updated` says which of them is found
afterwards – the last there is.

For the keys with calls of their own this means that the request has the last word, whatever the
engine reported, but only if the call is made (`own_calls_prevail`). It is not made for a value that
the node had at the beginning: no request for the number of adapters or for the machine name is sent
then (`resize_sent_iff`, `rename_sent_iff`), and the report is taken over the request.
-/

namespace Testbed.Node

variable {n m : Node} {stages : List Stage} {log : List Exchange} {reports : List Json}
  {ending : Ending}

/-! ## What the engine reported

An update takes over one report, that of the generic update. It is looked up among the questions of
the operation, as the request that is put at the node itself. -/

/-- **What the engine reported when it confirmed the generic update.** There is at most one generic
update in an operation, and its request is the only one of its method to the path of the node
itself. -/
def pushReport? (n : Node) (log : List Exchange) : Option Json :=
  log.findSome? fun
    | ⟨_, .send call, some (.ok report)⟩ =>
      if call.request.method = .put ∧ call.request.path = n.path then some report else none
    | _ => none

/-- What is taken over under a key of what the engine reported. Values in a wrong form are not taken
over. -/
def reported? (n : Node) (log : List Exchange) (key : String) : Option Json :=
  ((n.pushReport? log).bind (member? · key)).bind (n.stored? key)

/-- There is no report if nothing was put at the node itself. -/
theorem pushReport_eq_none (h : ∀ x ∈ log, ∀ call, x.question = .send call →
    call.request.method = .put → call.request.path ≠ n.path) : n.pushReport? log = none := by
  refine List.findSome?_eq_none_iff.mpr fun x hx => ?_
  split
  · rename_i k call report
    exact if_neg fun hput => h _ hx call rfl hput.1 hput.2
  · rfl

/-- A report is looked for as far as there are requests for the node itself. The first such request
is meant, and an update puts one at most. -/
theorem pushReport_append {later : List Exchange} (h : n.pushReport? later = none) :
    n.pushReport? (log ++ later) = n.pushReport? log := by
  unfold pushReport? at h ⊢
  rw [List.findSome?_append, h, Option.or_none]

theorem pushReport_congr (h : m.identity = n.identity) : m.pushReport? = n.pushReport? := by
  unfold pushReport?
  rw [path_congr h]

/-- Stages other than the generic update put nothing at the node itself. -/
theorem Staged.pushReport (h : Staged n stages log reports ending m)
    (hstages : ∀ stage ∈ stages, ∀ keys, stage ≠ .push keys) : n.pushReport? log = none := by
  refine pushReport_eq_none fun x hx call hcall hput hpath => ?_
  obtain ⟨stage, hstage, k, hk, hrequest⟩ := h.sends x hx call hcall
  rw [hrequest] at hput hpath
  cases stage with
  | push keys => exact hstages _ hstage keys rfl
  | resize count =>
    -- the number of adapters has a path of its own
    exact path_ne_subPath rfl (hpath.symm.trans (subPath_congr hk "adapters"))
  | create | act | destroy | bind | unbind | rename | startCapture | stopCapture | post | delete =>
    cases hput

theorem Staged.pushReport_renamed {name : Option Json}
    (h : Staged n (name.toList.map (.rename "vmname")) log reports ending m) :
    n.pushReport? log = none := by
  refine h.pushReport fun stage hstage keys => ?_
  obtain ⟨value, -, rfl⟩ := List.mem_map.mp hstage
  exact nofun

theorem Staged.pushReport_resized {count : Option Nat}
    (h : Staged n (count.toList.flatMap n.resizeStages) log reports ending m) :
    n.pushReport? log = none := by
  refine h.pushReport fun stage hstage keys => ?_
  obtain ⟨count, -, hstage⟩ := List.mem_flatMap.mp hstage
  obtain hstage | hstage := List.mem_append.mp hstage
  · obtain ⟨index, -, rfl⟩ := List.mem_map.mp hstage
    exact nofun
  · obtain rfl := List.mem_singleton.mp hstage
    exact nofun

/-! ## The parts of an update

For each part it is computed what it leaves under a key. Only the first part takes over a report, so
the later two set what was asked for. -/

/-- The generic update leaves under a key what was reported, or else what was pushed, or else what
was there. -/
theorem Staged.setting_pushed {keys : Dict String Json}
    (h : Staged n (pushStages keys) log reports (some (.ok ())) m) (key : String) :
    m.setting? key
      = (n.reported? log key).or (((keys.get? key).bind (n.stored? key)).or (n.setting? key)) := by
  unfold pushStages at h
  split at h
  · rename_i hempty
    cases h
    have hnone : keys.get? key = none := by
      unfold Dict.get?
      rw [List.isEmpty_iff.mp hempty]
      rfl
    rw [hnone]
    rfl
  · obtain ⟨lookups, client, report, _, _, rfl, hlookups, hrest⟩ := h.uncons
    cases hrest
    have hlookup : n.pushReport? lookups = none :=
      pushReport_eq_none fun x hx call hcall => absurd hcall (hlookups x hx call)
    have hreport : n.pushReport?
        (lookups ++ [⟨n, .send ⟨client, Stage.request n (.push keys)⟩, some (.ok report)⟩])
          = some report := by
      unfold pushReport? at hlookup ⊢
      rw [List.findSome?_append, hlookup]
      simp [Stage.request, Request.put]
    have hstored : (n.applyKeys keys.entries).stored? key = n.stored? key :=
      funext fun value => stored_congr (nodeType_congr (applyKeys_identity n _))
        (applyKeys_nios n _) key value
    show ((n.applyKeys keys.entries).merge report).setting? key = _
    rw [setting_merge, hstored, setting_applyKeys keys.ascending, reported?, hreport]
    rfl

/-- The rename call sets the machine name and nothing else. -/
theorem Staged.setting_renamed {name : Option Json}
    (htype : name ≠ none → n.nodeType.hasRename = true)
    (h : Staged n (name.toList.map (.rename "vmname")) log reports (some (.ok ())) m)
    (key : String) :
    m.setting? key = (if key = "vmname" then name else none).or (n.setting? key) := by
  cases name with
  | none =>
    cases h
    rw [ite_self]
    rfl
  | some value =>
    obtain ⟨_, _, report, _, _, -, -, hrest⟩ := h.uncons
    cases hrest
    by_cases hkey : key = "vmname"
    · subst hkey
      rw [if_pos rfl]
      exact (setting_vmname (n := Stage.confirm report n (.rename "vmname" value))
        (htype nofun)).trans (Dict.get_insert_self ..)
    · have htakes : n.Takes "vmname" value _ := .property
      rw [if_neg hkey]
      exact htakes.setting hkey

/-- Changing the number of adapters sets it and nothing else. -/
theorem Staged.setting_resized {count : Option Nat}
    (h : Staged n (count.toList.flatMap n.resizeStages) log reports (some (.ok ())) m)
    (key : String) :
    m.setting? key = (if key = "adapters" then count.map .nat else none).or (n.setting? key) := by
  cases count with
  | none =>
    cases h
    rw [Option.map_none, ite_self]
    rfl
  | some count =>
    have hlist : (some count).toList.flatMap n.resizeStages = n.resizeStages count ++ [] := rfl
    rw [hlist, List.append_nil] at h
    obtain ⟨k, log', log'', reports', reports'', rfl, hunbind, hresize⟩ := Staged.split h
    have hk : k.setting? key = n.setting? key := by
      refine (hunbind.throughout (P := fun k => k.setting? key = n.setting? key) rfl ?_).2
      refine keptBy_of_forall (fun stage hstage report k hk => ?_) rfl
      obtain ⟨index, -, rfl⟩ := List.mem_map.mp hstage
      exact hk
    obtain ⟨_, _, report, _, _, -, -, hrest⟩ := hresize.uncons
    cases hrest
    rw [← hk]
    by_cases hkey : key = "adapters"
    · subst hkey
      rw [if_pos rfl]
      exact setting_adapters _
    · have htakes : k.Takes "adapters" (.nat count) _ := .adapters rfl count
      rw [if_neg hkey]
      exact htakes.setting hkey

/-! ## A whole update

The parts are put together for an update that succeeded. Under every key the node has then what a
call of its own asked for, or else what was reported, asked for or there before, in this order. -/

section Update

variable {changes : Dict String Json} {outside : Outside} {outcome : Outcome}

/-- Every value may be asked for under its key. An update with any other value ends before its first
request. -/
def Usable (n : Node) (changes : Dict String Json) : Prop :=
  ∀ key value, changes.get? key = some value → n.objection? key value = none

theorem usable_iff : n.Usable changes
    ↔ changes.entries.findSome? (fun e => n.objection? e.1 e.2) = none := by
  rw [List.findSome?_eq_none_iff]
  constructor
  · rintro h ⟨key, value⟩ hmem
    exact h key value ((changes.mem_entries_iff key value).mp hmem)
  · intro h key value hvalue
    exact h (key, value) ((changes.mem_entries_iff key value).mpr hvalue)

/-- **An update that succeeded** had no unusable value and all its stages confirmed. Success
excludes both a refusal before the first request and one in the middle. -/
theorem update_completed (hcreated : n.status.isCreated = true)
    (hok : (n.perform (.update changes, outside)).result = some (.ok outcome)) :
    n.Usable changes
      ∧ ∃ reports, Staged n (n.updateStages changes)
          (n.perform (.update changes, outside)).exchanges reports (some (.ok ()))
          (n.perform (.update changes, outside)).after := by
  have hperformed := n.perform_performed (.update changes, outside)
  rw [agenda_update hcreated] at hperformed
  cases hobjection : changes.entries.findSome? (fun e => n.objection? e.1 e.2) with
  | some cause =>
    rw [hobjection] at hperformed
    rw [show n.perform _ = _ from hperformed] at hok
    cases hok
  | none =>
    rw [hobjection] at hperformed
    obtain ⟨reports, ending, hstaged, hresult⟩ := hperformed
    rw [hok] at hresult
    match ending with
    | some (.ok ()) => exact ⟨usable_iff.mpr hobjection, reports, hstaged⟩
    | some (.error e) => cases hresult
    | none => cases hresult

/-- An update does not change the type. -/
theorem nodeType_updated (hcreated : n.status.isCreated = true)
    (hok : (n.perform (.update changes, outside)).result = some (.ok outcome)) :
    (n.perform (.update changes, outside)).after.nodeType = n.nodeType := by
  obtain ⟨-, reports, hstaged⟩ := update_completed hcreated hok
  rw [hstaged.after_eq]
  exact nodeType_congr (confirmAll_identity ..)

/-- The value that is asked for under a key with a call of its own, if it is another one. For other
keys there is none. -/
def ownCall? (n : Node) (changes : Dict String Json) (key : String) : Option Json :=
  (if key = "adapters" then (n.resizeTo? changes).map .nat else none).or
    (if key = "vmname" then n.renameTo? changes else none)

/-- Only a type with a call for it is renamed. -/
theorem hasRename_of_renameTo (h : n.renameTo? changes ≠ none) : n.nodeType.hasRename = true := by
  unfold renameTo? at h
  by_contra hno
  exact h (if_neg hno)

/-- **What an update leaves under a key**: what its own call asked for, or else what the engine
reported for the generic update, or else what that update asked for, or else what was there. The
order of the four is the order in which they happen, read backwards, and each of them hides those
behind it. A key without a call of its own skips the first. -/
theorem setting_updated (hcreated : n.status.isCreated = true)
    (hok : (n.perform (.update changes, outside)).result = some (.ok outcome)) (key : String) :
    (n.perform (.update changes, outside)).after.setting? key
      = (n.ownCall? changes key).or
        ((n.reported? (n.perform (.update changes, outside)).exchanges key).or
          ((((changes.filter n.pushes).get? key).bind (n.stored? key)).or (n.setting? key))) := by
  obtain ⟨-, reports, hstaged⟩ := update_completed hcreated hok
  obtain ⟨k, log, log', reports', _, hlog, hset, hresize⟩ := Staged.split hstaged
  -- the bindings are those of the beginning when it is the turn of the adapters
  have hnios : k.nios = n.nios := by
    rw [hset.after_eq]
    exact settingStages_nios n changes reports'
  rw [← funext (resizeStages_congr hnios)] at hresize
  obtain ⟨l, log₁, log₂, _, _, rfl, hpush, hrename⟩ := Staged.split hset
  have hl : l.identity = n.identity := by
    rw [hpush.after_eq]
    exact confirmAll_identity ..
  have hk : k.identity = n.identity := by
    rw [hset.after_eq]
    exact confirmAll_identity ..
  have htype : n.renameTo? changes ≠ none → l.nodeType.hasRename = true := fun h => by
    rw [nodeType_congr hl]
    exact hasRename_of_renameTo h
  -- only the generic update puts something at the node itself
  have hreport : n.pushReport? (log₁ ++ log₂ ++ log') = n.pushReport? log₁ := by
    rw [pushReport_append ((congrFun (pushReport_congr hk) log').symm.trans
        hresize.pushReport_resized),
      pushReport_append ((congrFun (pushReport_congr hl) log₂).symm.trans
        hrename.pushReport_renamed)]
  have hreported : n.reported? (log₁ ++ log₂ ++ log') key = n.reported? log₁ key := by
    unfold reported?
    rw [hreport]
  rw [hresize.setting_resized, hrename.setting_renamed htype, hpush.setting_pushed, hlog, hreported,
    ownCall?, Option.or_assoc]

/-! ## The calls of their own

The machine name and the number of adapters are looked at once more, because their calls come after
the report was taken over. What is asked for by them is what the node has in the end. -/

/-- The number of adapters that the engine reported for the generic update, if no binding lies
beyond it. -/
def reportedCount? (n : Node) (log : List Exchange) : Option Nat :=
  (((n.pushReport? log).bind (member? · "adapters")).bind Json.nat32?).filter
    fun count => (n.boundFrom count).isEmpty

/-- A key that does not belong into the generic update is not in it. -/
theorem pushed_eq_none {key : String} (h : ∀ value, n.pushes key value = false) :
    (changes.filter n.pushes).get? key = none := by
  rw [Dict.get_filter]
  cases changes.get? key with
  | none => rfl
  | some value => exact Option.filter_some_neg (h value)

/-- The number of adapters after an update. -/
theorem adapters_updated (hcreated : n.status.isCreated = true)
    (hok : (n.perform (.update changes, outside)).result = some (.ok outcome)) :
    (n.perform (.update changes, outside)).after.adapters
      = ((n.resizeTo? changes).or
          (n.reportedCount? (n.perform (.update changes, outside)).exchanges)).getD n.adapters := by
  have hpushed : (changes.filter n.pushes).get? "adapters" = none := by
    refine pushed_eq_none fun value => ?_
    unfold pushes
    rw [route_eq_adapters_iff.mpr rfl]
  have hreported : ∀ log : List Exchange,
      n.reported? log "adapters" = (n.reportedCount? log).map .nat := by
    intro log
    unfold reported? reportedCount? stored?
    rw [route_eq_adapters_iff.mpr rfl]
    cases (n.pushReport? log).bind (member? · "adapters") <;> rfl
  have hor : ∀ asked reported : Option Nat, (asked.map Json.nat).or
      ((reported.map .nat).or (some (.nat n.adapters)))
        = some (.nat ((asked.or reported).getD n.adapters)) := by
    rintro (_ | count) (_ | count') <;> rfl
  have hsetting := setting_updated hcreated hok "adapters"
  rw [setting_adapters, setting_adapters, hreported, hpushed, ownCall?, if_pos rfl,
    if_neg (by decide), Option.or_none, Option.bind_none, Option.none_or, hor] at hsetting
  exact Int.ofNat_inj.mp (Json.int.inj (Option.some.inj hsetting))

/-- The machine name after an update. -/
theorem vmname_updated (hcreated : n.status.isCreated = true)
    (htype : n.nodeType.hasRename = true)
    (hok : (n.perform (.update changes, outside)).result = some (.ok outcome)) :
    (n.perform (.update changes, outside)).after.properties.get? "vmname"
      = (n.renameTo? changes).or
        (((n.pushReport? (n.perform (.update changes, outside)).exchanges).bind
          (member? · "vmname")).or (n.properties.get? "vmname")) := by
  have hroute : route n.nodeType "vmname" = .rename := route_eq_rename_iff.mpr ⟨htype, rfl⟩
  have hpushed : (changes.filter n.pushes).get? "vmname" = none := by
    refine pushed_eq_none fun value => ?_
    unfold pushes
    rw [hroute]
  have hstored : n.stored? "vmname" = some := by
    funext value
    unfold stored?
    rw [hroute]
  have hafter : (n.perform (.update changes, outside)).after.nodeType.hasRename = true := by
    rw [nodeType_updated hcreated hok]
    exact htype
  have hsetting := setting_updated hcreated hok "vmname"
  rw [setting_vmname hafter, setting_vmname htype, hpushed, reported?, hstored, ownCall?,
    if_neg (by decide), if_pos rfl, Option.bind_fun_some] at hsetting
  exact hsetting

/-- A number of adapters that may be asked for is a number. -/
theorem count_of_usable {value : Json} (h : n.objection? "adapters" value = none) :
    ∃ count, value.nat32? = some count := by
  unfold objection? at h
  rw [route_eq_adapters_iff.mpr rfl] at h
  dsimp only at h
  split at h
  · rename_i hcount
    exact Option.isSome_iff_exists.mp hcount
  · cases h

/-! ### Whether they are made

A value that the node has already is not asked for, so its call is not made. Both directions are
stated by the requests that were sent. -/

theorem mem_updateStages_resize {count : Nat} :
    .resize count ∈ n.updateStages changes ↔ n.resizeTo? changes = some count := by
  have hsettings : .resize count ∉ n.settingStages changes := fun hmem =>
    forall_mem_settingStages (P := (· ≠ .resize count)) (fun _ => nofun) (fun _ _ => nofun) n
      changes _ hmem rfl
  have hresize (other : Nat) : .resize count ∈ n.resizeStages other ↔ count = other := by
    simp [resizeStages]
  rw [updateStages, List.mem_append, or_iff_right hsettings, List.mem_flatMap]
  simp only [hresize, Option.mem_toList, exists_eq_right']

theorem mem_updateStages_rename {key : String} {value : Json} :
    .rename key value ∈ n.updateStages changes
      ↔ key = "vmname" ∧ n.renameTo? changes = some value := by
  have hpush : .rename key value ∉ pushStages (changes.filter n.pushes) := by
    unfold pushStages
    split <;> simp
  have hresize : .rename key value ∉ (n.resizeTo? changes).toList.flatMap n.resizeStages := by
    simp [resizeStages]
  rw [updateStages, settingStages, List.mem_append, or_iff_left hresize, List.mem_append,
    or_iff_right hpush, List.mem_map]
  simp only [Option.mem_toList]
  constructor
  · rintro ⟨name, hname, heq⟩
    cases heq
    exact ⟨rfl, hname⟩
  · rintro ⟨rfl, hvalue⟩
    exact ⟨value, hvalue, rfl⟩

/-- The requests of an update that succeeded are those of its stages. -/
theorem mem_sent_updated (hcreated : n.status.isCreated = true)
    (hok : (n.perform (.update changes, outside)).result = some (.ok outcome)) {r : Request} :
    r ∈ sent (n.perform (.update changes, outside)).exchanges
      ↔ ∃ stage ∈ n.updateStages changes, stage.request n = r := by
  obtain ⟨-, reports, hstaged⟩ := update_completed hcreated hok
  rw [hstaged.sent_eq (ne_create_of_mem_updateStages changes), List.mem_map]

theorem rename_ne_adapters : n.subPath "rename" ≠ n.subPath "adapters" :=
  (subPath_inj rfl rfl).not.mpr (by decide)

/-- **The number of adapters is asked for exactly if it is to be another one.** Other requests for
that path cannot be mistaken for it, since no other stage of an update has it. -/
theorem resize_sent_iff (hcreated : n.status.isCreated = true)
    (hok : (n.perform (.update changes, outside)).result = some (.ok outcome)) {r : Request} :
    r ∈ sent (n.perform (.update changes, outside)).exchanges ∧ r.path = n.subPath "adapters"
      ↔ ∃ count, n.resizeTo? changes = some count ∧ (Stage.resize count).request n = r := by
  rw [mem_sent_updated hcreated hok]
  constructor
  · rintro ⟨⟨stage, hstage, rfl⟩, hpath⟩
    have hkinds := forall_mem_updateStages (P := fun stage =>
        (stage.request n).path = n.subPath "adapters" → ∃ count, stage = .resize count)
      (fun _ h => absurd h (path_ne_subPath rfl))
      (fun _ _ h => absurd h rename_ne_adapters)
      (fun _ h => absurd h (adapterPath_ne_adapters _ _)) (fun count _ => ⟨count, rfl⟩) n changes
    obtain ⟨count, rfl⟩ := hkinds stage hstage hpath
    exact ⟨count, mem_updateStages_resize.mp hstage, rfl⟩
  · rintro ⟨count, hcount, rfl⟩
    exact ⟨⟨_, mem_updateStages_resize.mpr hcount, rfl⟩, rfl⟩

/-- **A machine name is asked for exactly if it is to be another one.** The name is the one of the
machine, for the types of nodes that have one beside their own name. -/
theorem rename_sent_iff (hcreated : n.status.isCreated = true)
    (hok : (n.perform (.update changes, outside)).result = some (.ok outcome)) {r : Request} :
    r ∈ sent (n.perform (.update changes, outside)).exchanges ∧ r.path = n.subPath "rename"
      ↔ ∃ name, n.renameTo? changes = some name ∧ (Stage.rename "vmname" name).request n = r := by
  rw [mem_sent_updated hcreated hok]
  constructor
  · rintro ⟨⟨stage, hstage, rfl⟩, hpath⟩
    have hkinds := forall_mem_updateStages (P := fun stage =>
        (stage.request n).path = n.subPath "rename" → ∃ key name, stage = .rename key name)
      (fun _ h => absurd h (path_ne_subPath rfl)) (fun key name _ => ⟨key, name, rfl⟩)
      (fun _ h => absurd h (adapterPath_ne_subPath rfl (by decide) _ _))
      (fun _ h => absurd h rename_ne_adapters.symm) n changes
    obtain ⟨key, name, rfl⟩ := hkinds stage hstage hpath
    obtain ⟨rfl, hname⟩ := mem_updateStages_rename.mp hstage
    exact ⟨name, hname, rfl⟩
  · rintro ⟨name, hname, rfl⟩
    exact ⟨⟨_, mem_updateStages_rename.mpr ⟨rfl, hname⟩, rfl⟩, rfl⟩

theorem resizeTo_eq_some_iff {value : Json} {count other : Nat}
    (hvalue : changes.get? "adapters" = some value) (hcount : value.nat32? = some count) :
    n.resizeTo? changes = some other ↔ count ≠ n.adapters ∧ count = other := by
  rw [resizeTo?, hvalue, Option.bind_some, hcount, Option.filter_eq_some_iff]
  simp only [Option.some.injEq, decide_eq_true_eq]
  constructor
  · rintro ⟨rfl, hne⟩
    exact ⟨hne, rfl⟩
  · rintro ⟨hne, rfl⟩
    exact ⟨rfl, hne⟩

theorem renameTo_eq_some_iff {name other : Json} (htype : n.nodeType.hasRename = true)
    (hname : changes.get? "vmname" = some name) :
    n.renameTo? changes = some other
      ↔ Json.sameOpt (n.properties.get? "vmname") (some name) = false ∧ name = other := by
  rw [renameTo?, if_pos htype, hname, Option.filter_eq_some_iff]
  simp only [Option.some.injEq, Bool.not_eq_true']
  constructor
  · rintro ⟨rfl, hother⟩
    exact ⟨hother, rfl⟩
  · rintro ⟨hother, rfl⟩
    exact ⟨rfl, hother⟩

/-- **What an update does about the settings with calls of their own**, from its record: which of
the calls it makes, and what it leaves of the settings. -/
structure OwnCalls (n : Node) (changes : Dict String Json) (t : Record Outcome) : Prop where
  /-- The number of adapters that was asked for is a number. -/
  countable : ∀ value, changes.get? "adapters" = some value → ∃ count, value.nat32? = some count
  /-- A number of adapters that is asked for is set, if it is another one than at the beginning. -/
  resized : ∀ value count, changes.get? "adapters" = some value → value.nat32? = some count →
    count ≠ n.adapters → t.after.adapters = count
  /-- The number of the beginning gives way to one that the engine reports. -/
  unresized : ∀ value, changes.get? "adapters" = some value → value.nat32? = some n.adapters →
    t.after.adapters = (n.reportedCount? t.exchanges).getD n.adapters
  /-- A resize is requested for another number than at the beginning, and for no other reason. -/
  resizes : ∀ value count, changes.get? "adapters" = some value → value.nat32? = some count →
    ∀ r, r ∈ sent t.exchanges ∧ r.path = n.subPath "adapters"
      ↔ count ≠ n.adapters ∧ (Stage.resize count).request n = r
  /-- A machine name that is asked for is set, if it is another one than at the beginning. -/
  renamed : n.nodeType.hasRename = true → ∀ name, changes.get? "vmname" = some name →
    Json.sameOpt (n.properties.get? "vmname") (some name) = false →
    t.after.properties.get? "vmname" = some name
  /-- The name of the beginning gives way to one that the engine reports. -/
  unrenamed : n.nodeType.hasRename = true → ∀ name, changes.get? "vmname" = some name →
    Json.sameOpt (n.properties.get? "vmname") (some name) = true →
    t.after.properties.get? "vmname"
      = ((n.pushReport? t.exchanges).bind (member? · "vmname")).or (n.properties.get? "vmname")
  /-- A rename is requested for another name than at the beginning, and for no other reason. -/
  renames : n.nodeType.hasRename = true → ∀ name, changes.get? "vmname" = some name →
    ∀ r, r ∈ sent t.exchanges ∧ r.path = n.subPath "rename"
      ↔ Json.sameOpt (n.properties.get? "vmname") (some name) = false
        ∧ (Stage.rename "vmname" name).request n = r

/-- **A setting that has a call of its own is as that call asked for**, whatever the engine reports
for the generic update. The call is made exactly if the value asked for is another one than at the
beginning. If it is the same one, nothing is requested for the setting, and what the engine reports
about it is the last word: the value that was asked for, and that the node had, gives way to it.

This is as far as a request can be relied on. The call is the last one about the setting and its
confirmation takes over what was asked for; but where there is nothing to call for, the report on
the generic update is all that there is, and a node may end up with a value that it did not have
before and that nobody asked for. -/
theorem own_calls_prevail (n : Node) (hcreated : n.status.isCreated = true)
    (changes : Dict String Json) (outside : Outside) (outcome : Outcome)
    (hok : (n.perform (.update changes, outside)).result = some (.ok outcome)) :
    OwnCalls n changes (n.perform (.update changes, outside)) where
  countable := by
    intro value hvalue
    exact count_of_usable ((update_completed hcreated hok).1 "adapters" value hvalue)
  resized := by
    intro value count hvalue hcount hne
    rw [adapters_updated hcreated hok, resizeTo?, hvalue, Option.bind_some, hcount,
      Option.filter_some, if_pos (decide_eq_true hne)]
    rfl
  unresized := by
    intro value hvalue hcount
    rw [adapters_updated hcreated hok, resizeTo?, hvalue, Option.bind_some, hcount,
      Option.filter_some, if_neg (by simp)]
    rfl
  resizes := by
    intro value count hvalue hcount r
    rw [resize_sent_iff hcreated hok]
    simp only [resizeTo_eq_some_iff hvalue hcount, and_assoc, exists_and_left, exists_eq_left']
  renamed := by
    intro htype name hname hother
    rw [vmname_updated hcreated htype hok, renameTo?, if_pos htype, hname,
      Option.filter_some, if_pos (by simp [hother])]
    rfl
  unrenamed := by
    intro htype name hname hsame
    rw [vmname_updated hcreated htype hok, renameTo?, if_pos htype, hname,
      Option.filter_some, if_neg (by simp [hsame])]
    rfl
  renames := by
    intro htype name hname r
    rw [rename_sent_iff hcreated hok]
    simp only [renameTo_eq_some_iff htype hname, and_assoc, exists_and_left, exists_eq_left']

end Update

section Examples

/-- A machine with two adapters that exists on its engine. -/
def machine : Node :=
  { draft default "captures" "engine"
      { id := default, nodeType := .virtualBox, name := "old", adapters := 2
        properties := Dict.ofList [("vmname", .str "machine")] } with
    status := .created }

/-- Values that the machine has already, and a new name. -/
def heldValues : Dict String Json :=
  Dict.ofList [("adapters", .nat 2), ("name", .str "new"), ("vmname", .str "machine")]

/-- Values that are all new. -/
def newValues : Dict String Json :=
  Dict.ofList [("adapters", .nat 3), ("name", .str "new"), ("vmname", .str "renamed")]

/-- An engine that reports a number of adapters and a machine name of its own. It does so whatever
it is asked. -/
def headstrong : Outside :=
  served (fun _ => .supplied "engine") fun _ =>
    .ok (.mkObj [("adapters", .nat 4), ("vmname", .str "other")])

/-- What a call of its own asked for is not lost to a headstrong engine. -/
theorem requested_over_reported :
    machine.status.isCreated = true
      ∧ (machine.perform (.update newValues, headstrong)).result
        = some (.ok (.keys ["name", "vmname", "adapters"]))
      ∧ (machine.perform (.update newValues, headstrong)).after.adapters = 3 := by
  have hok : (machine.perform (.update newValues, headstrong)).result
      = some (.ok (.keys ["name", "vmname", "adapters"])) := by
    rfl
  have hadapters : newValues.get? "adapters" = some (.nat 3) := by decide +kernel
  have hother : 3 ≠ machine.adapters := by decide
  exact ⟨rfl, hok,
    (own_calls_prevail machine rfl newValues headstrong _ hok).resized _ 3 hadapters rfl hother⟩

/-- What the machine had already is. The values were not asked for, since the machine had them, and
then the engine reported others. -/
theorem reported_over_requested :
    machine.status.isCreated = true ∧ machine.nodeType.hasRename = true
      ∧ (machine.perform (.update heldValues, headstrong)).result = some (.ok (.keys ["name"]))
      ∧ heldValues.get? "adapters" = some (.nat 2)
      ∧ (machine.perform (.update heldValues, headstrong)).after.adapters = 4
      ∧ heldValues.get? "vmname" = some (.str "machine")
      ∧ (machine.perform (.update heldValues, headstrong)).after.properties.get? "vmname"
        = some (.str "other") :=
  ⟨rfl, rfl, rfl, by decide +kernel, by decide +kernel, by decide +kernel, by decide +kernel⟩

end Examples

end Testbed.Node

import Testbed.Proofs.Node.SettingsInvariants

/-!
# What a node has, asked for again

A caller who reads a node and sends back what was read asks for nothing new, so that there should be
nothing to do. No value differs from itself, and so there never is (`differs_own`): nothing is sent
and nothing changes, whatever brought the values into the node.

Whether the call is accepted is another question. Values are validated when they are asked for, and
before they are compared, while descriptions and reports bring them in without this validation: any
text becomes a name, and any number of 32 bits a console. `resubmission_accepted_iff` says that
these two fields are the whole difference. The number of adapters and the console protocol are read
in the same way wherever they come from, and the properties are not looked into at all.
-/

namespace Testbed.Node

variable {n : Node}

/-- **What a node has, as it would be asked for**: its fields, the number of its adapters and its
properties. A console that is not set is `null`, as a caller reads it. -/
def ownSettings (n : Node) : Dict String Json :=
  n.properties.overlay <| .ofList
    [("name", .str n.name), ("console", .natOrNull n.console),
      ("console_type", .str n.consoleType.text), ("adapters", .nat n.adapters)]

/-- It is what the node has under its settings keys. -/
theorem get_ownSettings (h : n.Tidy) (key : String) :
    n.ownSettings.get? key = n.setting? key := by
  have hother (hfield : ∀ f, route n.nodeType key ≠ .field f)
      (hadapters : route n.nodeType key ≠ .adapters) :
      key ∉ ["name", "console", "console_type", "adapters"] := fun hmem =>
    (route_typed hmem).elim (fun ⟨f, hf⟩ => hfield f hf) hadapters
  unfold ownSettings setting?
  rw [Dict.get_overlay, Dict.get_ofList (by simp)]
  cases hroute : route n.nodeType key with
  | field f =>
    obtain rfl := route_eq_field_iff.mp hroute
    cases f <;> rfl
  | adapters =>
    obtain rfl := route_eq_adapters_iff.mp hroute
    rfl
  | identity =>
    rw [Dict.getEntry_eq_none_iff.mpr (hother (by simp [hroute]) (by simp [hroute])),
      Option.none_or, h.get_eq_none (by simp [hroute]) (by simp [hroute])]
  | rename | property =>
    rw [Dict.getEntry_eq_none_iff.mpr (hother (by simp [hroute]) (by simp [hroute])),
      Option.none_or]

/-- **No value differs from itself.** The comparison of a value with itself always succeeds, and
what is found under a key is what the node would compare with. -/
theorem differs_own {key : String} {value : Json} (h : n.setting? key = some value) :
    n.differs key value = false := by
  by_cases hroute : route n.nodeType key = .identity
  · unfold differs
    rw [hroute]
  · rw [differs_of_setting hroute h]
    simp [Json.same]

/-- **A node whose settings may be asked for**: it has a name, and its console, if it has one, is a
port. That is what the validation of requests asks for besides what every setting keeps to anyway.
-/
structure Askable (n : Node) : Prop where
  name : n.name ≠ ""
  console : ∀ port, n.console = some port → 0 < port ∧ port < 65536

theorem accepts_console_iff {console : Option Nat} :
    fieldAccepts .console (.natOrNull console) = true
      ↔ ∀ port, console = some port → 0 < port ∧ port < 65536 := by
  cases console with
  | none => exact iff_of_true rfl nofun
  | some port =>
    have hread : ((Json.nat port).natBelow? 65536).any (· > 0) = true
        ↔ port < 65536 ∧ 0 < port := by
      rw [Json.natBelow_nat]
      split <;> simp [*]
    have hnull : (Json.nat port).isNull = false := rfl
    rw [fieldAccepts, Json.natOrNull, hnull, Bool.false_or, hread, and_comm]
    exact ⟨fun h _ hport => Option.some.inj hport ▸ h, fun h => h port rfl⟩

/-- Its settings are then accepted in all fields. -/
theorem askable_iff : n.Askable ↔ ∀ f, fieldAccepts f (n.fieldValue f) = true := by
  have hname : fieldAccepts .name (n.fieldValue .name) = true ↔ n.name ≠ "" := decide_eq_true_iff
  have hconsoleType : fieldAccepts .consoleType (n.fieldValue .consoleType) = true :=
    congrArg Except.isOk (ConsoleType.decode_text n.consoleType)
  constructor
  · rintro ⟨h, h'⟩ f
    cases f with
    | name => exact hname.mpr h
    | console => exact accepts_console_iff.mpr h'
    | consoleType => exact hconsoleType
  · intro h
    exact ⟨hname.mp (h .name), accepts_console_iff.mp (h .console)⟩

/-- What is objectionable about a value that the node has is a field. Adapters and properties are
never in the way. -/
theorem objection_own (hsized : n.Sized) {key : String} {value : Json} {cause : Malformed}
    (h : n.setting? key = some value) (hcause : n.objection? key value = some cause) :
    ∃ f, fieldAccepts f (n.fieldValue f) = false ∧ cause = .fieldValue f (n.fieldValue f) := by
  unfold setting? at h
  unfold objection? at hcause
  cases hroute : route n.nodeType key with
  | identity | rename | property =>
    rw [hroute] at hcause
    cases hcause
  | field f =>
    rw [hroute] at h hcause
    obtain rfl := Option.some.inj h
    dsimp only at hcause
    split at hcause
    · cases hcause
    · rename_i hno
      exact ⟨f, Bool.eq_false_iff.mpr hno, (Option.some.inj hcause).symm⟩
  | adapters =>
    rw [hroute] at h hcause
    obtain rfl := Option.some.inj h
    rw [Json.nat32_nat hsized.adapters] at hcause
    cases hcause

/-! ## The call

The settings of a node are given back to it as a request. The call compares them key by key, after
it has checked them, so a setting that does not pass its own check is refused although nothing would
change. -/

/-- **What becomes of asking a node for what it has.** Either way there are no exchanges and the
node is the same; what remains open is whether the result is an error. -/
structure Resubmitted (n : Node) (t : Record Outcome) : Prop where
  /-- Nothing is sent. -/
  silent : t.exchanges = []
  /-- Nothing changes. -/
  unchanged : t.after = n
  /-- It succeeds, with no keys, if the settings may be asked for. -/
  accepted_iff : t.result = some (.ok (.keys [])) ↔ n.Askable
  /-- Otherwise a field is named that may not. -/
  refused : ¬ n.Askable → ∃ f, fieldAccepts f (n.fieldValue f) = false
    ∧ t.result = some (.error (.validation (.fieldValue f (n.fieldValue f))))

theorem perform_resubmitted (htidy : n.Tidy) (hsized : n.Sized)
    (hcreated : n.status.isCreated = true) (outside : Outside) :
    n.Resubmitted (n.perform (.update n.ownSettings, outside)) := by
  have hown {key : String} {value : Json} (hvalue : n.ownSettings.get? key = some value) :
      n.setting? key = some value := (get_ownSettings htidy key).symm.trans hvalue
  have hperformed := n.perform_performed (.update n.ownSettings, outside)
  rw [agenda_update hcreated] at hperformed
  cases hcause : n.ownSettings.entries.findSome? (fun e => n.objection? e.1 e.2) with
  | some cause =>
    rw [hcause] at hperformed
    obtain ⟨⟨key, value⟩, hmem, hobjection⟩ := List.exists_of_findSome?_eq_some hcause
    have hsetting := hown ((Dict.mem_entries_iff _ key value).mp hmem)
    obtain ⟨f, hno, rfl⟩ := objection_own hsized hsetting hobjection
    have hnot : ¬ n.Askable := fun h => Bool.eq_false_iff.mp hno (askable_iff.mp h f)
    rw [show n.perform _ = _ from hperformed]
    exact ⟨rfl, rfl, iff_of_false nofun hnot, fun _ => ⟨f, hno, rfl⟩⟩
  | none =>
    have husable := usable_iff.mpr hcause
    have haskable : n.Askable := by
      refine askable_iff.mpr fun f => ?_
      have hvalue : n.ownSettings.get? f.key = some (n.fieldValue f) :=
        (get_ownSettings htidy f.key).trans (n.setting_field f)
      exact objection_field.mp (husable _ _ hvalue)
    have hstages : n.updateStages n.ownSettings = [] :=
      (updateStages_eq_nil_iff husable).mpr fun key value hvalue => differs_own (hown hvalue)
    rw [(perform_update_idle_iff hcreated husable outside).mpr hstages]
    exact ⟨rfl, rfl, iff_of_true rfl haskable, fun hnot => absurd haskable hnot⟩

/-- **Asking a node for what it has** never sends anything nor changes anything, all through its
life, whatever its description says and its engine has reported. It succeeds exactly if the node has
a name and its console, if any, is a port.

The condition can fail at any time of a life, because a description may have an empty name or the
console 0, and a report may bring either. It is then the validation that stands in the way, of a
value that is not to be changed. -/
theorem resubmission_accepted_iff (project : Uuid) (captureDir : OsPath) (engine : String)
    (spec : NodeSpec) (hspec : spec.Sized) (turns : List Turn) :
    Always (fun n => n.status.isCreated = true → ∀ outside : Outside,
        n.Resubmitted (n.perform (.update n.ownSettings, outside)))
      (draft project captureDir engine spec) turns := by
  have htidy := tidy_keptBySettings.always (draft_tidy project captureDir engine spec) turns
  have hsized := sized_keptBySettings.always (draft_sized project captureDir engine hspec) turns
  exact (htidy.and hsized).mono fun n hn => perform_resubmitted hn.1 hn.2

section Examples

/-- A host that leaves its console to the engine. -/
def host : NodeSpec :=
  { id := default, nodeType := .vpcs, name := "host", adapters := 1
    properties := Dict.ofList [("base", .null), ("script", .str "echo")] }

/-- An engine that is found and answers every request with a report. -/
def reporting (report : Json) : Outside :=
  served (fun _ => .supplied "engine") fun _ => .ok report

/-- An engine that allocates a port. -/
def allocating : Outside := reporting (.mkObj [("console", .nat 5000)])

/-- A host whose engine has allocated a port may be asked for what it has. -/
theorem allocated_resubmitted :
    let n := ((draft default "captures" "engine" host).perform (.create, allocating)).after
    host.Sized ∧ n.status.isCreated = true ∧ n.console = some 5000 ∧ n.Askable
      ∧ n.Resubmitted (n.perform (.update n.ownSettings, silence)) := by
  intro n
  have hsized : host.Sized := ⟨by decide, nofun⟩
  have haskable : n.Askable := ⟨by decide +kernel, by rintro port ⟨⟩; decide⟩
  have halways := resubmission_accepted_iff default "captures" "engine" host hsized
    [(.create, allocating)]
  exact ⟨hsized, rfl, rfl, haskable, (halways.2 _ List.mem_cons_self).2 rfl silence⟩

/-- A host whose console is the first display. -/
def displayHost : NodeSpec := { host with console := some 0, consoleType := .vnc }

/-- It may not be asked for what it has: its console counts as no port. The description was
accepted, though, as it is not checked in the same way. -/
theorem display_refused :
    let n := ((draft default "captures" "engine" displayHost).perform (.create, silence)).after
    n.status.isCreated = true ∧ n.console = some 0
      ∧ (n.perform (.update n.ownSettings, silence)).result
        = some (.error (.validation (.fieldValue .console (.nat 0)))) := ⟨rfl, rfl, rfl⟩

end Examples

end Testbed.Node

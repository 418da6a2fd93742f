import Testbed.Proofs.Node.Repetition
import Testbed.Proofs.Node.Replay

/-!
# What settings keep to

The settings of a node are written by its description, by reports, by generic updates, by a rename
and by a resize, and which keys and numbers they may bring is checked by each of these writers in a
way of its own. Two things hold of all of them nevertheless: nothing is kept among the properties
that has a place elsewhere (`Tidy`), and the numbers are of 32 bits (`Sized`).

Both are about settings alone, and for such a property there are only two ways to change a node: to
take over a key, and to set the number of adapters. The rename is the first of these under another
name. So a property that both keep, and that does not look at bindings and status, is kept by every
operation (`Arises.keeps_settings`).

A node that is still pending is the simplest case of all: it is as it was drawn up
(`always_untouched`).
-/

namespace Testbed

/-- Whether the numbers of a description are of 32 bits. -/
structure NodeSpec.Sized (spec : NodeSpec) : Prop where
  adapters : spec.adapters < UInt32.size
  console : ∀ port, spec.console = some port → port < UInt32.size

namespace Node

variable {n m : Node} {P : Node → Prop}

/-! ## Properties of settings

Some properties depend on the settings only, and hold through reports, updates and the calls of an
update. For those it is enough to consider one key at a time. -/

/-- **A property of settings that every writer keeps**: it holds after a key was taken over or a
number of adapters set, and bindings and status are of no account to it. The fields are the closure
conditions of the property, one for each way of writing a setting, and one that says that the rest
of the node does not matter to it. -/
structure KeptBySettings (P : Node → Prop) : Prop where
  key : ∀ n key value, P n → P (n.applyKey key value)
  count : ∀ n count, count < UInt32.size → P n → P { n with adapters := count }
  rest : ∀ n nios status, P n → P { n with nios, status }

/-- To rename is to take over a key. -/
theorem rename_eq_applyKey {key : String} (h : route n.nodeType key = .rename) (value : Json) :
    { n with properties := n.properties.insert key value } = n.applyKey key value := by
  unfold applyKey
  rw [h]

/-- Whether a stage renames and resizes to what a type and a number allow. -/
def Stage.Allowed (t : NodeType) : Stage → Prop
  | rename key _ => route t key = .rename
  | resize count => count < UInt32.size
  | _ => True

/-- Updates rename and resize to what is allowed. -/
theorem updateStages_allowed (n : Node) (changes : Dict String Json) :
    ∀ stage ∈ n.updateStages changes, stage.Allowed n.nodeType := by
  intro stage hstage
  unfold updateStages settingStages pushStages at hstage
  rw [List.mem_append, List.mem_append] at hstage
  obtain (hpush | hrename) | hresize := hstage
  · split at hpush
    · cases hpush
    · obtain rfl := List.mem_singleton.mp hpush
      trivial
  · obtain ⟨value, hvalue, rfl⟩ := List.mem_map.mp hrename
    have hsome : n.renameTo? changes ≠ none := fun hnone => by
      rw [hnone] at hvalue
      cases hvalue
    exact route_eq_rename_iff.mpr ⟨hasRename_of_renameTo hsome, rfl⟩
  · obtain ⟨count, hcount, hstage⟩ := List.mem_flatMap.mp hresize
    obtain hunbind | hresize := List.mem_append.mp hstage
    · obtain ⟨index, -, rfl⟩ := List.mem_map.mp hunbind
      trivial
    · obtain rfl := List.mem_singleton.mp hresize
      -- a number that is asked for has been read off a value
      obtain ⟨hasked, -⟩ := Option.filter_eq_some_iff.mp (Option.mem_toList.mp hcount)
      obtain ⟨value, -, hvalue⟩ := Option.bind_eq_some_iff.mp hasked
      exact (Json.eq_nat_of_natBelow hvalue).2

theorem KeptBySettings.confirm (h : KeptBySettings P) {stage : Stage}
    (hstage : stage.Allowed n.nodeType) (report : Json) (hn : P n) :
    P (stage.confirm report n) := by
  cases stage with
  | create => exact h.rest _ _ _ (merge_induction h.key report hn)
  | push keys => exact merge_induction h.key report (applyKeys_induction h.key _ hn)
  | rename key value =>
    show P { n with properties := n.properties.insert key value }
    rw [rename_eq_applyKey hstage]
    exact h.key _ _ _ hn
  | resize count => exact h.count n count hstage hn
  | act | destroy | bind | unbind => exact h.rest _ _ _ hn
  | startCapture | stopCapture | post | delete => exact hn

theorem KeptBySettings.keptBy (h : KeptBySettings P) {stages : List Stage}
    (hstages : ∀ stage ∈ stages, stage.Allowed n.nodeType) (hn : P n) : KeptBy P n stages := by
  -- what is allowed stays so, because no confirmation changes the type
  have hkept : KeptBy (fun m => m.nodeType = n.nodeType ∧ P m) n stages := by
    refine keptBy_of_forall (fun stage hstage report m hm => ?_) ⟨rfl, hn⟩
    obtain ⟨htype, hm⟩ := hm
    have hallowed : stage.Allowed m.nodeType := by
      rw [htype]
      exact hstages stage hstage
    exact ⟨(nodeType_congr (confirm_identity stage report m)).trans htype,
      h.confirm hallowed report hm⟩
  exact hkept.mono fun m hm => hm.2

/-- **A property of settings that every writer keeps is kept by every operation.** The two
invariants below are instances, and so is any other property of settings that a caller may want to
rely on. -/
theorem Arises.keeps_settings {step : NodeStep} {a : Agenda} (ha : Arises n step a)
    (h : KeptBySettings P) (hn : P n) : a.Keeps P n := by
  have hsingle {stage : Stage} (hstage : stage.Allowed n.nodeType) : KeptBy P n [stage] :=
    h.keptBy (List.forall_mem_singleton.mpr hstage) hn
  cases ha with
  | refused => trivial
  | looked => exact hn
  | buried => exact h.rest _ _ _ hn
  | updated changes => exact h.keptBy (n.updateStages_allowed changes) hn
  | created | acted | destroyed | bound | unbound | captureStarted | captureStopped | posted
  | deleted => exact hsingle trivial

/-- It holds all along. It is enough that it holds at the beginning. -/
theorem KeptBySettings.always (h : KeptBySettings P) (hn : P n) (turns : List Turn) :
    Always P n turns :=
  always_of_keeps (fun n step => (n.agenda_arises step).keeps_settings h) hn turns

/-! ## Properties without reserved keys

The bag of properties holds no key that belongs to a field. Were it otherwise, a setting would be
told twice, and not always alike. -/

/-- **Nothing is kept among the properties that has a place elsewhere**: their keys are those that
are properties, and the machine name where the type has one. It makes the body of a creation and the
bag of properties agree: what is in the bag can be sent as it is, without overwriting a field. -/
def Tidy (n : Node) : Prop :=
  ∀ key value, n.properties.get? key = some value →
    route n.nodeType key = .rename ∨ route n.nodeType key = .property

theorem isBag_iff {r : KeyRoute} : r.isBag = true ↔ r = .rename ∨ r = .property := by
  cases r <;> simp [KeyRoute.isBag]

theorem draft_properties (project : Uuid) (captureDir : OsPath) (engine : String) (spec : NodeSpec)
    (key : String) : (draft project captureDir engine spec).properties.get? key
      = if (route spec.nodeType key).isBag then spec.properties.get? key else none :=
  Dict.get_filter_key spec.properties (fun key => (route spec.nodeType key).isBag) key

theorem draft_tidy (project : Uuid) (captureDir : OsPath) (engine : String) (spec : NodeSpec) :
    (draft project captureDir engine spec).Tidy := by
  intro key value hvalue
  rw [draft_properties] at hvalue
  split at hvalue
  · rename_i hbag
    exact isBag_iff.mp hbag
  · cases hvalue

/-- Nothing is found among the properties under another key. Those are the keys of the identity, of
the fields and of the number of adapters. -/
theorem Tidy.get_eq_none (h : n.Tidy) {key : String} (hrename : route n.nodeType key ≠ .rename)
    (hproperty : route n.nodeType key ≠ .property) : n.properties.get? key = none := by
  cases hget : n.properties.get? key with
  | none => rfl
  | some value => exact ((h key value hget).elim hrename hproperty).elim

theorem tidy_keptBySettings : KeptBySettings Tidy where
  count n count _ h := h
  rest n nios status h := h
  key n key value h := by
    have hinsert (hroute : route n.nodeType key = .rename ∨ route n.nodeType key = .property) :
        Tidy { n with properties := n.properties.insert key value } := by
      intro key' value' hget
      by_cases hkey : key' = key
      · rw [hkey]
        exact hroute
      · exact h key' value' ((Dict.get_insert_ne _ _ hkey).symm.trans hget)
    unfold applyKey
    cases hroute : route n.nodeType key with
    | rename => exact hinsert (.inl hroute)
    | property => exact hinsert (.inr hroute)
    | identity => exact h
    -- whatever is taken over under other keys goes elsewhere
    | field f =>
      cases f with
      | name => cases value.str? <;> exact h
      | console => exact h
      | consoleType => cases ConsoleType.decode value <;> exact h
    | adapters =>
      cases value.nat32? with
      | none => exact h
      | some count =>
        dsimp only
        split <;> exact h

/-! ## Numbers of 32 bits

Consoles and numbers of adapters are read as numbers of 32 bits. The model has natural numbers, so
the bound is an invariant here. -/

/-- **The numbers of a node are of 32 bits.** Descriptions are of that size by their types, and
everything else is read as a number of 32 bits. -/
structure Sized (n : Node) : Prop where
  adapters : n.adapters < UInt32.size
  console : ∀ port, n.console = some port → port < UInt32.size

theorem draft_sized (project : Uuid) (captureDir : OsPath) (engine : String) {spec : NodeSpec}
    (h : spec.Sized) : (draft project captureDir engine spec).Sized :=
  ⟨h.adapters, h.console⟩

theorem sized_keptBySettings : KeptBySettings Sized where
  count n count hcount h := ⟨hcount, h.console⟩
  rest n nios status h := ⟨h.adapters, h.console⟩
  key n key value h := by
    have hread {count : Nat} (hcount : value.nat32? = some count) : count < UInt32.size :=
      (Json.eq_nat_of_natBelow hcount).2
    unfold applyKey
    cases route n.nodeType key with
    | identity => exact h
    | rename | property => exact ⟨h.adapters, h.console⟩
    | field f =>
      cases f with
      | name => cases value.str? <;> exact ⟨h.adapters, h.console⟩
      | console => exact ⟨h.adapters, fun port => hread⟩
      | consoleType => cases ConsoleType.decode value <;> exact ⟨h.adapters, h.console⟩
    | adapters =>
      cases hcount : value.nat32? with
      | none => exact h
      | some count =>
        dsimp only
        split
        · exact ⟨hread hcount, h.console⟩
        · exact h

/-! ## Pending nodes

Until its creation is confirmed nothing else is asked for a node, and no report is taken over. It
has the settings of its description until then. -/

/-- **A node that is pending is as it was at the beginning**, whatever was tried on it. Creating is
the only operation that a pending node sends a request for, and if that is refused or given up
nothing is taken over. -/
theorem always_untouched (n : Node) (turns : List Turn) :
    Always (fun m => m.status = .pending → m = n) n turns :=
  always_of_keeps (fun m step => (m.agenda_arises step).keeps_pending (P := fun m => m = n))
    (fun _ => rfl) turns

end Node

end Testbed

import Testbed.Proofs.Node.Bindings
import Testbed.Proofs.Node.Plan

/-!
# What a node has under a settings key

Requests and reports name settings by their keys, and a node keeps them in fields, in its number of
adapters and among its properties. `setting?` is what it has under a key, and `stored?` the form in
which a value is taken over under a key, if it is taken over at all. That form depends on the type
of the node and on its bindings, which no setting changes; so the keys of a report or of a request
do not get in each other's way, and what is found under one of them is settled by its own value
(`setting_applyKeys`, `setting_merge`).
-/

namespace Testbed

/-- The key of a field. These are the keys under which fields are checked and reported. -/
def NodeField.key : NodeField → String
  | name => "name"
  | console => "console"
  | consoleType => "console_type"

/-- Only the key of a field goes to it. The keys are compared in the order of the routes, so a field
is met before a property of that name could be. -/
theorem route_eq_field_iff {t : NodeType} {key : String} {f : NodeField} :
    route t key = .field f ↔ key = f.key := by
  have hcommon : ∀ e ∈ KeyRoute.common, ∀ f, e.2 = KeyRoute.field f → e.1 = f.key := by
    intro e he f hf
    cases f <;> revert e <;> decide
  constructor
  · intro h
    unfold route at h
    split at h
    · cases h
    · split at h
      · rename_i hfind
        have hkey := List.find?_some hfind
        rw [← beq_iff_eq.mp hkey]
        exact hcommon _ (List.mem_of_find?_eq_some hfind) f h
      · cases h
  · rintro rfl
    unfold route
    rw [if_neg (by rintro ⟨-, h⟩; cases f <;> exact absurd h (by decide))]
    cases f <;> rfl

/-- The keys that stand for something else than properties and are not part of the identity. -/
theorem route_typed {t : NodeType} {key : String}
    (h : key ∈ ["name", "console", "console_type", "adapters"]) :
    (∃ f, route t key = .field f) ∨ route t key = .adapters := by
  simp only [List.mem_cons, List.not_mem_nil, or_false] at h
  obtain h | h | h | h := h
  · exact .inl ⟨.name, route_eq_field_iff.mpr h⟩
  · exact .inl ⟨.console, route_eq_field_iff.mpr h⟩
  · exact .inl ⟨.consoleType, route_eq_field_iff.mpr h⟩
  · exact .inr (route_eq_adapters_iff.mpr h)

namespace Node

/-- **What a node has under a settings key.** The keys are those of the wire: the three fields under
their own names, the number of adapters, and everything else in the bag of properties. A key that
belongs to the identity is no setting, and nothing is found under it. -/
def setting? (n : Node) (key : String) : Option Json :=
  match route n.nodeType key with
  | .identity => none
  | .field f => some (n.fieldValue f)
  | .adapters => some (.nat n.adapters)
  | .rename | .property => n.properties.get? key

/-- **The form in which a value is taken over under a key**, if it is. A name has to be a text and a
type of console one of its words; a console that is no number is none; and the number of adapters
cannot fall below a binding. What is neither a field nor reserved goes to the bag as it is. -/
def stored? (n : Node) (key : String) (value : Json) : Option Json :=
  match route n.nodeType key with
  | .identity => none
  | .field .name => value.str?.map .str
  | .field .console => some (.natOrNull value.nat32?)
  | .field .consoleType => (ConsoleType.decode value).toOption.map (.str ·.text)
  | .adapters => (value.nat32?.filter fun count => (n.boundFrom count).isEmpty).map .nat
  | .rename | .property => some value

variable {n m : Node}

/-- The form depends on the type and on the bindings only. So it may be computed before or after
other keys have been taken over. -/
theorem stored_congr (htype : m.nodeType = n.nodeType) (hnios : m.nios = n.nios) (key : String)
    (value : Json) : m.stored? key value = n.stored? key value := by
  unfold stored? boundFrom
  rw [htype, hnios]

theorem nodeType_congr (h : m.identity = n.identity) : m.nodeType = n.nodeType :=
  congrArg (fun identity => identity.2.2.2.1) h

theorem setting_field (n : Node) (f : NodeField) : n.setting? f.key = some (n.fieldValue f) := by
  unfold setting?
  rw [route_eq_field_iff.mpr rfl]

theorem setting_adapters (n : Node) : n.setting? "adapters" = some (.nat n.adapters) := by
  unfold setting?
  rw [route_eq_adapters_iff.mpr rfl]

theorem stored_field (n : Node) (f : NodeField) (value : Json) :
    n.stored? f.key value =
      match f with
      | .name => value.str?.map .str
      | .console => some (.natOrNull value.nat32?)
      | .consoleType => (ConsoleType.decode value).toOption.map (.str ·.text) := by
  unfold stored?
  rw [route_eq_field_iff.mpr rfl]
  cases f <;> rfl

theorem stored_adapters (n : Node) (value : Json) :
    n.stored? "adapters" value
      = (value.nat32?.filter fun count => (n.boundFrom count).isEmpty).map .nat := by
  unfold stored?
  rw [route_eq_adapters_iff.mpr rfl]

theorem setting_vmname (h : n.nodeType.hasRename = true) :
    n.setting? "vmname" = n.properties.get? "vmname" := by
  unfold setting?
  rw [route_eq_rename_iff.mpr ⟨h, rfl⟩]

/-! ## One key

Whatever is taken over under a key is afterwards found there, in the form in which the node stores
it. All other keys keep what they had. -/

/-- A key that is taken over is found in its form, and one that is not has what it had. A value in a
wrong form is not stored, and then nothing changes. -/
theorem setting_applyKey_self (n : Node) (key : String) (value : Json) :
    (n.applyKey key value).setting? key = (n.stored? key value).or (n.setting? key) := by
  unfold setting? stored?
  rw [nodeType_congr (applyKey_identity n key value)]
  unfold applyKey
  cases route n.nodeType key with
  | identity => rfl
  | field f =>
    cases f with
    | name => cases value.str? <;> rfl
    | console => rfl
    | consoleType => cases ConsoleType.decode value <;> rfl
  | adapters =>
    cases value.nat32? with
    | none => rfl
    | some count =>
      -- the guard of taking it over is the filter of the form
      by_cases hfree : (n.boundFrom count).isEmpty = true <;> simp [Option.filter, hfree]
  | rename | property => exact Dict.get_insert_self ..

/-- **What a key can do to a node**: nothing, or set what it stands for. This is the case analysis
that every statement about a single key goes through: whatever the value is, the node is the same
afterwards or has one part replaced. -/
inductive Takes (n : Node) (key : String) (value : Json) : Node → Prop
  | nothing : Takes n key value n
  | name (h : key = NodeField.name.key) (name : String) : Takes n key value { n with name }
  | console (h : key = NodeField.console.key) (console : Option Nat) :
      Takes n key value { n with console }
  | consoleType (h : key = NodeField.consoleType.key) (consoleType : ConsoleType) :
      Takes n key value { n with consoleType }
  | adapters (h : key = "adapters") (count : Nat) :
      Takes n key value { n with adapters := count }
  | property : Takes n key value { n with properties := n.properties.insert key value }

theorem applyKey_takes (n : Node) (key : String) (value : Json) :
    n.Takes key value (n.applyKey key value) := by
  unfold applyKey
  cases hroute : route n.nodeType key with
  | identity => exact .nothing
  | field f =>
    have hkey := route_eq_field_iff.mp hroute
    cases f with
    | name =>
      cases value.str? with
      | none => exact .nothing
      | some name => exact .name hkey name
    | console => exact .console hkey _
    | consoleType =>
      cases ConsoleType.decode value with
      | error _ => exact .nothing
      | ok consoleType => exact .consoleType hkey consoleType
  | adapters =>
    cases value.nat32? with
    | none => exact .nothing
    | some count =>
      dsimp only
      split
      · exact .adapters (route_eq_adapters_iff.mp hroute) count
      · exact .nothing
  | rename | property => exact .property

theorem Takes.nodeType {key : String} {value : Json} (h : n.Takes key value m) :
    m.nodeType = n.nodeType := by
  cases h <;> rfl

/-- A field keeps its value under any other key. -/
theorem Takes.fieldValue {key : String} {value : Json} (h : n.Takes key value m) {f : NodeField}
    (hne : f.key ≠ key) : m.fieldValue f = n.fieldValue f := by
  cases h with
  | name hkey | console hkey | consoleType hkey =>
    cases f <;> first | rfl | exact absurd hkey.symm hne
  | nothing | adapters | property => cases f <;> rfl

/-- **No key changes what is found under another one.** -/
theorem Takes.setting {key key' : String} {value : Json} (h : n.Takes key value m)
    (hne : key' ≠ key) : m.setting? key' = n.setting? key' := by
  unfold setting?
  rw [h.nodeType]
  cases hroute : route n.nodeType key' with
  | identity => rfl
  | field f =>
    obtain rfl := route_eq_field_iff.mp hroute
    exact congrArg some (h.fieldValue hne)
  | adapters =>
    obtain rfl := route_eq_adapters_iff.mp hroute
    cases h with
    | adapters hkey => exact absurd hkey.symm hne
    | nothing | name | console | consoleType | property => rfl
  | rename | property =>
    cases h with
    | property => exact Dict.get_insert_ne _ _ hne
    | nothing | name | console | consoleType | adapters => rfl

/-! ## Many keys

Since a report has each key once, taking it over can be described key by key. The order of its
entries does not matter. -/

/-- **What is found under a key after others and itself were taken over**: its own value, if it was
among them. The entries ascend, so that no key comes twice, and neither what stands before a key nor
what stands behind it can change what it stores. -/
theorem setting_applyKeys {entries : List (String × Json)}
    (h : entries.Pairwise (fun a b => compare a.1 b.1 = .lt)) (n : Node) (key : String) :
    (n.applyKeys entries).setting? key
      = ((Dict.getEntry key entries).bind (n.stored? key)).or (n.setting? key) := by
  -- the node changes from key to key, but not in what the forms depend on
  induction entries generalizing n with
  | nil => rfl
  | cons e rest ih =>
    obtain ⟨hfirst, hrest⟩ := List.pairwise_cons.mp h
    obtain ⟨first, value⟩ := e
    show ((n.applyKey first value).applyKeys rest).setting? key = _
    have hstored : (n.applyKey first value).stored? key = n.stored? key :=
      funext fun value' => stored_congr (nodeType_congr (applyKey_identity n first value))
        (applyKey_nios n first value) key value'
    rw [ih hrest, hstored, Dict.getEntry]
    by_cases hkey : key = first
    · subst hkey
      have hnone : Dict.getEntry key rest = none := Dict.getEntry_eq_none_of_lt hfirst
      rw [hnone, if_pos Std.ReflOrd.compare_self, setting_applyKey_self]
      rfl
    · rw [if_neg (fun heq => hkey (Std.LawfulEqOrd.eq_of_compare heq)),
        (applyKey_takes n first value).setting hkey]

/-- What a report says under a key. It says nothing if it is not an object. -/
def member? (report : Json) (key : String) : Option Json := report.members?.bind (·.get? key)

/-- **What is found under a key after a report**: what the report says, if it says something that is
taken over. A report that is no object says nothing. -/
theorem setting_merge (n : Node) (report : Json) (key : String) :
    (n.merge report).setting? key
      = ((member? report key).bind (n.stored? key)).or (n.setting? key) := by
  unfold merge member?
  cases report.members? with
  | none => rfl
  | some members => exact setting_applyKeys members.ascending n key

end Node

end Testbed

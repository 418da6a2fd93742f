import Testbed.Proofs.Node.Lifecycle
import Testbed.Proofs.Node.Updated

/-!
# The same update again

An update that a silent engine accepts – one that confirms everything and reports nothing – leaves
under every key what was asked for, so that asking for the same again should find nothing to do.

Whether there is something to do is a matter of comparing values, and a value is compared with the
form in which the node has it. These are the same for every value that an update accepts, except
one: a console protocol may be asked for as an object with a single key, and the node has it as a
text. `update_idempotent_iff` says that this is the only exception there is.
-/

namespace Testbed

namespace Json

theorem same_str_iff {text : String} {value : Json} :
    (str text).same value = true ↔ value = .str text := by
  unfold same
  rw [beq_iff_eq]
  cases value <;> simp [unsignedZeros, eq_comm]

theorem same_nat_iff {count : Nat} {value : Json} :
    (nat count).same value = true ↔ value = .nat count := by
  unfold same nat
  rw [beq_iff_eq]
  cases value <;> simp [unsignedZeros, eq_comm]

theorem nat_inj {a b : Nat} (h : nat a = nat b) : a = b := Int.ofNat_inj.mp (Json.int.inj h)

theorem natOrNull_inj {a b : Option Nat} (h : natOrNull a = natOrNull b) : a = b := by
  match a, b with
  | none, none => rfl
  | some a, some b => exact congrArg some (nat_inj h)
  | none, some b => cases h
  | some a, none => cases h

theorem eq_nat_of_natBelow {bound count : Nat} {value : Json}
    (h : value.natBelow? bound = some count) : value = .nat count ∧ count < bound := by
  unfold natBelow? at h
  split at h
  · split at h
    · rename_i n hn
      obtain rfl := Option.some.inj h
      exact ⟨congrArg Json.int (by omega), by omega⟩
    · cases h
  · cases h

/-- A number is read if it is below the bound. -/
theorem natBelow_nat (bound count : Nat) :
    (nat count).natBelow? bound = if count < bound then some count else none := by
  unfold natBelow? nat
  dsimp only
  rw [Int.toNat_natCast]
  exact if_congr (by omega) rfl rfl

theorem nat32_nat {count : Nat} (h : count < UInt32.size) : (nat count).nat32? = some count :=
  (natBelow_nat UInt32.size count).trans (if_pos h)

end Json

/-- A console protocol that is read from a text has that text. -/
theorem ConsoleType.text_of_decode {value : Json} {c : ConsoleType}
    (h : ConsoleType.decode value = .ok c) :
    value = .str c.text ∨ ∃ members, value = .obj members := by
  have hwords : ∀ w ∈ ConsoleType.words, w.1 = w.2.text := by decide
  unfold decode Json.decodeVariant at h
  split at h
  · rename_i name
    unfold Json.variantNamed at h
    split at h
    · rename_i hfind
      obtain rfl := Except.ok.inj h
      have hname := List.find?_some hfind
      refine .inl (congrArg Json.str ?_)
      rw [← beq_iff_eq.mp hname]
      exact hwords _ (List.mem_of_find?_eq_some hfind)
    · cases h
  · exact .inr ⟨_, rfl⟩
  · cases h
  · cases h

/-- The text of a console protocol is read as that protocol. -/
theorem ConsoleType.decode_text (c : ConsoleType) : ConsoleType.decode (.str c.text) = .ok c := by
  cases c <;> rfl

theorem ConsoleType.text_inj {c c' : ConsoleType} (h : c.text = c'.text) : c = c' := by
  cases c <;> cases c' <;> first | rfl | exact absurd h (by decide)

/-- Whether a route leads to a call of its own. -/
def KeyRoute.hasCall : KeyRoute → Bool
  | rename | adapters => true
  | _ => false

namespace Node

variable {n m : Node} {changes : Dict String Json}

/-! ## Nothing to do

A value is skipped when it compares with what the node has. Here it is settled for all keys at once
when nothing is left to do, which is what the second of two equal updates has to show. -/

/-- **Whether a value that is asked for under a key is another one than the node has.** The values
are compared as JSON values, as the request has the one and the node the other. -/
def differs (n : Node) (key : String) (value : Json) : Bool :=
  match route n.nodeType key with
  | .identity => false
  | _ => !Json.sameOpt (n.setting? key) (some value)

/-- A node differs from what does not compare with what it has. Identities are left out, as they are
ignored whatever their values are. -/
theorem differs_of_setting {key : String} {form value : Json}
    (hroute : route n.nodeType key ≠ .identity) (hsetting : n.setting? key = some form) :
    n.differs key value = !form.same value := by
  unfold differs
  rw [hsetting]
  cases h : route n.nodeType key with
  | identity => exact absurd h hroute
  | field | rename | adapters | property => rfl

/-- An identity is not compared. -/
theorem route_ne_identity {key : String} {value : Json} (h : n.differs key value = true) :
    route n.nodeType key ≠ .identity := by
  intro hroute
  unfold differs at h
  rw [hroute] at h
  cases h

/-- What differs and has no call of its own belongs into the generic update. -/
theorem pushes_eq (n : Node) (key : String) (value : Json) :
    n.pushes key value = (n.differs key value && !(route n.nodeType key).hasCall) := by
  unfold pushes differs setting?
  cases route n.nodeType key with
  | identity => rfl
  | field f | property => exact (Bool.and_true _).symm
  | rename | adapters => exact (Bool.and_false _).symm

/-- What differs and has a call of its own is asked for by that call. -/
theorem ownCall_eq {key : String} {value : Json} (hvalue : changes.get? key = some value)
    (husable : n.objection? key value = none) :
    n.ownCall? changes key =
      if n.differs key value && (route n.nodeType key).hasCall then some value else none := by
  unfold ownCall? differs setting?
  cases hroute : route n.nodeType key with
  | adapters =>
    obtain rfl := route_eq_adapters_iff.mp hroute
    obtain ⟨count, hcount⟩ := count_of_usable husable
    obtain ⟨rfl, -⟩ := Json.eq_nat_of_natBelow hcount
    rw [if_pos rfl, if_neg (by decide), Option.or_none, resizeTo?, hvalue, Option.bind_some, hcount,
      Option.filter_some]
    by_cases hsame : count = n.adapters
    · rw [hsame]
      simp [Json.sameOpt]
    · have hother : (Json.nat n.adapters).same (.nat count) = false :=
        Bool.eq_false_iff.mpr fun h =>
          hsame (Json.nat_inj (Json.same_nat_iff.mp h))
      simp [Json.sameOpt, hsame, hother, KeyRoute.hasCall]
  | rename =>
    obtain ⟨htype, rfl⟩ := route_eq_rename_iff.mp hroute
    rw [if_neg (by decide), if_pos rfl, Option.none_or, renameTo?, if_pos htype, hvalue,
      Option.filter_some]
    simp [KeyRoute.hasCall]
  | identity | field f | property =>
    -- the key is neither of the two, unless the type has no call for a machine name
    have hadapters : key ≠ "adapters" := fun h => by
      rw [route_eq_adapters_iff.mpr h] at hroute
      cases hroute
    have hrename : (if key = "vmname" then n.renameTo? changes else none) = none := by
      split
      · rename_i hkey
        by_contra hsome
        rw [route_eq_rename_iff.mpr ⟨hasRename_of_renameTo hsome, hkey⟩] at hroute
        cases hroute
      · rfl
    rw [if_neg hadapters, hrename]
    simp [KeyRoute.hasCall]

/-- A value that the node has is asked for neither with the generic update nor by a call of its
own. -/
theorem differs_eq_false_iff {key : String} {value : Json} (hvalue : changes.get? key = some value)
    (husable : n.objection? key value = none) :
    n.differs key value = false ↔ n.pushes key value = false ∧ n.ownCall? changes key = none := by
  rw [pushes_eq, ownCall_eq hvalue husable]
  cases n.differs key value <;> cases (route n.nodeType key).hasCall <;> simp

/-- Two keys have calls of their own. -/
theorem ownCalls_eq_none_iff :
    (∀ key, n.ownCall? changes key = none)
      ↔ n.renameTo? changes = none ∧ n.resizeTo? changes = none := by
  constructor
  · intro h
    have hrename := h "vmname"
    have hresize := h "adapters"
    rw [ownCall?, if_neg (by decide), if_pos rfl, Option.none_or] at hrename
    rw [ownCall?, if_pos rfl, if_neg (by decide), Option.or_none, Option.map_eq_none_iff] at hresize
    exact ⟨hrename, hresize⟩
  · rintro ⟨hrename, hresize⟩ key
    rw [ownCall?, hrename, hresize, Option.map_none, ite_self, ite_self]
    rfl

/-- What is not asked for is not asked for by a call of its own. -/
theorem ownCall_eq_none {key : String} (h : changes.get? key = none) :
    n.ownCall? changes key = none := by
  have hresize : key = "adapters" → n.resizeTo? changes = none := by
    rintro rfl
    rw [resizeTo?, h]
    rfl
  have hrename : key = "vmname" → n.renameTo? changes = none := by
    rintro rfl
    rw [renameTo?, h]
    exact ite_self _
  unfold ownCall?
  simp +contextual [hresize, hrename]

/-- **An update has no stages exactly if nothing that it asks for is another value.** Each of the
three kinds of stages is there exactly if some key of its kind differs. -/
theorem updateStages_eq_nil_iff (husable : n.Usable changes) :
    n.updateStages changes = [] ↔
      ∀ key value, changes.get? key = some value → n.differs key value = false := by
  have hdiffers : ∀ key value, changes.get? key = some value → (n.differs key value = false
      ↔ n.pushes key value = false ∧ n.ownCall? changes key = none) := fun key value hvalue =>
    differs_eq_false_iff hvalue (husable key value hvalue)
  rw [← plan_isEmpty_iff]
  unfold Plan.isEmpty
  dsimp only
  rw [Bool.and_eq_true, Bool.and_eq_true, Option.isNone_map, Option.isNone_iff_eq_none,
    Option.isNone_iff_eq_none, and_assoc, ← ownCalls_eq_none_iff, Dict.isEmpty_filter_iff]
  constructor
  · rintro ⟨hpushes, hown⟩ key value hvalue
    exact (hdiffers key value hvalue).mpr ⟨hpushes key value hvalue, hown key⟩
  · intro h
    refine ⟨fun key value hvalue => ((hdiffers key value hvalue).mp (h key value hvalue)).1,
      fun key => ?_⟩
    cases hvalue : changes.get? key with
    | none => exact ownCall_eq_none hvalue
    | some value => exact ((hdiffers key value hvalue).mp (h key value hvalue)).2

/-- **An update does nothing exactly if it has no stages.** What the outside would have answered
does not matter, as it is not asked. -/
theorem perform_update_idle_iff (hcreated : n.status.isCreated = true)
    (husable : n.Usable changes) (outside : Outside) :
    n.perform (.update changes, outside) = ⟨[], some (.ok (.keys [])), n⟩
      ↔ n.updateStages changes = [] := by
  have hperformed := n.perform_performed (.update changes, outside)
  rw [agenda_update hcreated, usable_iff.mp husable] at hperformed
  obtain ⟨reports, ending, hstaged, hresult⟩ := hperformed
  generalize n.perform (.update changes, outside) = t at hstaged hresult
  obtain ⟨log, result, after⟩ := t
  constructor
  · intro hidle
    cases hidle
    -- a stage would have put a question
    cases hstages : n.updateStages changes with
    | nil => rfl
    | cons stage rest =>
      rw [hstages] at hstaged
      cases hstaged
  · intro hnil
    rw [hnil] at hstaged hresult
    cases hstaged
    cases hresult
    rfl

/-! ## Forms that compare

The first update stores a value in the form of its field. The second compares the given value with
that form, so all turns on whether a value and its form compare. -/

/-- A field is asked for with what it accepts. -/
theorem objection_field {f : NodeField} {value : Json} :
    n.objection? f.key value = none ↔ fieldAccepts f value = true := by
  unfold objection?
  rw [route_eq_field_iff.mpr rfl]
  cases h : fieldAccepts f value <;> simp [h]

/-- **The form of a value that a field accepts is the value**, unless it is a console protocol that
is not given as a text. A number is compared as a number and a text as a text; but a protocol is
read by the rules of an enumeration, which also accept an object with the word as its only key, and
what is kept is the word. -/
theorem stored_of_accepted {f : NodeField} {value : Json} (n : Node)
    (h : fieldAccepts f value = true) :
    ∃ form, n.stored? f.key value = some form
      ∧ (form.same value = false ↔ f = .consoleType ∧ ∀ text, value ≠ .str text) := by
  rw [stored_field]
  have hsame : ∀ form : Json, form = value → f ≠ .consoleType →
      (form.same value = false ↔ f = .consoleType ∧ ∀ text, value ≠ .str text) := by
    rintro form rfl hne
    exact iff_of_false (by simp) fun h => hne h.1
  cases f with
  | name =>
    cases value with
    | str name => exact ⟨.str name, rfl, hsame _ rfl nofun⟩
    | null | bool | int | float | arr | obj => cases h
  | console =>
    obtain hnull | hport := Bool.or_eq_true_iff.mp h
    · cases value with
      | null => exact ⟨.null, rfl, hsame _ rfl nofun⟩
      | bool | int | float | str | arr | obj => cases hnull
    · cases hbelow : value.natBelow? 65536 with
      | none =>
        rw [hbelow] at hport
        cases hport
      | some port =>
        obtain ⟨rfl, hlt⟩ := Json.eq_nat_of_natBelow hbelow
        rw [Json.nat32_nat (hlt.trans (by decide))]
        exact ⟨.nat port, rfl, hsame _ rfl nofun⟩
  | consoleType =>
    cases hdecode : ConsoleType.decode value with
    | error e =>
      rw [fieldAccepts, hdecode] at h
      cases h
    | ok c =>
      refine ⟨.str c.text, rfl, ?_⟩
      rw [← Bool.not_eq_true, Json.same_str_iff]
      obtain rfl | ⟨members, rfl⟩ := ConsoleType.text_of_decode hdecode
      · exact iff_of_false (not_not_intro rfl) fun h => h.2 _ rfl
      · exact iff_of_true nofun ⟨rfl, nofun⟩

/-- A node differs under the key of the console protocol from everything that is not a text. The
node compares with the text of its protocol, and a protocol may also be given as an object. -/
theorem differs_consoleType {value : Json} (h : ∀ text, value ≠ .str text) :
    n.differs "console_type" value = true := by
  have hconsole : route n.nodeType "console_type" = .field .consoleType :=
    route_eq_field_iff.mpr rfl
  have hsetting : n.setting? "console_type" = some (.str n.consoleType.text) :=
    n.setting_field .consoleType
  rw [differs_of_setting (by rw [hconsole]; exact nofun) hsetting, Bool.not_eq_true',
    ← Bool.not_eq_true, Json.same_str_iff]
  exact h _

/-- **The form in which a value that is asked for is taken over**: a call of its own asks for the
value itself. Without a call of its own a value is taken over as a report would be. -/
def form? (n : Node) (key : String) (value : Json) : Option Json :=
  if (route n.nodeType key).hasCall then some value else n.stored? key value

/-- **What is asked for is taken over in a form that compares with it**, under every key but the one
of the console protocol. So asking twice for the same is comparing the form with the value. -/
theorem form_of_differs {key : String} {value : Json} (husable : n.objection? key value = none)
    (hdiffers : n.differs key value = true) :
    ∃ form, n.form? key value = some form
      ∧ (form.same value = false ↔ key = "console_type" ∧ ∀ text, value ≠ .str text) := by
  have hother : ∀ {r}, route n.nodeType key = r → r ≠ .field .consoleType →
      (value.same value = false ↔ key = "console_type" ∧ ∀ text, value ≠ .str text) := by
    rintro _ rfl hne
    refine iff_of_false (by simp) ?_
    rintro ⟨rfl, -⟩
    exact hne (route_eq_field_iff.mpr rfl)
  unfold form?
  cases hroute : route n.nodeType key with
  | identity => exact absurd hroute (route_ne_identity hdiffers)
  | rename | adapters => exact ⟨value, rfl, hother hroute nofun⟩
  | property =>
    have hstored : n.stored? key value = some value := by
      unfold stored?
      rw [hroute]
    exact ⟨value, hstored, hother hroute nofun⟩
  | field f =>
    obtain rfl := route_eq_field_iff.mp hroute
    obtain ⟨form, hform, hsame⟩ := stored_of_accepted n (objection_field.mp husable)
    have hkey : f.key = "console_type" ↔ f = .consoleType := by cases f <;> decide
    rw [← hkey] at hsame
    exact ⟨form, hform, hsame⟩

/-! ## After a silent engine

A silent engine reports nothing. What a node has after an update is then what was asked for in its
stored form, and the second update can be computed. -/

/-- **An engine that confirms every request and reports nothing.** What a node is after an update by
such an engine is therefore what was asked for, and nothing else. -/
def silent (clients : Nat → Client) : Outside := served clients fun _ => .ok (.obj [])

section Silent

variable {clients : Nat → Client} {outcome : Outcome}

/-- A silent engine reports nothing that is taken over. -/
theorem reported_silent (n : Node) (step : NodeStep) (key : String) :
    n.reported? (n.perform (step, silent clients)).exchanges key = none := by
  have hanswered : Process.Answered (silent clients) (n.perform (step, silent clients)).exchanges :=
    Process.transcript_answered _ _ n
  unfold reported?
  cases hreport : n.pushReport? (n.perform (step, silent clients)).exchanges with
  | none => rfl
  | some report =>
    obtain ⟨x, hx, hsome⟩ := List.exists_of_findSome?_eq_some hreport
    split at hsome
    · obtain ⟨seen, hseen⟩ := hanswered.mem hx
      split at hsome
      · obtain rfl := Except.ok.inj (Option.some.inj hseen)
        obtain rfl := Option.some.inj hsome
        rfl
      · cases hsome
    · cases hsome

/-- What an update leaves under a key that it asks for, if the engine is silent. -/
theorem setting_silent (hcreated : n.status.isCreated = true)
    (hok : (n.perform (.update changes, silent clients)).result = some (.ok outcome))
    {key : String} {value : Json} (hvalue : changes.get? key = some value) :
    (n.perform (.update changes, silent clients)).after.setting? key =
      if n.differs key value then (n.form? key value).or (n.setting? key)
      else n.setting? key := by
  have husable := (update_completed hcreated hok).1 key value hvalue
  rw [setting_updated hcreated hok, reported_silent, ownCall_eq hvalue husable, Dict.get_filter,
    hvalue, Option.filter_some, pushes_eq, form?]
  cases n.differs key value <;> cases (route n.nodeType key).hasCall <;> rfl

/-- **What is another value after a silent engine has confirmed it**: a console protocol that is not
given as a text. The value was the same before or was confirmed; in the first case nothing has
touched it, and in the second its form is what is found. -/
theorem differs_silent (hcreated : n.status.isCreated = true)
    (hok : (n.perform (.update changes, silent clients)).result = some (.ok outcome))
    {key : String} {value : Json} (hvalue : changes.get? key = some value) :
    (n.perform (.update changes, silent clients)).after.differs key value = true
      ↔ key = "console_type" ∧ ∀ text, value ≠ .str text := by
  have husable := (update_completed hcreated hok).1 key value hvalue
  have htype := nodeType_updated hcreated hok
  have hsetting := setting_silent hcreated hok hvalue
  generalize (n.perform (.update changes, silent clients)).after = m at htype hsetting
  cases hdiffers : n.differs key value with
  | false =>
    -- nothing was asked for under the key, so it differs as much as before
    rw [hdiffers, if_neg Bool.false_ne_true] at hsetting
    have hkept : m.differs key value = n.differs key value := by
      unfold differs
      rw [htype, hsetting]
    rw [hkept, hdiffers]
    refine iff_of_false Bool.false_ne_true ?_
    rintro ⟨rfl, hnotext⟩
    rw [differs_consoleType hnotext] at hdiffers
    cases hdiffers
  | true =>
    obtain ⟨form, hform, hsame⟩ := form_of_differs husable hdiffers
    have hnow : m.setting? key = some form := by
      rw [hsetting, hdiffers, if_pos rfl, hform, Option.some_or]
    have hroute : route m.nodeType key ≠ .identity := by
      rw [htype]
      exact route_ne_identity hdiffers
    rw [← hsame, differs_of_setting hroute hnow, Bool.not_eq_true']

/-- **Updating twice**: after a silent engine has accepted an update, the same update sends nothing,
changes nothing and gives back no keys – exactly if a console protocol, where one is asked for, is
given as a text.

The second update may be answered by any outside, since nothing is asked of it. That the first one
succeeded means that each of its values could be used, and that is all that is needed of them: the
comparison comes out the same for all accepted values but an object that names a protocol. -/
theorem update_idempotent_iff (n : Node) (hcreated : n.status.isCreated = true)
    (changes : Dict String Json) (clients : Nat → Client) (outcome : Outcome)
    (hok : (n.perform (.update changes, silent clients)).result = some (.ok outcome))
    (outside : Outside) :
    let m := (n.perform (.update changes, silent clients)).after
    m.perform (.update changes, outside) = ⟨[], some (.ok (.keys [])), m⟩
      ↔ ∀ value, changes.get? "console_type" = some value → ∃ text, value = .str text := by
  intro m
  obtain ⟨husable, -⟩ := update_completed hcreated hok
  have htype : m.nodeType = n.nodeType := nodeType_updated hcreated hok
  have husable' : m.Usable changes := by
    intro key value hvalue
    unfold objection?
    rw [htype]
    exact husable key value hvalue
  have hstatus : m.status = n.status := by
    have hstays : ∀ status next, ¬ NodeStatus.Moves status (.update changes) next := by
      rintro _ _ ⟨⟩
    by_contra hne
    exact hstays _ _ ((n.perform_charted (.update changes, silent clients)).moved hne).2
  have hcreated' : m.status.isCreated = true := by
    rw [hstatus]
    exact hcreated
  rw [perform_update_idle_iff hcreated' husable', updateStages_eq_nil_iff husable']
  constructor
  · intro h value hvalue
    by_contra hnotext
    have hdiffers := (differs_silent hcreated hok hvalue).mpr
      ⟨rfl, fun text htext => hnotext ⟨text, htext⟩⟩
    rw [h _ _ hvalue] at hdiffers
    cases hdiffers
  · intro h key value hvalue
    refine Bool.eq_false_iff.mpr fun hdiffers => ?_
    obtain ⟨rfl, hnotext⟩ := (differs_silent hcreated hok hvalue).mp hdiffers
    obtain ⟨text, htext⟩ := h value hvalue
    exact hnotext text htext

end Silent

section Examples

/-- A silent engine with a client. -/
def silence : Outside := silent fun _ => .supplied "engine"

/-- A console protocol as a text, and a name. -/
def plain : Dict String Json := Dict.ofList [("console_type", .str "vnc"), ("name", .str "new")]

/-- The same console protocol as an object. It is accepted as the same protocol. -/
def wrapped : Dict String Json := Dict.ofList [("console_type", .mkObj [("vnc", .null)])]

/-- A console protocol that is given as a text is sent once. -/
theorem plain_sent_once :
    machine.status.isCreated = true
      ∧ (machine.perform (.update plain, silence)).result
        = some (.ok (.keys ["console_type", "name"]))
      ∧ let m := (machine.perform (.update plain, silence)).after
        m.perform (.update plain, silence) = ⟨[], some (.ok (.keys [])), m⟩ := by
  have hok : (machine.perform (.update plain, silence)).result
      = some (.ok (.keys ["console_type", "name"])) := by
    rfl
  have hplain : plain.get? "console_type" = some (.str "vnc") := by decide +kernel
  refine ⟨rfl, hok, (update_idempotent_iff machine rfl plain _ _ hok _).mpr ?_⟩
  intro value hvalue
  exact ⟨"vnc", Option.some.inj (hvalue.symm.trans hplain)⟩

/-- A console protocol that is given as an object is sent again. The node has the protocol already,
and yet the request is put again and the key given back. -/
theorem wrapped_sent_again :
    let m := (machine.perform (.update wrapped, silence)).after
    machine.status.isCreated = true
      ∧ (machine.perform (.update wrapped, silence)).result
        = some (.ok (.keys ["console_type"]))
      ∧ m.consoleType = .vnc
      ∧ (m.perform (.update wrapped, silence)).result = some (.ok (.keys ["console_type"]))
      ∧ sent (m.perform (.update wrapped, silence)).exchanges
        = [.put m.path (some (.ofDict wrapped))] := by
  refine ⟨rfl, rfl, ?_, rfl, ?_⟩
  · decide +kernel
  · rfl

end Examples

end Node

end Testbed

import Testbed.Proofs.Node.Creation
import Testbed.Proofs.Node.SettingsInvariants

/-!
# How a node comes to its engine

A node is created by a single exchange. The engine is told what the node is to be, and what it
answers is taken over. The two directions are written without regard to each other: the body puts
the fields of the node over its properties and leaves out a console that is not set, adapters that
there are none of and properties that are `null`, while the answer goes key by key along the routes.

`createBody_get_eq_told` brings them to one form, the body by the routes of its keys. It needs the
properties to have no reserved keys, since the body does not check for them, and this is what every
writer keeps to (`Tidy`). From it follows what the engine is told (`creation_tells_description`) and
that an engine that merely repeats it changes nothing (`creation_echoed`).
-/

namespace Testbed

theorem route_vm_id (t : NodeType) : route t "vm_id" = .identity := by
  unfold route
  rw [if_neg (by rintro ⟨-, h⟩; exact absurd h (by decide))]
  rfl

namespace Node

open Process (meets_andThen)

variable {n m : Node}

/-! ## The body, by the routes of its keys

The body of a creation has the node's own members and its properties. Which of the two a key comes
from is told by its route, so the look-ups are stated by route. -/

/-- The node's own members have reserved keys. So no property can take their place. -/
theorem route_ownMembers {key : String} (h : key ∈ n.ownMembers.map (·.1)) :
    (route n.nodeType key = .identity ∧ key = "vm_id") ∨ (∃ f, route n.nodeType key = .field f)
      ∨ route n.nodeType key = .adapters := by
  have hkeys : n.ownMembers.map (·.1)
      ⊆ ["vm_id", "name", "console", "console_type", "adapters"] := by
    unfold ownMembers
    cases n.console <;> split <;> simp
  obtain rfl | h := List.mem_cons.mp (hkeys h)
  · exact .inl ⟨route_vm_id _, rfl⟩
  · exact .inr (route_typed h)

/-- **What the body has to say under a key.** It is read along the same routes that a report is
taken over by, so that the two directions can be compared key by key. -/
def told? (n : Node) (key : String) : Option Json :=
  match route n.nodeType key with
  | .identity => if key = "vm_id" then some (.str n.id.text) else none
  | .field .name => some (.str n.name)
  | .field .console => n.console.map .nat
  | .field .consoleType => some (.str n.consoleType.text)
  | .adapters => if n.adapters > 0 then some (.nat n.adapters) else none
  | .rename | .property => (n.properties.get? key).filter fun value => !value.isNull

/-- The node's own members say what is not to be found among its properties. The two parts of the
body do not overlap. -/
theorem getEntry_ownMembers (n : Node) (key : String) :
    Dict.getEntry key n.ownMembers
      = if (route n.nodeType key).isBag then none else n.told? key := by
  unfold told?
  cases hroute : route n.nodeType key with
  | identity =>
    rw [if_neg (show ¬ KeyRoute.identity.isBag = true from nofun)]
    by_cases hkey : key = "vm_id"
    · rw [hkey]
      rfl
    · rw [if_neg hkey]
      refine Dict.getEntry_eq_none_iff.mpr fun hmem => ?_
      simpa [hkey, hroute] using route_ownMembers hmem
  | field f =>
    obtain rfl := route_eq_field_iff.mp hroute
    cases f with
    | name | consoleType => rfl
    | console =>
      unfold ownMembers
      cases n.console <;> split <;> simp [Dict.getEntry, NodeField.key, KeyRoute.isBag]
  | adapters =>
    obtain rfl := route_eq_adapters_iff.mp hroute
    unfold ownMembers
    cases n.console <;> split <;> simp [Dict.getEntry, KeyRoute.isBag]
  | rename | property =>
    refine Dict.getEntry_eq_none_iff.mpr fun hmem => ?_
    simpa [hroute] using route_ownMembers hmem

/-- **The body of a tidy node says that and nothing else.** Without tidiness a property under a
reserved key would be in the body too, in the place of a field that is left out. -/
theorem createBody_get_eq_told (h : n.Tidy) (key : String) :
    n.createBody.get? key = n.told? key := by
  rw [createBody_get, getEntry_ownMembers]
  unfold told?
  cases hroute : route n.nodeType key with
  | rename | property => exact Option.none_or
  | identity | field f | adapters =>
    rw [h.get_eq_none (by simp [hroute]) (by simp [hroute])]
    exact Option.or_none

theorem told_field (n : Node) (f : NodeField) :
    n.told? f.key =
      match f with
      | .name => some (.str n.name)
      | .console => n.console.map .nat
      | .consoleType => some (.str n.consoleType.text) := by
  unfold told?
  rw [route_eq_field_iff.mpr rfl]
  cases f <;> rfl

theorem told_adapters (n : Node) :
    n.told? "adapters" = if n.adapters > 0 then some (.nat n.adapters) else none := by
  unfold told?
  rw [route_eq_adapters_iff.mpr rfl]

theorem told_property {key : String}
    (h : route n.nodeType key = .rename ∨ route n.nodeType key = .property) :
    n.told? key = (n.properties.get? key).filter fun value => !value.isNull := by
  unfold told?
  obtain h | h := h <;> rw [h]

/-! ## The exchange

Creating a node is one look for the engine and one request. The record is written out for each way
in which it can end. -/

/-- The record of a creation whose request was sent, by the answer to it. Without an answer it has
no result, and the node is as it was. -/
def birth (n : Node) (client : Client) (answer : Option Answer) : Record Outcome where
  exchanges := [⟨n, .engine n.engine, some (.ok client)⟩,
    ⟨n, .send ⟨client, .post n.collectionPath (some (.ofDict n.createBody))⟩, answer⟩]
  result := answer.map fun
    | .ok _ => .ok .done
    | .error e => .error (.ofEngine e)
  after :=
    match answer with
    | some (.ok report) => { n.merge report with status := .created }
    | some (.error _) | none => n

/-- **The records of a creation**: the engine is not found, or the request is sent. There is one
lookup and at most one request, whatever becomes of them. -/
inductive Births (n : Node) : Record Outcome → Prop
  | missing (e : RegistryError) :
      Births n ⟨[⟨n, .engine n.engine, some (.error e)⟩], some (.error (engineMissing e)), n⟩
  | unfound : Births n ⟨[⟨n, .engine n.engine, none⟩], none, n⟩
  | asked (client : Client) (answer : Option Answer) : Births n (n.birth client answer)

theorem create_births (hpending : n.status = .pending) :
    (Scenario.nodeOp .create).run.Meets n (Births n) := by
  refine meets_map.mpr ?_
  unfold create
  rw [meets_self_andThen, if_neg (not_not_intro hpending)]
  refine meets_andThen.mpr (meets_findEngine.mpr ⟨fun client => ?_, .missing, .unfound⟩)
  exact meets_andThen.mpr (meets_send.mpr
    ⟨fun report => meets_edit.mpr (.asked client (some (.ok report))),
      fun e => .asked client (some (.error e)), .asked client none⟩)

/-- **A pending node whose engine is found** is asked for. The answer is the one that the outside
gives after the lookup, and it may be missing. -/
theorem perform_create (hpending : n.status = .pending) {client : Client} {outside : Outside}
    (hengine : outside [] (.engine n.engine) = some (.ok client)) :
    n.perform (.create, outside)
      = n.birth client (outside [⟨n, .engine n.engine, some (.ok client)⟩]
          (.send ⟨client, .post n.collectionPath (some (.ofDict n.createBody))⟩)) := by
  have hbirths := (create_births hpending).transcript outside
  have hanswered := Process.transcript_answered outside (Scenario.nodeOp .create).run n
  show (Scenario.nodeOp .create).run.transcript outside n = _
  generalize (Scenario.nodeOp .create).run.transcript outside n = t at hbirths hanswered
  cases hbirths with
  | missing e => cases hanswered.1.trans hengine
  | unfound => cases hanswered.1.trans hengine
  | asked found answer =>
    obtain ⟨hfound, hanswer, -⟩ := hanswered
    cases hfound.trans hengine
    exact congrArg (n.birth client) hanswer

/-! ## What the engine is told

The body against the description that the node was drawn up from: fields by their values, and of the
properties those that are none of the fields' keys. -/

/-- **A body that says what a description says.** The first fields are the entries that every body
has, the next ones those that depend on the description, and the last one says that there are no
others. -/
structure Tells (spec : NodeSpec) (body : Dict String Json) : Prop where
  id : body.get? "vm_id" = some (.str spec.id.text)
  name : body.get? "name" = some (.str spec.name)
  consoleType : body.get? "console_type" = some (.str spec.consoleType.text)
  /-- A console is asked for if one is set. -/
  console : body.get? "console" = spec.console.map .nat
  /-- Adapters are asked for if there are any. -/
  adapters : body.get? "adapters" = if spec.adapters > 0 then some (.nat spec.adapters) else none
  /-- Properties are handed on if they have a value. -/
  properties : ∀ key, route spec.nodeType key = .rename ∨ route spec.nodeType key = .property →
    body.get? key = (spec.properties.get? key).filter fun value => !value.isNull
  /-- Nothing else is said. -/
  nothingElse : ∀ key value, body.get? key = some value →
    key ∈ ["vm_id", "name", "console_type", "console", "adapters"]
      ∨ route spec.nodeType key = .rename ∨ route spec.nodeType key = .property

/-- The body for a node that was drawn up says what the description says. A property with a reserved
key is not told, and a property without a value is not either. -/
theorem draft_tells (project : Uuid) (captureDir : OsPath) (engine : String) (spec : NodeSpec) :
    Tells spec (draft project captureDir engine spec).createBody := by
  have htold := createBody_get_eq_told (draft_tidy project captureDir engine spec)
  constructor
  case id => exact createBody_get_id _
  case name => exact (htold _).trans (told_field _ .name)
  case consoleType => exact (htold _).trans (told_field _ .consoleType)
  case console => exact (htold _).trans (told_field _ .console)
  case adapters => exact (htold _).trans (told_adapters _)
  case properties =>
    intro key hkey
    rw [htold, told_property hkey, draft_properties, if_pos (isBag_iff.mpr hkey)]
  case nothingElse =>
    intro key value hvalue
    rw [htold, told?] at hvalue
    cases hroute : route spec.nodeType key with
    | rename => exact .inr (.inl rfl)
    | property => exact .inr (.inr rfl)
    | field f =>
      obtain rfl := route_eq_field_iff.mp hroute
      exact .inl (by cases f <;> simp [NodeField.key])
    | adapters =>
      obtain rfl := route_eq_adapters_iff.mp hroute
      exact .inl (by simp)
    | identity =>
      rw [show route (draft project captureDir engine spec).nodeType key = _ from hroute] at hvalue
      dsimp only at hvalue
      split at hvalue
      · rename_i hkey
        exact .inl (by simp [hkey])
      · cases hvalue

/-- **Creating a node tells its engine what the description says**, in one request, whatever was
tried before and whatever the engine will make of it: it goes to the collection of the nodes of its
kind, and its body has the fields and the open properties of the description that have a value, and
nothing else. No reserved key is ever among the properties of a node, all through its life.

What was tried before does not matter because a node that is still pending is as it was drawn up. So
the body depends on the description alone, and a second attempt says the same as the first. -/
theorem creation_tells_description (project : Uuid) (captureDir : OsPath) (engine : String)
    (spec : NodeSpec) (turns : List Turn) :
    Always (fun n => n.Tidy ∧ (n.status = .pending → ∀ (outside : Outside) (client : Client),
        outside [] (.engine n.engine) = some (.ok client) →
        ∃ body answer, Tells spec body
          ∧ (n.perform (.create, outside)).exchanges
            = [⟨n, .engine n.engine, some (.ok client)⟩,
              ⟨n, .send ⟨client, .post n.collectionPath (some (.ofDict body))⟩, answer⟩]))
      (draft project captureDir engine spec) turns := by
  have htidy := tidy_keptBySettings.always (draft_tidy project captureDir engine spec) turns
  refine (htidy.and (always_untouched _ turns)).mono fun n hn => ⟨hn.1, ?_⟩
  intro hpending outside client hengine
  obtain rfl := hn.2 hpending
  rw [perform_create hpending hengine]
  exact ⟨_, _, draft_tells project captureDir engine spec, rfl⟩

section Examples

/-- A machine with reserved keys among its properties, and one that has no value. Its description is
as confusing as one can be. -/
def overloaded : NodeSpec :=
  { id := default, nodeType := .virtualBox, name := "pc", console := some 5000
    properties := Dict.ofList [("name", .str "other"), ("adapters", .nat 4),
      ("vm_id", .str "bogus"), ("script", .null), ("vmname", .str "machine")] }

/-- An engine that is found and refuses everything. It has a client. -/
def refusing : Outside := served (fun _ => .supplied "engine") fun _ => .error (.refused 409 "busy")

/-- The engine is told the same when the machine is created again after a refusal. Nothing of the
refusal has stayed. -/
theorem told_after_refusal :
    let n := ((draft default "captures" "engine" overloaded).perform (.create, refusing)).after
    n.status = .pending
      ∧ obliging [] (.engine n.engine) = some (.ok (.supplied "engine"))
      ∧ ∃ body answer, Tells overloaded body
        ∧ (n.perform (.create, obliging)).exchanges
          = [⟨n, .engine n.engine, some (.ok (.supplied "engine"))⟩,
            ⟨n, .send ⟨.supplied "engine", .post n.collectionPath (some (.ofDict body))⟩,
              answer⟩] := by
  have halways := creation_tells_description default "captures" "engine" overloaded
    [(.create, refusing)]
  exact ⟨rfl, rfl, (halways.2 _ List.mem_cons_self).2.2 rfl obliging _ rfl⟩

end Examples

/-! ## What the engine answers

An engine that repeats what it was told changes nothing. The engine may add what names the node,
since that is not taken over. -/

/-- **A node is what it has under its settings keys**, besides what no setting changes and the
properties under reserved keys. What is under a reserved key is nowhere to be found by `setting?`,
so that it has to be compared by itself. -/
theorem ext_reserved (hidentity : m.identity = n.identity) (hnios : m.nios = n.nios)
    (hstatus : m.status = n.status) (hsetting : ∀ key, m.setting? key = n.setting? key)
    (hreserved : ∀ key, ¬ (route n.nodeType key).isBag = true →
      m.properties.get? key = n.properties.get? key) : m = n := by
  have htype : m.nodeType = n.nodeType := nodeType_congr hidentity
  have hfield (f : NodeField) : m.fieldValue f = n.fieldValue f := by
    have hkey := hsetting f.key
    rw [setting_field, setting_field] at hkey
    exact Option.some.inj hkey
  have hname : m.name = n.name := Json.str.inj (hfield .name)
  have hconsole : m.console = n.console := Json.natOrNull_inj (hfield .console)
  have hconsoleType : m.consoleType = n.consoleType :=
    ConsoleType.text_inj (Json.str.inj (hfield .consoleType))
  have hadapters : m.adapters = n.adapters := by
    have hkey := hsetting "adapters"
    rw [setting_adapters, setting_adapters] at hkey
    exact Json.nat_inj (Option.some.inj hkey)
  have hproperties : m.properties = n.properties := by
    refine Dict.ext_get fun key => ?_
    have hkey := hsetting key
    unfold setting? at hkey
    rw [htype] at hkey
    cases hroute : route n.nodeType key with
    | rename | property => rwa [hroute] at hkey
    | identity | field | adapters => exact hreserved key (by rw [hroute]; exact nofun)
  obtain ⟨hid, hproject, hengine, -, hcaptureDir⟩ := by simpa [identity] using hidentity
  cases m
  cases n
  simp_all

/-- Without properties under reserved keys it is these alone. Every part of a node is one of these.
-/
theorem ext_setting (hn : n.Tidy) (hm : m.Tidy) (hidentity : m.identity = n.identity)
    (hnios : m.nios = n.nios) (hstatus : m.status = n.status)
    (hsetting : ∀ key, m.setting? key = n.setting? key) : m = n := by
  refine ext_reserved hidentity hnios hstatus hsetting fun key hkey => ?_
  rw [isBag_iff, not_or] at hkey
  have hkey' := hkey
  rw [← nodeType_congr hidentity] at hkey'
  rw [hn.get_eq_none hkey.1 hkey.2, hm.get_eq_none hkey'.1 hkey'.2]

/-- **A report that says what the node has, or nothing, changes nothing.** Taking over a value that
the node has, in the form in which the node has it, changes nothing. -/
theorem merge_eq_self (hn : n.Tidy) {report : Json}
    (h : ∀ key value, member? report key = some value →
      n.stored? key value = none ∨ n.stored? key value = n.setting? key) : n.merge report = n := by
  refine ext_setting hn (merge_induction tidy_keptBySettings.key report hn)
    (merge_identity n report) (merge_nios n report) (merge_status n report) fun key => ?_
  rw [setting_merge]
  cases hvalue : member? report key with
  | none => rfl
  | some value =>
    obtain hnone | hsame := h key value hvalue
    · rw [Option.bind_some, hnone, Option.none_or]
    · rw [Option.bind_some, hsame, Option.or_self]

/-- **A report that repeats what the engine was told**: under every key that is not part of the
identity it says what the body of the request said. Where the body is silent the report is silent
too; under the keys of the identity it may say anything. -/
def Echoes (n : Node) (report : Json) : Prop :=
  ∃ members, report.members? = some members
    ∧ ∀ key, route n.nodeType key ≠ .identity → members.get? key = n.createBody.get? key

/-- The body with more keys of the identity repeats what the engine was told. Such keys are passed
over by a merge. -/
theorem echoes_overlay (n : Node) {more : Dict String Json}
    (hmore : ∀ key, more.contains key = true → route n.nodeType key = .identity) :
    n.Echoes (.ofDict (n.createBody.overlay more)) := by
  refine ⟨n.createBody.overlay more, congrArg some (Dict.ofList_entries _), fun key hkey => ?_⟩
  have hnone : more.get? key = none := by
    by_contra hsome
    exact hkey (hmore key (Option.isSome_iff_ne_none.mpr hsome))
  rw [Dict.get_overlay, hnone, Option.none_or]

/-- What a node without bindings has under a key is taken over as it is. Numbers have to fit, as
larger ones could not be reported. -/
theorem stored_told (hsized : n.Sized) (hnios : n.nios = .empty) {key : String} {value : Json}
    (hvalue : n.told? key = some value) :
    n.stored? key value = none ∨ n.stored? key value = n.setting? key := by
  unfold told? at hvalue
  unfold stored? setting?
  cases hroute : route n.nodeType key with
  | identity => exact .inl rfl
  | field f =>
    rw [hroute] at hvalue
    cases f with
    | name =>
      obtain rfl := Option.some.inj hvalue
      exact .inr rfl
    | console =>
      obtain ⟨port, hport, rfl⟩ := Option.map_eq_some_iff.mp hvalue
      refine .inr ?_
      dsimp only [fieldValue]
      rw [Json.nat32_nat (hsized.console port hport), hport]
    | consoleType =>
      obtain rfl := Option.some.inj hvalue
      refine .inr ?_
      dsimp only
      rw [ConsoleType.decode_text]
      rfl
  | adapters =>
    rw [hroute] at hvalue
    dsimp only at hvalue ⊢
    split at hvalue
    · obtain rfl := Option.some.inj hvalue
      have hfree : n.boundFrom n.adapters = [] := by
        unfold boundFrom
        rw [hnios]
        rfl
      rw [Json.nat32_nat hsized.adapters, Option.filter_some, hfree]
      exact .inr rfl
    · cases hvalue
  | rename | property =>
    rw [hroute] at hvalue
    exact .inr (Option.filter_eq_some_iff.mp hvalue).1.symm

/-- **To hear again what one has told changes nothing.** A pending node has no bindings, so that its
own number of adapters is never refused. -/
theorem merge_echo (htidy : n.Tidy) (hsized : n.Sized) (hnios : n.nios = .empty) {report : Json}
    (h : n.Echoes report) : n.merge report = n := by
  obtain ⟨members, hmembers, hsame⟩ := h
  refine merge_eq_self htidy fun key value hvalue => ?_
  unfold member? at hvalue
  rw [hmembers, Option.bind_some] at hvalue
  by_cases hroute : route n.nodeType key = .identity
  · -- what is said of the identity is not taken over
    refine .inl ?_
    unfold stored?
    rw [hroute]
  · rw [hsame key hroute, createBody_get_eq_told htidy] at hvalue
    exact stored_told hsized hnios hvalue

/-- **An engine that answers with what it was told changes nothing** but the status: whatever the
description says, and with any more keys of the identity in the answer, the node that was created is
the one that was pending. -/
theorem creation_echoed (project : Uuid) (captureDir : OsPath) (engine : String) (spec : NodeSpec)
    (hspec : spec.Sized) (turns : List Turn) :
    Always (fun n => n.status = .pending → ∀ (outside : Outside) (client : Client) (report : Json),
        outside [] (.engine n.engine) = some (.ok client) →
        outside [⟨n, .engine n.engine, some (.ok client)⟩]
          (.send ⟨client, .post n.collectionPath (some (.ofDict n.createBody))⟩)
            = some (.ok report) →
        n.Echoes report →
        (n.perform (.create, outside)).result = some (.ok .done)
          ∧ (n.perform (.create, outside)).after = { n with status := .created })
      (draft project captureDir engine spec) turns := by
  refine (always_untouched _ turns).mono fun n huntouched hpending => ?_
  intro outside client report hengine hanswer hecho
  obtain rfl := huntouched hpending
  rw [perform_create hpending hengine, hanswer]
  refine ⟨rfl, ?_⟩
  have hmerge := merge_echo (draft_tidy project captureDir engine spec)
    (draft_sized project captureDir engine hspec) rfl hecho
  exact congrArg (fun n : Node => { n with status := .created }) hmerge

section Examples

/-- Keys of the identity, with a status among them. -/
def credentials : Dict String Json :=
  Dict.ofList [("project_id", .str "project"), ("status", .str "started")]

/-- A router with a console and adapters. -/
def router : NodeSpec :=
  { id := default, nodeType := .dynamips, name := "r1", console := some 5000, adapters := 3
    properties := Dict.ofList [("image", .str "ios"), ("script", .null)] }

/-- An engine that is found and repeats what it was told of the router, with its credentials. -/
def parrot : Outside :=
  served (fun _ => .supplied "engine") fun _ =>
    .ok (.ofDict ((draft default "captures" "engine" router).createBody.overlay credentials))

/-- The router is created as it was drawn up. -/
theorem router_echoed :
    let n := draft default "captures" "engine" router
    router.Sized ∧ n.status = .pending
      ∧ n.Echoes (.ofDict (n.createBody.overlay credentials))
      ∧ (n.perform (.create, parrot)).result = some (.ok .done)
      ∧ (n.perform (.create, parrot)).after = { n with status := .created } := by
  intro n
  have hsized : router.Sized := ⟨by decide, by rintro port ⟨⟩; decide⟩
  have hecho : n.Echoes (.ofDict (n.createBody.overlay credentials)) := by
    refine echoes_overlay n fun key hkey => ?_
    obtain rfl | hkey := (Dict.contains_insert ..).mp hkey
    · rfl
    obtain rfl | hkey := (Dict.contains_insert ..).mp hkey
    · rfl
    · cases hkey
  have halways := creation_echoed default "captures" "engine" router hsized []
  exact ⟨hsized, rfl, hecho, halways.1 rfl parrot _ _ rfl rfl hecho⟩

end Examples

end Node

end Testbed

import Testbed.Proofs.Node.CreateExchange

/-!
# Reports as a whole

An engine reports an object, and the members of an object have no order. A node takes them over one
after another all the same, each by the route of its key, and one of the routes looks at other parts
of the node: a number of adapters is taken over only if no binding lies beyond it.

That nothing of this shows has two reasons. What is found under a key is settled by the key's own
value (`setting_applyKey`), so two keys never meet in one setting; and the form in which a value is
taken over depends on the type and on the bindings, which no key changes. Two keys can therefore
change places (`applyKey_comm`), a whole report can be taken over in any order
(`applyKeys_perm`), and taking it over again finds everything in place already.

All of this holds of any node, also of one that has properties under reserved keys: those are looked
at by nobody and stay (`applyKey_reserved`).
-/

namespace Testbed.Node

variable {n m : Node} {key key' : String} {value value' : Json}

/-! ## One key

Taking over a key changes one setting. The rest of the node, including the rule by which other
values are stored, is as it was. -/

theorem applyKey_nodeType (n : Node) (key : String) (value : Json) :
    (n.applyKey key value).nodeType = n.nodeType := nodeType_congr (applyKey_identity n key value)

/-- A key does not change the form in which values are taken over. -/
theorem stored_applyKey (n : Node) (key : String) (value : Json) :
    (n.applyKey key value).stored? = n.stored? :=
  funext fun key' => funext fun value' =>
    stored_congr (applyKey_nodeType n key value) (applyKey_nios n key value) key' value'

/-- **What is found under a key after one was taken over**: under itself its own value if it is
taken over, and what there was under every other one. It is the case of a single key of what holds
of whole reports, and the step of that induction. -/
theorem setting_applyKey (n : Node) (key : String) (value : Json) (key' : String) :
    (n.applyKey key value).setting? key'
      = if key' = key then (n.stored? key value).or (n.setting? key) else n.setting? key' := by
  split
  · rename_i h
    rw [h]
    exact setting_applyKey_self n key value
  · rename_i h
    exact (applyKey_takes n key value).setting h

/-- No key changes a property under a reserved one. -/
theorem applyKey_reserved (h : ¬ (route n.nodeType key').isBag = true) (key : String)
    (value : Json) :
    (n.applyKey key value).properties.get? key' = n.properties.get? key' := by
  have hinsert (hbag : (route n.nodeType key).isBag = true) :
      (n.properties.insert key value).get? key' = n.properties.get? key' := by
    refine Dict.get_insert_ne _ _ ?_
    rintro rfl
    exact h hbag
  unfold applyKey
  cases hroute : route n.nodeType key with
  | rename | property => exact hinsert (by rw [hroute]; rfl)
  | identity => rfl
  | field f =>
    cases f with
    | name => cases value.str? <;> rfl
    | console => rfl
    | consoleType => cases ConsoleType.decode value <;> rfl
  | adapters =>
    cases value.nat32? with
    | none => rfl
    | some count =>
      dsimp only
      split <;> rfl

/-! ## Two keys

Two keys that differ may be taken over in either order. Properties are compared as mappings, so the
order of insertion leaves no trace. -/

/-- **Two keys can change places.** The keys have to be different: of two values under one key the
later stays. -/
theorem applyKey_comm (n : Node) (hne : key ≠ key') (value value' : Json) :
    (n.applyKey key value).applyKey key' value' = (n.applyKey key' value').applyKey key value := by
  refine ext_reserved ?_ ?_ ?_ (fun key'' => ?_) fun key'' hreserved => ?_
  · simp only [applyKey_identity]
  · simp only [applyKey_nios]
  · simp only [applyKey_status]
  · rw [setting_applyKey, setting_applyKey, setting_applyKey, setting_applyKey, stored_applyKey,
      stored_applyKey, setting_applyKey, setting_applyKey, if_neg hne, if_neg (Ne.symm hne)]
    -- the key that is looked under is one of the two at most
    by_cases h : key'' = key
    · rw [if_pos h, if_pos h, if_neg (h ▸ hne)]
    · rw [if_neg h, if_neg h]
  · rw [applyKey_nodeType, applyKey_nodeType] at hreserved
    rw [applyKey_reserved (by rwa [applyKey_nodeType]), applyKey_reserved hreserved,
      applyKey_reserved (by rwa [applyKey_nodeType]), applyKey_reserved hreserved]

/-! ## Whole reports

A report holds each key once. From the case of two keys it follows that any order of its keys leads
to the same node, and that a report merged twice is merged once. -/

/-- The keys of a report, with what it says under them. -/
def reported (report : Json) : List (String × Json) :=
  (report.members?.map Dict.entries).getD []

theorem nodup_reported (report : Json) : ((reported report).map (·.1)).Nodup := by
  unfold reported
  cases report.members? with
  | none => exact List.nodup_nil
  | some members => exact members.nodup_keys

theorem merge_eq_applyKeys (n : Node) (report : Json) :
    n.merge report = n.applyKeys (reported report) := by
  unfold merge reported
  cases report.members? <;> rfl

/-- **Different keys can be taken over in any order.** By induction on the permutation, whose steps
are exchanges of neighbours. -/
theorem applyKeys_perm {order entries : List (String × Json)} (h : order.Perm entries)
    (hnodup : (entries.map (·.1)).Nodup) (n : Node) : n.applyKeys order = n.applyKeys entries := by
  have hnodup' : (order.map (·.1)).Nodup := (h.map _).nodup_iff.mpr hnodup
  refine h.foldl_eq' (fun x hx y hy m => ?_) n
  by_cases hkey : x.1 = y.1
  · rw [List.inj_on_of_nodup_map hnodup' hx hy hkey]
  · exact applyKey_comm m hkey x.2 y.2

/-- A report changes no property under a reserved key. Reserved keys have fields of their own, and
the bag of properties is not where they go. -/
theorem merge_reserved (h : ¬ (route n.nodeType key).isBag = true) (report : Json) :
    (n.merge report).properties.get? key = n.properties.get? key := by
  refine (merge_induction (n := n) (P := fun m => m.nodeType = n.nodeType
    ∧ m.properties.get? key = n.properties.get? key) ?_ report ⟨rfl, rfl⟩).2
  rintro m key' value' ⟨htype, hm⟩
  refine ⟨(applyKey_nodeType m key' value').trans htype, ?_⟩
  exact (applyKey_reserved (by rwa [htype]) key' value').trans hm

/-- **A report says nothing new the second time.** Whatever could be taken over is in place, in the
form in which it would be taken over again. -/
theorem merge_merge (n : Node) (report : Json) :
    (n.merge report).merge report = n.merge report := by
  refine ext_reserved (merge_identity _ report) (merge_nios _ report) (merge_status _ report)
    (fun key => ?_) fun key hreserved => merge_reserved hreserved report
  have hstored : (n.merge report).stored? key = n.stored? key := funext fun value =>
    stored_congr (nodeType_congr (merge_identity n report)) (merge_nios n report) key value
  rw [setting_merge, hstored, setting_merge, ← Option.or_assoc, Option.or_self]

/-- The request of a stage goes where it went while the identity was the same. -/
theorem Stage.path_congr (h : m.identity = n.identity) (stage : Stage) :
    (stage.request m).path = (stage.request n).path := by
  cases stage with
  | create => exact collectionPath_congr h
  | destroy | push => exact Node.path_congr h
  | act | rename | resize | post | delete =>
    simp only [request, Request.post, Request.put, Request.delete, subPath_congr h]
  | bind | unbind | startCapture | stopCapture =>
    simp only [request, Request.post, Request.delete, adapterPath_congr h]

/-- **Only settings have changed**: name, console, console protocol, adapters and properties. The
bindings, the status, the identity and the paths are the same. -/
structure Resettled (n m : Node) : Prop where
  /-- Identifier, project, engine, type and the directory of captures are the same. -/
  identity : m.identity = n.identity
  /-- The bindings are the same. -/
  nios : m.nios = n.nios
  /-- The status is the same. -/
  status : m.status = n.status
  /-- Whatever is requested for the node, it is requested under the same path. -/
  paths : ∀ stage : Stage, (stage.request m).path = (stage.request n).path

/-- **A report is taken over as a whole**: once and for all, in whatever order of its keys, with
what it says in place wherever it can be taken over, and with nothing changed but settings.

The second part says of the listed members that any order of them would have done the same, so that
the order in which an engine, or a parser, puts them cannot matter. The third part is the value of
every single setting afterwards, and with the last part that is everything about the node. -/
theorem merged_as_a_whole (n : Node) (report : Json) :
    (n.merge report).merge report = n.merge report
      ∧ (∀ order, order.Perm (reported report) → n.applyKeys order = n.merge report)
      ∧ (∀ key, (n.merge report).setting? key
        = ((member? report key).bind (n.stored? key)).or (n.setting? key))
      ∧ n.Resettled (n.merge report) := by
  refine ⟨n.merge_merge report, fun order horder => ?_, n.setting_merge report,
    merge_identity n report, merge_nios n report, merge_status n report,
    Stage.path_congr (merge_identity n report)⟩
  rw [merge_eq_applyKeys]
  exact applyKeys_perm horder (nodup_reported report) n

section Examples

/-- A router with a binding, which is bound on its second adapter. -/
def boundRouter : Node := Node.bind 1 .sink (draft default "captures" "engine" router)

/-- What is reported of it: too few adapters for the binding, a console that is no number, and
another name. -/
def mixedReport : Json :=
  .mkObj [("adapters", .nat 1), ("console", .str "none"), ("image", .null), ("name", .str "r2"),
    ("status", .str "started")]

/-- From the last key to the first, the report says the same. -/
theorem reported_backwards :
    (reported mixedReport).reverse.Perm (reported mixedReport)
      ∧ boundRouter.applyKeys (reported mixedReport).reverse = boundRouter.merge mixedReport
      ∧ (boundRouter.merge mixedReport).name = "r2"
      ∧ (boundRouter.merge mixedReport).adapters = 3 :=
  ⟨List.reverse_perm _,
    (merged_as_a_whole boundRouter mixedReport).2.1 _ (List.reverse_perm _), rfl, rfl⟩

end Examples

end Testbed.Node

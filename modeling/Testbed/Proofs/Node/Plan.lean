import Testbed.Proofs.Node.Stage

/-!
# The plan of an update, key by key

`Node.plan` goes through the requested keys one after another and collects what has to be sent. Here
it is said without the going through: the first key with an unusable value spoils the plan, and
otherwise the generic update has exactly the fields and properties that differ, and the rename and
the resize are those asked for under their own keys (`plan_eq`).

There is at most one key for each of the latter two, because a dictionary has a key once; that is
where the order of the entries is used.

The first form is the one that runs, and the second the one that says what a caller can rely on: no
key influences what is sent for another one, and the error does not depend on the keys behind it.
The stages of an update (`Node.updateStages`) are read off the second form.
-/

namespace Testbed

/-! ## The keys with calls of their own

Two keys may be kept out of the generic update. What a plan holds for them is computed from the
entries as a list, since that is how the loop meets them. -/

/-- Only a machine name is renamed, and only where the type has a call for it. -/
theorem route_eq_rename_iff {t : NodeType} {key : String} :
    route t key = .rename ↔ t.hasRename = true ∧ key = "vmname" := by
  have hcommon : ∀ e ∈ KeyRoute.common, e.2 ≠ KeyRoute.rename := by decide
  unfold route
  split
  · rename_i h
    exact iff_of_true rfl h
  · rename_i h
    refine iff_of_false (fun hroute => ?_) h
    split at hroute
    · rename_i hfind
      exact hcommon _ (List.mem_of_find?_eq_some hfind) hroute
    · cases hroute

/-- Only the number of adapters is resized. -/
theorem route_eq_adapters_iff {t : NodeType} {key : String} :
    route t key = .adapters ↔ key = "adapters" := by
  have hcommon : ∀ e ∈ KeyRoute.common, e.2 = KeyRoute.adapters → e.1 = "adapters" := by decide
  constructor
  · intro h
    unfold route at h
    split at h
    · cases h
    · split at h
      · rename_i hfind
        have hkey := List.find?_some hfind
        rw [← beq_iff_eq.mp hkey]
        exact hcommon _ (List.mem_of_find?_eq_some hfind) h
      · cases h
  · rintro rfl
    unfold route
    rw [if_neg (by rintro ⟨-, h⟩; exact absurd h (by decide))]
    rfl

namespace Node

/-- The machine name among some entries, if it is another one. -/
def renameIn? (n : Node) (l : List (String × Json)) : Option Json :=
  if n.nodeType.hasRename then
    (Dict.getEntry "vmname" l).filter
      (fun v => !Json.sameOpt (n.properties.get? "vmname") (some v))
  else none

/-- The number of adapters among some entries, if it is another one. -/
def resizeIn? (n : Node) (l : List (String × Json)) : Option Nat :=
  ((Dict.getEntry "adapters" l).bind Json.nat32?).filter (· ≠ n.adapters)

/-- An entry renames only under the key for it. -/
theorem renameIn_single (n : Node) (key : String) (value : Json) :
    n.renameIn? [(key, value)] =
      if route n.nodeType key = .rename then
        (some value).filter (fun v => !Json.sameOpt (n.properties.get? key) (some v))
      else none := by
  unfold renameIn? Dict.getEntry
  by_cases hr : n.nodeType.hasRename = true
  · by_cases hk : key = "vmname"
    · rw [if_pos hr, if_pos (route_eq_rename_iff.mpr ⟨hr, hk⟩), hk, if_pos Std.ReflOrd.compare_self]
    · rw [if_pos hr, if_neg (fun h => hk (route_eq_rename_iff.mp h).2),
        if_neg (fun h => hk (Std.LawfulEqOrd.eq_of_compare h).symm)]
      rfl
  · rw [if_neg hr, if_neg (fun h => hr (route_eq_rename_iff.mp h).1)]

/-- An entry resizes only under the key for it. -/
theorem resizeIn_single (n : Node) (key : String) (value : Json) :
    n.resizeIn? [(key, value)] =
      if route n.nodeType key = .adapters then value.nat32?.filter (· ≠ n.adapters) else none := by
  unfold resizeIn? Dict.getEntry
  by_cases hk : key = "adapters"
  · rw [if_pos (route_eq_adapters_iff.mpr hk), hk, if_pos Std.ReflOrd.compare_self]
    rfl
  · rw [if_neg (fun h => hk (route_eq_adapters_iff.mp h)),
      if_neg (fun h => hk (Std.LawfulEqOrd.eq_of_compare h).symm)]
    rfl

/-- What one key does to a plan. A value that may not be asked for ends the planning; any other one
adds to at most one part of the plan. -/
theorem planKey_eq (n : Node) (p : Plan) (key : String) (value : Json) :
    n.planKey p key value =
      match n.objection? key value with
      | some cause => .error (.validation cause)
      | none => .ok {
          push := if n.pushes key value then p.push.insert key value else p.push
          rename := ((n.renameIn? [(key, value)]).map ("vmname", ·)).or p.rename
          resize := (n.resizeIn? [(key, value)]).or p.resize } := by
  rw [renameIn_single, resizeIn_single]
  unfold planKey objection? pushes
  cases hroute : route n.nodeType key with
  | identity => rfl
  | field f =>
    by_cases ha : fieldAccepts f value = true
    · by_cases hs : (n.fieldValue f).same value = true <;> simp [ha, hs] <;> rfl
    · simp [ha]
      rfl
  | rename =>
    obtain ⟨-, rfl⟩ := route_eq_rename_iff.mp hroute
    by_cases hs : Json.sameOpt (n.properties.get? "vmname") (some value) = true <;>
      simp [Option.filter, hs] <;> rfl
  | adapters =>
    cases hv : value.nat32? with
    | none => rfl
    | some count =>
      by_cases hc : count = n.adapters <;> simp [Option.filter, hc] <;> rfl
  | property =>
    by_cases hs : Json.sameOpt (n.properties.get? key) (some value) = true <;> simp [hs] <;> rfl

/-- A key stands in front or further on, and not in both places. Because the keys ascend strictly,
no key is met twice, and later entries cannot undo what earlier ones put into the plan. -/
theorem getEntry_cons_split {κ ν : Type} [Ord κ] [Std.TransOrd κ] [Std.LawfulEqOrd κ] {e : κ × ν}
    {l : List (κ × ν)} (h : (e :: l).Pairwise (fun a b => compare a.1 b.1 = .lt)) (k : κ) :
    (Dict.getEntry k (e :: l) = Dict.getEntry k [e] ∧ Dict.getEntry k l = none)
      ∨ (Dict.getEntry k (e :: l) = Dict.getEntry k l ∧ Dict.getEntry k [e] = none) := by
  obtain ⟨he, -⟩ := List.pairwise_cons.mp h
  by_cases hk : compare k e.1 = .eq
  · refine .inl ⟨(if_pos hk).trans (if_pos hk).symm, ?_⟩
    rw [Std.LawfulEqOrd.eq_of_compare hk]
    exact Dict.getEntry_eq_none_of_lt he
  · exact .inr ⟨if_neg hk, if_neg hk⟩

/-- The machine name of some entries is that of the first one or of the others. -/
theorem renameIn_cons (n : Node) {e : String × Json} {l : List (String × Json)}
    (h : (e :: l).Pairwise (fun a b => compare a.1 b.1 = .lt)) :
    n.renameIn? (e :: l) = (n.renameIn? l).or (n.renameIn? [e]) := by
  unfold renameIn?
  obtain ⟨hhere, hnone⟩ | ⟨hthere, hnone⟩ := getEntry_cons_split h "vmname"
  · rw [hhere, hnone]
    split <;> rfl
  · rw [hthere, hnone]
    -- without a call for it nothing is renamed, here or there
    split
    · exact Option.or_none.symm
    · rfl

/-- The number of adapters of some entries is that of the first one or of the others. -/
theorem resizeIn_cons (n : Node) {e : String × Json} {l : List (String × Json)}
    (h : (e :: l).Pairwise (fun a b => compare a.1 b.1 = .lt)) :
    n.resizeIn? (e :: l) = (n.resizeIn? l).or (n.resizeIn? [e]) := by
  unfold resizeIn?
  obtain ⟨hhere, hnone⟩ | ⟨hthere, hnone⟩ := getEntry_cons_split h "adapters"
  · rw [hhere, hnone]
    rfl
  · rw [hthere, hnone]
    exact Option.or_none.symm

/-- **The plan of some keys**, taken into a plan that has none of them. The plan that is gone on
from matters only where the keys are silent. That is the induction hypothesis in the form in which
it is kept from key to key. -/
theorem foldlM_planKey (n : Node) {l : List (String × Json)}
    (h : l.Pairwise (fun a b => compare a.1 b.1 = .lt)) (p : Plan) :
    l.foldlM (fun p e => n.planKey p e.1 e.2) p =
      match l.findSome? (fun e => n.objection? e.1 e.2) with
      | some cause => .error (.validation cause)
      | none => .ok {
          push := p.push.insertMany (l.filter (fun e => n.pushes e.1 e.2))
          rename := ((n.renameIn? l).map ("vmname", ·)).or p.rename
          resize := (n.resizeIn? l).or p.resize } := by
  -- the plan is a parameter, since each key adds to what those before it have collected
  induction l generalizing p with
  | nil =>
    have hrename : n.renameIn? [] = none := by
      unfold renameIn?
      split <;> rfl
    rw [hrename]
    rfl
  | cons e l ih =>
    obtain ⟨-, hl⟩ := List.pairwise_cons.mp h
    rw [List.foldlM_cons, planKey_eq, List.findSome?_cons]
    match hobj : n.objection? e.1 e.2 with
    | some cause => rfl
    | none =>
      show List.foldlM _ _ l = _
      rw [ih hl, renameIn_cons n h, resizeIn_cons n h, Option.map_or, Option.or_assoc,
        Option.or_assoc, List.filter_cons]
      dsimp only
      cases l.findSome? (fun e => n.objection? e.1 e.2) with
      | some cause => rfl
      | none => by_cases hp : n.pushes e.1 e.2 = true <;> simp only [hp] <;> rfl

/-- **The plan of an update**: the first unusable value spoils it, and otherwise it has what differs
under each key. The two keys with calls of their own never reach the generic update, also where they
have nothing to do. -/
theorem plan_eq (n : Node) (changes : Dict String Json) :
    n.plan changes =
      match changes.entries.findSome? (fun e => n.objection? e.1 e.2) with
      | some cause => .error (.validation cause)
      | none => .ok {
          push := changes.filter n.pushes
          rename := (n.renameTo? changes).map ("vmname", ·)
          resize := n.resizeTo? changes } := by
  -- putting in what is pushed, key by key, filters the changes
  have hpush : Dict.empty.insertMany (changes.entries.filter (fun e => n.pushes e.1 e.2))
      = changes.filter n.pushes := by
    refine Dict.ext_get (fun k => ?_)
    rw [Dict.get_insertMany _ (changes.ascending.filter _), Dict.get_empty, Option.or_none]
    rfl
  refine (foldlM_planKey n changes.ascending {}).trans ?_
  rw [Option.or_none, Option.or_none, hpush]
  rfl

end Node

end Testbed

import Mathlib.Data.List.Basic
import Testbed.Proofs.Node.Identity

/-!
# The paths of a node, read backwards

What an engine sees of an operation is a method, a path and a body. For the few paths that matter to
the bindings and the status, this module says how they are told apart: `Node.bindingAt?` reads the
adapter off the path of a binding, and finds one nowhere else (`bindingAt_eq_some_iff`).

Reading backwards is what makes statements about requests possible that do not mention the operation
they came from. A caller's own request is sent to whatever path the caller likes below the node, and
it counts as what it looks like. So the question is never which operation sent a path, but which
operations could have.
-/

namespace Testbed.Node

variable {n m : Node}

theorem subPath_eq {sub : String} (h : FilePath.isAbsolute sub = false) :
    n.subPath sub = n.path ++ "/" ++ sub := by
  unfold subPath
  rw [h]
  rfl

/-- What a path says below that of the node. It is nothing if the path does not stand below the node
at all. -/
def below? (n : Node) (path : String) : Option (List Char) :=
  (n.path ++ "/").toList.isPrefixOf? path.toList

/-- The adapter of a binding, as it is written below a node. The number is read back and written
again, so that leading zeros do not pass for the same adapter. -/
def bindingIndex? (sub : List Char) : Option Nat := do
  let rest ← "adapters/".toList.isPrefixOf? sub
  let digits ← "/nio".toList.isSuffixOf? rest
  let index := Nat.ofDigitChars 10 digits 0
  if (toString index).toList = digits then some index else none

/-- **The adapter whose binding a path is about**, if it is about one. It is found by taking off the
path of the node, the word for adapters and the leaf, and by reading what is left as a decimal
number. -/
def bindingAt? (n : Node) (path : String) : Option Nat := (n.below? path).bind bindingIndex?

theorem below_eq_some_iff {path : String} {sub : List Char} :
    n.below? path = some sub ↔ path = n.path ++ "/" ++ String.ofList sub := by
  unfold below?
  have hsub : (n.path ++ "/" ++ String.ofList sub).toList = (n.path ++ "/").toList ++ sub := by
    rw [String.toList_append, String.toList_ofList]
  rw [List.isPrefixOf?_eq_some_iff_append_eq, ← String.toList_inj, hsub]
  exact eq_comm

theorem ofDigitChars_toString (index : Nat) :
    Nat.ofDigitChars 10 (toString index).toList 0 = index := by
  rw [Nat.toString_eq_ofList_toDigits, String.toList_ofList, Nat.ofDigitChars_ten_toDigits]

theorem bindingIndex_eq_some_iff {sub : List Char} {index : Nat} :
    bindingIndex? sub = some index ↔ sub = ("adapters/" ++ toString index ++ "/nio").toList := by
  have hparts : ("adapters/" ++ toString index ++ "/nio").toList
      = "adapters/".toList ++ ((toString index).toList ++ "/nio".toList) := by
    rw [String.toList_append, String.toList_append, List.append_assoc]
  rw [hparts]
  unfold bindingIndex?
  constructor
  · intro h
    obtain ⟨rest, hrest, h⟩ := Option.bind_eq_some_iff.mp h
    obtain ⟨digits, hdigits, h⟩ := Option.bind_eq_some_iff.mp h
    rw [List.isPrefixOf?_eq_some_iff_append_eq] at hrest
    rw [List.isSuffixOf?_eq_some_iff_append_eq] at hdigits
    dsimp only at h
    split at h
    · rename_i hwritten
      cases h
      rw [← hrest, ← hdigits, hwritten]
    · cases h
  · rintro rfl
    have hrest := List.isPrefixOf?_eq_some_iff_append_eq.mpr
      (rfl : "adapters/".toList ++ ((toString index).toList ++ "/nio".toList) = _)
    have hdigits := List.isSuffixOf?_eq_some_iff_append_eq.mpr
      (rfl : (toString index).toList ++ "/nio".toList = _)
    refine Option.bind_eq_some_iff.mpr ⟨_, hrest, Option.bind_eq_some_iff.mpr ⟨_, hdigits, ?_⟩⟩
    dsimp only
    rw [ofDigitChars_toString, if_pos rfl]

/-- A path about an adapter stands below the node's. -/
theorem adapterPath_eq (index : Nat) (leaf : String) :
    n.adapterPath index leaf = n.path ++ "/" ++ ("adapters/" ++ toString index ++ "/" ++ leaf) := by
  refine subPath_eq ?_
  unfold FilePath.isAbsolute
  rw [String.toList_append, String.toList_append, String.toList_append]
  rfl

/-- **The paths of bindings, and no others, are about bindings.** Numbers are read only in the
spelling in which they are written, without a leading zero, so that two paths never stand for one
adapter. -/
theorem bindingAt_eq_some_iff {path : String} {index : Nat} :
    n.bindingAt? path = some index ↔ path = n.adapterPath index "nio" := by
  have hleaf : "adapters/" ++ toString index ++ "/" ++ "nio"
      = "adapters/" ++ toString index ++ "/nio" := by
    rw [String.append_assoc]
    rfl
  unfold bindingAt?
  rw [adapterPath_eq, hleaf, Option.bind_eq_some_iff]
  constructor
  · rintro ⟨sub, hsub, hindex⟩
    rw [below_eq_some_iff.mp hsub, bindingIndex_eq_some_iff.mp hindex, String.ofList_toList]
  · intro h
    refine ⟨_, below_eq_some_iff.mpr ?_, bindingIndex_eq_some_iff.mpr rfl⟩
    rw [String.ofList_toList]
    exact h

theorem bindingAt_adapterPath (index : Nat) :
    n.bindingAt? (n.adapterPath index "nio") = some index := bindingAt_eq_some_iff.mpr rfl

theorem bindingAt_eq_none {path : String} (h : ∀ index, path ≠ n.adapterPath index "nio") :
    n.bindingAt? path = none :=
  Option.eq_none_iff_forall_ne_some.mpr fun index hindex =>
    h index (bindingAt_eq_some_iff.mp hindex)

/-! ## Telling paths apart

Two paths below one node differ when what follows the node's own path differs. So it is enough to
compare a first letter, a last letter or the number of parts, whatever the identifiers are. -/

theorem subPath_ne_collectionPath (sub : String) : n.subPath sub ≠ n.collectionPath := by
  intro h
  have hlength := congrArg (fun s => s.toList.length) h
  unfold subPath path at hlength
  split at hlength <;> simp at hlength

theorem adapterPath_ne_collectionPath (index : Nat) (leaf : String) :
    n.adapterPath index leaf ≠ n.collectionPath := subPath_ne_collectionPath _

theorem path_ne_adapterPath (index : Nat) (leaf : String) : n.path ≠ n.adapterPath index leaf := by
  intro h
  have hlength := congrArg (fun s => s.toList.length) h
  rw [adapterPath_eq] at hlength
  simp at hlength

theorem path_ne_subPath {sub : String} (h : FilePath.isAbsolute sub = false) :
    n.path ≠ n.subPath sub := by
  intro heq
  have hlength := congrArg (fun s => s.toList.length) heq
  rw [subPath_eq h] at hlength
  simp at hlength

/-- What is about one adapter has a longer path than what is about their number. -/
theorem adapterPath_ne_adapters (index : Nat) (leaf : String) :
    n.adapterPath index leaf ≠ n.subPath "adapters" := by
  intro heq
  have hlength := congrArg (fun s => s.toList.length) heq
  rw [adapterPath_eq, subPath_eq rfl] at hlength
  simp at hlength

theorem subPath_inj {a b : String} (ha : FilePath.isAbsolute a = false)
    (hb : FilePath.isAbsolute b = false) : n.subPath a = n.subPath b ↔ a = b := by
  rw [subPath_eq ha, subPath_eq hb, String.append_right_inj]

/-- What is about an adapter is not something else with another first letter. -/
theorem adapterPath_ne_subPath {sub : String} (h : FilePath.isAbsolute sub = false)
    (hfirst : sub.toList.head? ≠ some 'a') (index : Nat) (leaf : String) :
    n.adapterPath index leaf ≠ n.subPath sub := by
  rw [adapterPath_eq, subPath_eq h]
  intro heq
  refine hfirst ?_
  rw [← (String.append_right_inj _).mp heq, String.toList_append, String.toList_append,
    String.toList_append]
  rfl

/-- A path about an adapter ends like its leaf. -/
theorem getLast_adapterPath {leaf : String} {c : Char} (h : leaf.toList.getLast? = some c)
    (index : Nat) : (n.adapterPath index leaf).toList.getLast? = some c := by
  rw [adapterPath_eq, ← String.append_assoc, String.toList_append, List.getLast?_append, h]
  rfl

/-- What is about an adapter is about its binding only with the leaf of a binding. -/
theorem adapterPath_ne_nio {leaf : String} (h : leaf.toList.getLast? = some 'e')
    (index other : Nat) : n.adapterPath index leaf ≠ n.adapterPath other "nio" := by
  intro heq
  have hlast := getLast_adapterPath (n := n) h index
  rw [heq, getLast_adapterPath (c := 'o') rfl other] at hlast
  exact absurd hlast (by decide)

end Testbed.Node

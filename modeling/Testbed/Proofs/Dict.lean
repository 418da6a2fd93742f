import Mathlib.Logic.Function.Basic
import Testbed.Dict

/-!
# Which keys a dictionary has

The keys of a dictionary after its operations, and the list of its keys by membership.

Look-ups are enough to know a dictionary, but a registry or a table of projects is often asked for
its keys alone: which engines are there, which sections, which nodes are to be deleted. For these
questions the lemmas here are stated with `contains` and with membership in `keys`, next to those
for `get?`.
-/

namespace Testbed.Dict

variable {κ ν : Type} [Ord κ]

@[simp] theorem contains_empty (k : κ) : (empty : Dict κ ν).contains k = false := rfl

variable [Std.TransOrd κ] [Std.LawfulEqOrd κ]

theorem contains_insert (d : Dict κ ν) (k k' : κ) (v : ν) :
    (d.insert k v).contains k' = true ↔ k' = k ∨ d.contains k' = true := by
  unfold contains
  rw [get_insert]
  by_cases hk : k' = k
  · subst hk
    rw [if_pos Std.ReflOrd.compare_self]
    exact iff_of_true rfl (.inl rfl)
  · rw [if_neg (fun h => hk (Std.LawfulEqOrd.eq_of_compare h))]
    exact ⟨.inr, fun h => h.resolve_left hk⟩

omit [Std.TransOrd κ] in
theorem contains_erase (d : Dict κ ν) (k k' : κ) :
    (d.erase k).contains k' = true ↔ k' ≠ k ∧ d.contains k' = true := by
  unfold contains
  rw [get_erase]
  by_cases hk : k' = k
  · subst hk
    rw [if_pos Std.ReflOrd.compare_self]
    exact iff_of_false (by rintro ⟨⟩) (fun h => h.1 rfl)
  · rw [if_neg (fun h => hk (Std.LawfulEqOrd.eq_of_compare h))]
    exact ⟨fun h => ⟨hk, h⟩, And.right⟩

/-- Looking up after an insertion is looking up in a function that was updated. In this form
Mathlib's lemmas on updates apply, in particular those that say when two of them commute. -/
theorem get_insert_eq_update [DecidableEq κ] (d : Dict κ ν) (k : κ) (v : ν) :
    (d.insert k v).get? = Function.update d.get? k (some v) := by
  funext k'
  by_cases hk : k' = k
  · subst hk
    rw [get_insert_self, Function.update_self]
  · rw [get_insert_ne _ _ hk, Function.update_of_ne hk]

omit [Std.TransOrd κ] in
/-- Looking up after a removal. Together with the lemma before, every change of one key is an update
of the look-ups. -/
theorem get_erase_eq_update [DecidableEq κ] (d : Dict κ ν) (k : κ) :
    (d.erase k).get? = Function.update d.get? k none := by
  funext k'
  rw [get_erase]
  by_cases hk : k' = k
  · subst hk
    rw [if_pos Std.ReflOrd.compare_self, Function.update_self]
  · rw [if_neg (fun h => hk (Std.LawfulEqOrd.eq_of_compare h)), Function.update_of_ne hk]

/-- A key is listed exactly if something is found under it. So a statement about the keys of a
dictionary can be turned into one about look-ups. -/
theorem mem_keys_iff (d : Dict κ ν) (k : κ) : k ∈ d.keys ↔ d.contains k = true := by
  unfold keys contains
  rw [List.mem_map, Option.isSome_iff_exists]
  constructor
  · rintro ⟨⟨k, v⟩, hmem, rfl⟩
    exact ⟨v, (d.mem_entries_iff k v).mp hmem⟩
  · rintro ⟨v, hget⟩
    exact ⟨(k, v), (d.mem_entries_iff k v).mpr hget, rfl⟩

/-- A look-up among the entries that a test accepts. The test sees the key that is looked for, as
the entry that is found has no other. -/
theorem get_filter (d : Dict κ ν) (keep : κ → ν → Bool) (k : κ) :
    (d.filter keep).get? k = (d.get? k).filter (keep k) := by
  refine Option.ext fun v => ?_
  have hmem : (k, v) ∈ (d.filter keep).entries ↔ (k, v) ∈ d.entries ∧ keep k v = true :=
    List.mem_filter
  rw [← mem_entries_iff, hmem, mem_entries_iff, Option.filter_eq_some_iff]

/-- A test accepts no entry. It is said of look-ups, so nothing has to be known of how the entries
are kept. -/
theorem isEmpty_filter_iff (d : Dict κ ν) (keep : κ → ν → Bool) :
    (d.filter keep).isEmpty = true ↔ ∀ k v, d.get? k = some v → keep k v = false := by
  unfold isEmpty filter
  rw [List.isEmpty_iff, List.filter_eq_nil_iff]
  constructor
  · intro h k v hget
    exact Bool.eq_false_iff.mpr (h (k, v) ((d.mem_entries_iff k v).mpr hget))
  · rintro h ⟨k, v⟩ hmem
    exact Bool.eq_false_iff.mp (h k v ((d.mem_entries_iff k v).mp hmem))

omit [Std.TransOrd κ] in
/-- No key is listed twice. -/
theorem nodup_keys (d : Dict κ ν) : d.keys.Nodup := by
  unfold keys List.Nodup
  rw [List.pairwise_map]
  refine d.ascending.imp fun hlt heq => ?_
  rw [heq, Std.ReflOrd.compare_self] at hlt
  cases hlt

omit [Std.TransOrd κ] in
/-- Nothing is found exactly under the keys that no entry has. It holds of lists in any order, with
keys as often as they like. -/
theorem getEntry_eq_none_iff {k : κ} {l : List (κ × ν)} :
    getEntry k l = none ↔ k ∉ l.map (·.1) := by
  induction l with
  | nil => simp [getEntry]
  | cons e rest ih =>
    obtain ⟨k', v⟩ := e
    by_cases hk : k = k'
    · simp [getEntry, hk]
    · simp [getEntry, hk, ih]

/-- After insertions under different keys the one of a key is found. The general lemma asks for keys
that ascend; it is enough that they differ, which is what is known of a list that somebody has
written down. -/
theorem get_insertMany_of_nodup (d : Dict κ ν) {l : List (κ × ν)} (h : (l.map (·.1)).Nodup)
    (k : κ) : (d.insertMany l).get? k = (getEntry k l).or (d.get? k) := by
  induction l generalizing d with
  | nil => rfl
  | cons e rest ih =>
    obtain ⟨k', v⟩ := e
    obtain ⟨hfirst, hrest⟩ := List.nodup_cons.mp h
    show ((d.insert k' v).insertMany rest).get? k = _
    rw [ih _ hrest, get_insert, getEntry]
    split
    · rename_i heq
      obtain rfl := Std.LawfulEqOrd.eq_of_compare heq
      rw [getEntry_eq_none_iff.mpr hfirst]
      rfl
    · rfl

/-- A look-up in the dictionary of entries with different keys. This is how an object is looked into
that was made of members in an order of its own. -/
theorem get_ofList {l : List (κ × ν)} (h : (l.map (·.1)).Nodup) (k : κ) :
    (ofList l).get? k = getEntry k l :=
  (get_insertMany_of_nodup empty h k).trans Option.or_none

/-- A dictionary is that of its entries. Nothing is lost when an object is taken apart and put
together again. -/
@[simp] theorem ofList_entries (d : Dict κ ν) : ofList d.entries = d :=
  ext_get (get_ofList d.nodup_keys)

end Testbed.Dict

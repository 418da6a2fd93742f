/-!
# Dictionaries in key order

A dictionary is a list of entries whose keys ascend strictly. The order is part of the type,
so there is one dictionary for each finite map: two of them with the same look-ups are equal
(`Dict.ext_get`). Everything that is shown in key order – object members, node properties,
sections, bindings by adapter – is read off `entries` directly.

Look-ups after a change are given by `get_insert`, `get_erase`, `get_overlay` and `get_mapValues`;
nothing else needs to unfold the operations.
-/

namespace Testbed

/-- **A finite map with its entries in ascending key order.** The proof of the order is a field, so
a dictionary out of order cannot be made, and no operation has to sort. -/
structure Dict (κ ν : Type) [Ord κ] where
  /-- The entries, smallest key first. -/
  entries : List (κ × ν)
  /-- Each key is below every later one. -/
  ascending : entries.Pairwise (fun a b => compare a.1 b.1 = .lt)

namespace Dict

variable {κ ν : Type} [Ord κ]

theorem ext_entries {d e : Dict κ ν} (h : d.entries = e.entries) : d = e := by
  cases d; cases e; simp_all

instance [DecidableEq κ] [DecidableEq ν] : DecidableEq (Dict κ ν) := fun d e =>
  if h : d.entries = e.entries then isTrue (ext_entries h)
  else isFalse (fun he => h (he ▸ rfl))

/-- The dictionary without entries. -/
def empty : Dict κ ν := ⟨[], .nil⟩

instance : EmptyCollection (Dict κ ν) := ⟨empty⟩
instance : Inhabited (Dict κ ν) := ⟨empty⟩

/-- The value under a key of a list of entries: the first entry with that key. It makes sense for
lists that are not in order as well, and is what a look-up in an object as it was read comes to. -/
def getEntry (k : κ) : List (κ × ν) → Option ν
  | [] => none
  | (k', v) :: rest => if compare k k' = .eq then some v else getEntry k rest

/-- The value under a key. There is at most one entry to be found. -/
def get? (d : Dict κ ν) (k : κ) : Option ν := getEntry k d.entries

/-- Whether a key has a value. A key whose value is `null`, or `none`, is there all the same. -/
def contains (d : Dict κ ν) (k : κ) : Bool := (d.get? k).isSome

/-- The keys, in order. They are distinct, as they ascend strictly. -/
def keys (d : Dict κ ν) : List κ := d.entries.map (·.1)

/-- The values, in key order. A value that stands under two keys is listed twice. -/
def values (d : Dict κ ν) : List ν := d.entries.map (·.2)

/-- The number of entries. -/
def size (d : Dict κ ν) : Nat := d.entries.length

/-- Whether there is no entry. -/
def isEmpty (d : Dict κ ν) : Bool := d.entries.isEmpty

/-- Puts a value under a key of an ascending list of entries. An entry that was there under the key
is replaced, and the list stays as long as it was. -/
def insertEntry (k : κ) (v : ν) : List (κ × ν) → List (κ × ν)
  | [] => [(k, v)]
  | (k', v') :: rest =>
    match compare k k' with
    | .lt => (k, v) :: (k', v') :: rest
    | .eq => (k, v) :: rest
    | .gt => (k', v') :: insertEntry k v rest

/-- Keeps the entries that a test accepts. The order is that of the dictionary, from which entries
are only left out. -/
def filter (d : Dict κ ν) (keep : κ → ν → Bool) : Dict κ ν :=
  ⟨d.entries.filter (fun e => keep e.1 e.2), d.ascending.filter _⟩

/-- Changes the values and keeps the keys. The new value may depend on the key. -/
def mapValues {μ : Type} (d : Dict κ ν) (f : κ → ν → μ) : Dict κ μ :=
  ⟨d.entries.map (fun e => (e.1, f e.1 e.2)), by
    simpa [List.pairwise_map] using d.ascending⟩

/-- Removes a key. A key that is not there changes nothing. -/
def erase (d : Dict κ ν) (k : κ) : Dict κ ν :=
  d.filter (fun k' _ => compare k' k != .eq)

section Lawful

variable [Std.TransOrd κ] [Std.LawfulEqOrd κ]

omit [Std.TransOrd κ] in
theorem key_insertEntry {k : κ} {v : ν} {l : List (κ × ν)} {e : κ × ν}
    (h : e ∈ insertEntry k v l) : e.1 = k ∨ e ∈ l := by
  induction l with
  | nil => simp_all [insertEntry]
  | cons x rest ih =>
    obtain ⟨k', v'⟩ := x
    simp only [insertEntry] at h
    split at h <;> simp only [List.mem_cons] at h ⊢
    · rcases h with rfl | h | h <;> simp_all
    · rcases h with rfl | h <;> simp_all
    · rcases h with rfl | h
      · simp
      · rcases ih h with h | h <;> simp [h]

theorem ascending_insertEntry {k : κ} {v : ν} {l : List (κ × ν)}
    (h : l.Pairwise (fun a b => compare a.1 b.1 = .lt)) :
    (insertEntry k v l).Pairwise (fun a b => compare a.1 b.1 = .lt) := by
  induction l with
  | nil => simp [insertEntry]
  | cons x rest ih =>
    obtain ⟨k', v'⟩ := x
    obtain ⟨hx, hr⟩ := List.pairwise_cons.1 h
    simp only [insertEntry]
    split
    · rename_i hlt
      refine List.pairwise_cons.2 ⟨fun e he => ?_, h⟩
      rcases List.mem_cons.1 he with rfl | he
      · exact hlt
      · exact Std.TransCmp.lt_trans hlt (hx e he)
    · rename_i heq
      have : k = k' := Std.LawfulEqOrd.eq_of_compare heq
      subst this
      exact List.pairwise_cons.2 ⟨hx, hr⟩
    · rename_i hgt
      refine List.pairwise_cons.2 ⟨fun e he => ?_, ih hr⟩
      rcases key_insertEntry he with hk | he
      · rw [hk]; exact Std.OrientedCmp.lt_of_gt hgt
      · exact hx e he

/-- Puts a value under a key, in place of the one that was there. An insertion under a key that is
there does not move it. -/
def insert (d : Dict κ ν) (k : κ) (v : ν) : Dict κ ν :=
  ⟨insertEntry k v d.entries, ascending_insertEntry d.ascending⟩

/-- Inserts entries one after another; of two with one key the later stays. Those that are not among
the new ones keep their values. -/
def insertMany (d : Dict κ ν) (l : List (κ × ν)) : Dict κ ν :=
  l.foldl (fun d e => d.insert e.1 e.2) d

/-- The dictionary of a list of entries; of two with one key the later stays. Look-ups in the list
find the first of them, so the two differ where a key is repeated. -/
def ofList (l : List (κ × ν)) : Dict κ ν := empty.insertMany l

/-- Lays the entries of one dictionary over another: where both have a key, the upper one's value
stays. It is the one way in which maps are merged here: sections of several files, properties with a
node's own fields. -/
def overlay (lower upper : Dict κ ν) : Dict κ ν := lower.insertMany upper.entries

omit [Std.TransOrd κ] [Std.LawfulEqOrd κ] in
@[simp] theorem get_empty (k : κ) : (empty : Dict κ ν).get? k = none := rfl

omit [Std.TransOrd κ] in
theorem getEntry_insertEntry (k k' : κ) (v : ν) (l : List (κ × ν))
    (h : l.Pairwise (fun a b => compare a.1 b.1 = .lt)) :
    getEntry k' (insertEntry k v l)
      = if compare k' k = .eq then some v else getEntry k' l := by
  induction l with
  | nil => simp [insertEntry, getEntry]
  | cons x rest ih =>
    obtain ⟨a, b⟩ := x
    obtain ⟨hx, hr⟩ := List.pairwise_cons.1 h
    simp only [insertEntry]
    split
    · simp [getEntry]
    · rename_i heq
      have : k = a := Std.LawfulEqOrd.eq_of_compare heq
      subst this
      by_cases hk : compare k' k = .eq <;> simp [getEntry, hk]
    · rename_i hgt
      simp only [getEntry, ih hr]
      by_cases hk : compare k' k = .eq
      · have : k' = k := Std.LawfulEqOrd.eq_of_compare hk
        subst this
        simp [hgt]
      · simp [hk]

/-- A look-up after an insertion finds the new value under its key and the old ones elsewhere. -/
theorem get_insert (d : Dict κ ν) (k k' : κ) (v : ν) :
    (d.insert k v).get? k' = if compare k' k = .eq then some v else d.get? k' :=
  getEntry_insertEntry k k' v d.entries d.ascending

@[simp] theorem get_insert_self (d : Dict κ ν) (k : κ) (v : ν) :
    (d.insert k v).get? k = some v := by
  simp [get_insert]

theorem get_insert_ne (d : Dict κ ν) {k k' : κ} (v : ν) (h : k' ≠ k) :
    (d.insert k v).get? k' = d.get? k' := by
  have : compare k' k ≠ .eq := fun he => h (Std.LawfulEqOrd.eq_of_compare he)
  simp [get_insert, this]

omit [Std.TransOrd κ] in
theorem getEntry_filter_key (k : κ) (keep : κ → Bool) (l : List (κ × ν)) :
    getEntry k (l.filter (fun e => keep e.1)) = if keep k then getEntry k l else none := by
  induction l with
  | nil => simp [getEntry]
  | cons x rest ih =>
    obtain ⟨a, b⟩ := x
    by_cases hk : compare k a = .eq
    · have : k = a := Std.LawfulEqOrd.eq_of_compare hk
      subst this
      by_cases hp : keep k = true
      · simp [List.filter, hp, getEntry]
      · simp only [Bool.not_eq_true] at hp
        simp [List.filter, hp, ih]
    · by_cases hp : keep a = true
      · simp [List.filter, hp, getEntry, hk, ih]
      · simp only [Bool.not_eq_true] at hp
        simp [List.filter, hp, getEntry, hk, ih]

omit [Std.TransOrd κ] in
/-- A look-up after a removal finds nothing under that key and the old values elsewhere. -/
theorem get_erase (d : Dict κ ν) (k k' : κ) :
    (d.erase k).get? k' = if compare k' k = .eq then none else d.get? k' := by
  have := getEntry_filter_key (ν := ν) k' (fun x => compare x k != .eq) d.entries
  by_cases hk : compare k' k = .eq <;> simp_all [erase, filter, get?]

omit [Std.TransOrd κ] in
/-- A look-up in a dictionary filtered by key. -/
theorem get_filter_key (d : Dict κ ν) (keep : κ → Bool) (k : κ) :
    (d.filter (fun k _ => keep k)).get? k = if keep k then d.get? k else none :=
  getEntry_filter_key k keep d.entries

omit [Std.TransOrd κ] in
/-- A look-up after the values were changed. -/
theorem get_mapValues {μ : Type} (d : Dict κ ν) (f : κ → ν → μ) (k : κ) :
    (d.mapValues f).get? k = (d.get? k).map (f k) := by
  simp only [get?, mapValues]
  induction d.entries with
  | nil => rfl
  | cons x rest ih =>
    obtain ⟨a, b⟩ := x
    by_cases hk : compare k a = .eq
    · have : k = a := Std.LawfulEqOrd.eq_of_compare hk
      subst this
      simp [getEntry]
    · simp [getEntry, hk, ih]

omit [Std.TransOrd κ] [Std.LawfulEqOrd κ] in
theorem getEntry_eq_none_of_lt {k : κ} {l : List (κ × ν)}
    (h : ∀ e ∈ l, compare k e.1 = .lt) : getEntry k l = none := by
  induction l with
  | nil => rfl
  | cons x rest ih =>
    have hx := h x (by simp)
    simp [getEntry, hx, ih (fun e he => h e (by simp [he]))]

omit [Std.TransOrd κ] in
theorem mem_of_getEntry {k : κ} {v : ν} {l : List (κ × ν)}
    (h : getEntry k l = some v) : (k, v) ∈ l := by
  induction l with
  | nil => simp [getEntry] at h
  | cons x rest ih =>
    obtain ⟨a, b⟩ := x
    simp only [getEntry] at h
    split at h
    · rename_i heq
      have : k = a := Std.LawfulEqOrd.eq_of_compare heq
      simp_all
    · simp [ih h]

theorem getEntry_of_mem {k : κ} {v : ν} {l : List (κ × ν)}
    (hl : l.Pairwise (fun a b => compare a.1 b.1 = .lt)) (h : (k, v) ∈ l) :
    getEntry k l = some v := by
  induction l with
  | nil => simp at h
  | cons x rest ih =>
    obtain ⟨a, b⟩ := x
    obtain ⟨hx, hr⟩ := List.pairwise_cons.1 hl
    rcases List.mem_cons.1 h with he | h
    · cases he; simp [getEntry]
    · have hlt : compare a k = .lt := hx (k, v) h
      have : compare k a ≠ .eq := by
        rw [Std.OrientedOrd.eq_swap (a := k) (b := a), hlt]; simp
      simp [getEntry, this, ih hr h]

/-- The entries are exactly the pairs of a key and the value found under it. -/
theorem mem_entries_iff (d : Dict κ ν) (k : κ) (v : ν) :
    (k, v) ∈ d.entries ↔ d.get? k = some v :=
  ⟨getEntry_of_mem d.ascending, mem_of_getEntry⟩

theorem entries_eq_of_getEntry {l m : List (κ × ν)}
    (hl : l.Pairwise (fun a b => compare a.1 b.1 = .lt))
    (hm : m.Pairwise (fun a b => compare a.1 b.1 = .lt))
    (h : ∀ k, getEntry k l = getEntry k m) : l = m := by
  induction l generalizing m with
  | nil =>
    cases m with
    | nil => rfl
    | cons x _ => have := h x.1; simp [getEntry] at this
  | cons x l ih =>
    obtain ⟨a, b⟩ := x
    obtain ⟨hx, hl'⟩ := List.pairwise_cons.1 hl
    cases m with
    | nil => have := h a; simp [getEntry] at this
    | cons y m =>
      obtain ⟨a', b'⟩ := y
      obtain ⟨hy, hm'⟩ := List.pairwise_cons.1 hm
      have hkey : compare a a' = .eq := by
        rcases hc : compare a a' with _ | _ | _
        · have h1 := h a
          have hn : getEntry a m = none := getEntry_eq_none_of_lt
            (fun e he => Std.TransCmp.lt_trans hc (hy e he))
          simp [getEntry, hc, hn] at h1
        · rfl
        · have hc' : compare a' a = .lt := Std.OrientedCmp.lt_of_gt hc
          have h1 := h a'
          have hn : getEntry a' l = none := getEntry_eq_none_of_lt
            (fun e he => Std.TransCmp.lt_trans hc' (hx e he))
          simp [getEntry, hc', hn] at h1
      have haa : a = a' := Std.LawfulEqOrd.eq_of_compare hkey
      subst haa
      have hbb : b = b' := by have := h a; simpa [getEntry] using this
      subst hbb
      congr 1
      refine ih hl' hm' (fun k => ?_)
      by_cases hk : compare k a = .eq
      · have : k = a := Std.LawfulEqOrd.eq_of_compare hk
        subst this
        rw [getEntry_eq_none_of_lt hx, getEntry_eq_none_of_lt hy]
      · have := h k
        simpa [getEntry, hk] using this

/-- After many insertions the last one of a key is found, if the keys ascend. -/
theorem get_insertMany (d : Dict κ ν) {l : List (κ × ν)}
    (h : l.Pairwise (fun a b => compare a.1 b.1 = .lt)) (k : κ) :
    (d.insertMany l).get? k = (getEntry k l).or (d.get? k) := by
  induction l generalizing d with
  | nil => simp [insertMany, getEntry]
  | cons x rest ih =>
    obtain ⟨a, b⟩ := x
    obtain ⟨hx, hr⟩ := List.pairwise_cons.1 h
    have step : d.insertMany ((a, b) :: rest) = (d.insert a b).insertMany rest := rfl
    rw [step, ih _ hr, get_insert]
    by_cases hk : compare k a = .eq
    · have : k = a := Std.LawfulEqOrd.eq_of_compare hk
      subst this
      simp [getEntry, getEntry_eq_none_of_lt hx]
    · simp [getEntry, hk]

/-- A look-up in one dictionary laid over another: the upper one comes first. -/
@[simp] theorem get_overlay (lower upper : Dict κ ν) (k : κ) :
    (lower.overlay upper).get? k = (upper.get? k).or (lower.get? k) :=
  get_insertMany lower upper.ascending k

/-- **A dictionary is its look-ups.** -/
theorem ext_get {d e : Dict κ ν} (h : ∀ k, d.get? k = e.get? k) : d = e :=
  ext_entries (entries_eq_of_getEntry d.ascending e.ascending h)

end Lawful

end Dict

end Testbed

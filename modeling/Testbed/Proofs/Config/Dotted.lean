import Mathlib.Data.List.Lex
import Testbed.Proofs.Config.Layers
import Testbed.Proofs.Dict
import Testbed.Proofs.Outcome
import Testbed.Proofs.Toml.Tables

/-!
# Tables under dotted names

The tables of a text form a tree, and the sections of a configuration stand side by side. A table
gives its section its path with dots, and this is where something can be lost: the paths of two
tables may be written alike. A key in quotes may have a dot in it, and a table may be called as the
outermost one is, `DEFAULT`.

Then the tables share a section, and of two values under one key one is gone. Which one stays is not
a matter of the text but of how the keys compare: tables are emptied in the order of their keys, so
the value that stands last in this order counts (`Foremost`). Nothing is lost exactly if tables that
share a name agree on the keys that they share, and in particular if no table's key has a dot in it
and none is called `DEFAULT` (`flattened`).

For the proof the tree is written out as the list of its leaves. Emptying it writes them one after
another, and the list is in lexicographic order because the keys of every table ascend.

There is a second way to lose something that is not a loss in this sense. A section of the text may
share its name with a section that an earlier file gave, and then both are laid over each other as
layers are. Here only one text is looked at, and the sections that were there before are kept in the
statements so that they can be used for any text of several.
-/

namespace Testbed

namespace Toml

/-! ## Tables in tables

A table is looked at as a tree, whose leaves are the values that are no tables. A leaf has a path of
keys and a key of its own, and every value that a table holds anywhere is one of its leaves. -/

/-- **A table stands at a path** below some entries. The path has the keys as they are, with dots in
them if they have any, so different tables stand at different paths. -/
inductive TableAt : List (String × Toml) → List String → List (String × Toml) → Prop
  | here (entries : List (String × Toml)) : TableAt entries [] entries
  | within {entries inner found : List (String × Toml)} {key : String} {path : List String}
      (h : (key, .table inner) ∈ entries) (hrest : TableAt inner path found) :
      TableAt entries (key :: path) found

/-- **The table at a path has a value under a key** that is no table. A table under the key is not a
value, since it becomes a section of its own. -/
def Holds (entries : List (String × Toml)) (path : List String) (key : String) (v : Toml) : Prop :=
  ∃ found, TableAt entries path found ∧ (key, v) ∈ found ∧ v.isTable = false

/-- A path of keys comes before another one. A path comes before those that it is a beginning of. -/
def Before (a b : List String) : Prop := List.Lex (fun a b => compare a b = .lt) a b

/-- A value with the place where it stands. The value is no table. -/
structure Leaf where
  path : List String
  key : String
  value : Toml

/-- The path to a leaf, its key included. It is what leaves are ordered by. -/
def Leaf.position (l : Leaf) : List String := l.path ++ [l.key]

mutual

/-- The leaves of a table at a path, in the order of its entries. Entries without a leaf in them
leave no trace. -/
def leaves (path : List String) : List (String × Toml) → List Leaf
  | [] => []
  | (key, v) :: rest => leavesOf path key v ++ leaves path rest

/-- The leaves of one entry. A table may have many and anything else has one. -/
def leavesOf (path : List String) (key : String) : Toml → List Leaf
  | .table entries => leaves (path ++ [key]) entries
  | v => [⟨path, key, v⟩]

end

section Leaves

variable {entries rest inner found : List (String × Toml)} {e : String × Toml} {key k : String}
  {v u : Toml} {path q : List String} {l : Leaf}

theorem leavesOf_plain (path : List String) (key : String) (h : v.isTable = false) :
    leavesOf path key v = [⟨path, key, v⟩] := by
  cases v with
  | table => cases h
  | _ => rfl

theorem tableAt_nil : TableAt entries [] found ↔ found = entries := by
  constructor
  · rintro ⟨⟩
    rfl
  · rintro rfl
    exact .here found

theorem tableAt_cons : TableAt entries (key :: q) found
    ↔ ∃ inner, (key, .table inner) ∈ entries ∧ TableAt inner q found := by
  constructor
  · intro h
    cases h with
    | within hmem hrest => exact ⟨_, hmem, hrest⟩
  · rintro ⟨inner, hmem, hrest⟩
    exact .within hmem hrest

/-- What is at a path below several entries is below one of them. It is how properties of a table
are reduced to those of its entries. -/
theorem exists_tableAt_cons {P : List (String × Toml) → Prop}
    (hP : P (e :: rest) ↔ P [e] ∨ P rest) :
    (∃ found, TableAt (e :: rest) q found ∧ P found)
      ↔ (∃ found, TableAt [e] q found ∧ P found) ∨ ∃ found, TableAt rest q found ∧ P found := by
  cases q with
  | nil =>
    simp only [tableAt_nil, exists_eq_left]
    exact hP
  | cons first q =>
    have hsplit : ∀ found, TableAt (e :: rest) (first :: q) found
        ↔ TableAt [e] (first :: q) found ∨ TableAt rest (first :: q) found := by
      intro found
      rw [tableAt_cons, tableAt_cons, tableAt_cons, ← exists_or]
      refine exists_congr fun inner => ?_
      rw [← or_and_right, List.mem_cons, List.mem_singleton]
    rw [← exists_or]
    refine exists_congr fun found => ?_
    rw [hsplit, or_and_right]

theorem holds_cons :
    Holds (e :: rest) q k u ↔ Holds [e] q k u ∨ Holds rest q k u :=
  exists_tableAt_cons (by rw [List.mem_cons, List.mem_singleton, or_and_right])

theorem holds_table :
    Holds [(key, .table inner)] q k u ↔ ∃ q', q = key :: q' ∧ Holds inner q' k u := by
  constructor
  · rintro ⟨found, hat, hmem, hu⟩
    cases hat with
    | here =>
      cases List.mem_singleton.mp hmem
      cases hu
    | within h hrest =>
      cases List.mem_singleton.mp h
      exact ⟨_, rfl, found, hrest, hmem, hu⟩
  · rintro ⟨q', rfl, found, hat, hmem, hu⟩
    exact ⟨found, .within List.mem_cons_self hat, hmem, hu⟩

theorem holds_plain (h : v.isTable = false) :
    Holds [(key, v)] q k u ↔ q = [] ∧ k = key ∧ u = v := by
  constructor
  · rintro ⟨found, hat, hmem, hu⟩
    cases hat with
    | here =>
      cases List.mem_singleton.mp hmem
      exact ⟨rfl, rfl, rfl⟩
    | within hmem' =>
      cases List.mem_singleton.mp hmem'
      cases h
  · rintro ⟨rfl, rfl, rfl⟩
    exact ⟨_, .here _, List.mem_cons_self, h⟩

/-- The first key on the way to a leaf is one of the table. So a search for a leaf starts at one
entry. -/
theorem Holds.head (h : Holds entries q k u) :
    ∃ first v tail, (first, v) ∈ entries ∧ q ++ [k] = first :: tail := by
  obtain ⟨found, hat, hmem, -⟩ := h
  cases hat with
  | here => exact ⟨k, u, [], hmem, rfl⟩
  | within h => exact ⟨_, _, _, h, rfl⟩

theorem mem_leavesOf_plain (h : v.isTable = false) :
    l ∈ leavesOf path key v ↔ ∃ q, l.path = path ++ q ∧ Holds [(key, v)] q l.key l.value := by
  rw [leavesOf_plain path key h, List.mem_singleton]
  constructor
  · rintro rfl
    exact ⟨[], (List.append_nil path).symm, (holds_plain h).mpr ⟨rfl, rfl, rfl⟩⟩
  · rintro ⟨q, hpath, hholds⟩
    obtain ⟨rfl, hkey, hvalue⟩ := (holds_plain h).mp hholds
    rw [List.append_nil] at hpath
    rw [← hpath, ← hkey, ← hvalue]

mutual

/-- **The leaves are what the tables hold.** So the list is complete and has nothing else in it. The
path that the walk began with is in front of every path on the list. -/
theorem mem_leaves {path : List String} {entries : List (String × Toml)} {l : Leaf} :
    l ∈ leaves path entries ↔ ∃ q, l.path = path ++ q ∧ Holds entries q l.key l.value := by
  match entries with
  | [] =>
    refine iff_of_false List.not_mem_nil ?_
    rintro ⟨q, -, h⟩
    obtain ⟨first, v, tail, hmem, -⟩ := h.head
    cases hmem
  | (key, v) :: rest =>
    rw [leaves, List.mem_append, mem_leavesOf, mem_leaves, ← exists_or]
    refine exists_congr fun q => ?_
    rw [← and_or_left]
    exact and_congr_right fun _ => holds_cons.symm

theorem mem_leavesOf {path : List String} {key : String} {v : Toml} {l : Leaf} :
    l ∈ leavesOf path key v ↔ ∃ q, l.path = path ++ q ∧ Holds [(key, v)] q l.key l.value := by
  match v with
  | .table inner =>
    rw [leavesOf, mem_leaves]
    constructor
    · rintro ⟨q, hpath, h⟩
      exact ⟨key :: q, by rw [hpath, List.append_assoc]; rfl, holds_table.mpr ⟨q, rfl, h⟩⟩
    · rintro ⟨q, hpath, h⟩
      obtain ⟨q', rfl, h'⟩ := holds_table.mp h
      exact ⟨q', by rw [hpath, List.append_assoc]; rfl, h'⟩
  | .str _ | .int _ | .float _ | .bool _ | .datetime _ | .arr _ => exact mem_leavesOf_plain rfl

end

/-! ## Their order

Leaves come out in the order of their paths, as far as keys ascend at every depth. The comparison is
of whole paths, key by key, and not of dotted names. -/

instance : Std.Asymm (fun a b : String => compare a b = .lt) where
  asymm a b h h' := by
    rw [Std.OrientedOrd.eq_swap, h'] at h
    cases h

theorem Before.asymm {a b : List String} (h : Before a b) : ¬ Before b a :=
  List.Lex.asymm _ |>.asymm a b h

theorem Before.append_left {a b : List String} (h : Before a b) (path : List String) :
    Before (path ++ a) (path ++ b) :=
  List.Lex.append_left _ h path

mutual

/-- **The leaves of a tidy table are in lexicographic order.** A table is tidy if the keys of it and
of all tables in it ascend, and this is how tables are kept. The order compares paths, with the key
of the leaf at the end. -/
theorem leaves_ordered {path : List String} {entries : List (String × Toml)}
    (hkeys : Ascending entries) (h : ∀ e ∈ entries, e.2.Tidy) :
    (leaves path entries).Pairwise fun a b => Before a.position b.position := by
  match entries with
  | [] => exact .nil
  | (key, v) :: rest =>
    obtain ⟨hfirst, hrest⟩ := List.pairwise_cons.mp hkeys
    obtain ⟨hv, htidy⟩ := List.forall_mem_cons.mp h
    rw [leaves]
    refine List.pairwise_append.mpr ⟨leavesOf_ordered hv, leaves_ordered hrest htidy, ?_⟩
    -- a leaf of the first entry parts from one of the others at their first keys
    intro a ha b hb
    obtain ⟨q, hq, hholds⟩ := mem_leavesOf.mp ha
    obtain ⟨q', hq', hholds'⟩ := mem_leaves.mp hb
    obtain ⟨first, u, tail, hmem, hpos⟩ := hholds.head
    obtain ⟨first', u', tail', hmem', hpos'⟩ := hholds'.head
    cases List.mem_singleton.mp hmem
    unfold Leaf.position
    rw [hq, hq', List.append_assoc, List.append_assoc, hpos, hpos']
    exact Before.append_left (.rel (hfirst _ hmem')) path

theorem leavesOf_ordered {path : List String} {key : String} {v : Toml} (h : v.Tidy) :
    (leavesOf path key v).Pairwise fun a b => Before a.position b.position := by
  match v, h with
  | .table inner, .table hkeys hinner =>
    rw [leavesOf]
    exact leaves_ordered hkeys hinner
  | v, .plain hv =>
    rw [leavesOf_plain path key hv]
    exact List.pairwise_singleton _ _

end

end Leaves

end Toml

namespace Sections

open Toml (TableAt Holds Before Leaf leaves leavesOf Ascending Tidy)

/-! ## Dotted names

The name of a section is its path with dots between the keys. Keys that hold dots themselves make
two paths look alike, and only then. -/

/-- **The name of the section of the table at a path.** It is the empty path only that gets the
fallback's name, and a table called so shares its section. -/
def dotted : List String → String
  | [] => fallback
  | path => ".".intercalate path

/-- The name as it is handed down while tables are emptied: the outermost table has none. It is the
form in which the loop passes on where it is. -/
def handed : List String → Option String
  | [] => none
  | path => some (".".intercalate path)

theorem getD_handed (path : List String) : (handed path).getD fallback = dotted path := by
  cases path <;> rfl

theorem handed_concat (path : List String) (key : String) :
    handed (path ++ [key]) = some (below (handed path) key) := by
  cases path with
  | nil => exact congrArg some String.intercalate_singleton
  | cons first rest =>
    refine congrArg some ?_
    show ".".intercalate ((first :: rest) ++ [key]) = _
    rw [String.intercalate_append_of_ne_nil (List.cons_ne_nil _ _) (List.cons_ne_nil _ _),
      String.intercalate_singleton]
    rfl

theorem dotted_concat (path : List String) (key : String) :
    dotted (path ++ [key]) = below (handed path) key := by
  rw [← getD_handed, handed_concat]
  rfl

/-- A path that is read off its dotted name: no key has a dot, and the table is not called as the
outermost one is. -/
structure Undotted (path : List String) : Prop where
  keys : ∀ key ∈ path, '.' ∉ key.toList
  ne : path ≠ [fallback]

theorem intercalate_inj {path path' : List String} (h : ∀ key ∈ path, '.' ∉ key.toList)
    (h' : ∀ key ∈ path', '.' ∉ key.toList) (hne : path ≠ []) (hne' : path' ≠ [])
    (heq : ".".intercalate path = ".".intercalate path') : path = path' := by
  have hsplit : ∀ p : List String, (∀ key ∈ p, '.' ∉ key.toList) → p ≠ [] →
      ((".".intercalate p).toList).splitOn '.' = p.map String.toList := by
    intro p hp hne
    rw [String.toList_intercalate]
    exact List.splitOn_intercalate '.' (List.forall_mem_map.mpr hp) (mt List.map_eq_nil_iff.mp hne)
  refine List.map_injective_iff.mpr (fun a b => String.toList_inj.mp) ?_
  rw [← hsplit path h hne, ← hsplit path' h' hne', heq]

/-- **Undotted paths have different names.** The dots of the name can then only be those between the
keys. -/
theorem dotted_inj {path path' : List String} (h : Undotted path) (h' : Undotted path')
    (heq : dotted path = dotted path') : path = path' := by
  have hfallback : ∀ key ∈ [fallback], '.' ∉ key.toList := by decide
  have hdefault : fallback = ".".intercalate [fallback] := String.intercalate_singleton.symm
  cases path with
  | nil =>
    cases path' with
    | nil => rfl
    | cons first rest =>
      exact absurd (intercalate_inj hfallback h'.keys (List.cons_ne_nil _ _) (List.cons_ne_nil _ _)
        (hdefault.symm.trans heq)).symm h'.ne
  | cons first rest =>
    cases path' with
    | nil =>
      exact absurd (intercalate_inj h.keys hfallback (List.cons_ne_nil _ _) (List.cons_ne_nil _ _)
        (heq.trans hdefault)) h.ne
    | cons first' rest' =>
      exact intercalate_inj h.keys h'.keys (List.cons_ne_nil _ _) (List.cons_ne_nil _ _) heq

/-! ## Emptying

What the loop over entries does, leaf by leaf: each leaf writes one key of one section, and the last
to write is the one whose value stays. -/

/-- What is under a key of a section after leaves were written, from what was there before. The
leaves are taken in the order in which they are written. -/
def latest (name key : String) (l : List Leaf) (before : Option Toml) : Option Toml :=
  l.foldl (fun v leaf => if name = dotted leaf.path ∧ key = leaf.key then some leaf.value else v)
    before

theorem latest_append (name key : String) (a b : List Leaf) (before : Option Toml) :
    latest name key (a ++ b) before = latest name key b (latest name key a before) :=
  List.foldl_append

theorem addEntry_plain {v : Toml} (name : Option String) (key : String) (h : v.isTable = false)
    (s : Sections) : addEntry name key v s = s.set (name.getD fallback) key v := by
  cases v with
  | table => cases h
  | _ => rfl

theorem get_addEntry_plain {v : Toml} (h : v.isTable = false) (path : List String)
    (key : String) (s : Sections) (name k : String) :
    ((addEntry (handed path) key v s).named name).get? k
      = latest name k (leavesOf path key v) ((s.named name).get? k) := by
  rw [addEntry_plain _ _ h, get_named_set, getD_handed, Toml.leavesOf_plain path key h]
  rfl

mutual

/-- **Emptying a table writes its leaves, one after another.** By induction over the table, with the
section so far in hand. An entry that is a table is emptied into the section of the longer path and
an entry that is a value is written at once, so the walk is the list of the leaves in their order.
-/
theorem get_addTable (path : List String) (entries : List (String × Toml)) (s : Sections)
    (name k : String) :
    ((addTable (handed path) entries s).named name).get? k
      = latest name k (leaves path entries) ((s.named name).get? k) := by
  match entries with
  | [] => rfl
  | (key, v) :: rest =>
    rw [addTable, get_addTable, get_addEntry, leaves, latest_append]

theorem get_addEntry (path : List String) (key : String) (v : Toml) (s : Sections)
    (name k : String) :
    ((addEntry (handed path) key v s).named name).get? k
      = latest name k (leavesOf path key v) ((s.named name).get? k) := by
  match v with
  | .table inner =>
    rw [addEntry, ← handed_concat, get_addTable, named_ensure, leavesOf]
  | .str _ | .int _ | .float _ | .bool _ | .datetime _ | .arr _ => exact get_addEntry_plain rfl ..

end

/-- Leaves under other keys and names change nothing. The value before is kept. -/
theorem latest_of_none {name key : String} {l : List Leaf}
    (h : ∀ leaf ∈ l, ¬ (name = dotted leaf.path ∧ key = leaf.key)) (before : Option Toml) :
    latest name key l before = before := by
  induction l generalizing before with
  | nil => rfl
  | cons first rest ih =>
    obtain ⟨hfirst, hrest⟩ := List.forall_mem_cons.mp h
    show latest name key rest (if _ then _ else _) = before
    rw [if_neg hfirst, ih hrest]

/-- **Of the leaves under a key and a name, the last one is left.** It is not assumed that there is
only one such leaf. That is the point: of all leaves that are written to the same place the last one
in the order is found there. -/
theorem exists_latest {name key : String} {l : List Leaf}
    (hordered : l.Pairwise fun a b => Before a.position b.position)
    (h : ∃ leaf ∈ l, name = dotted leaf.path ∧ key = leaf.key) :
    ∃ leaf ∈ l, (name = dotted leaf.path ∧ key = leaf.key)
      ∧ (∀ before, latest name key l before = some leaf.value)
      ∧ ∀ other ∈ l, name = dotted other.path ∧ key = other.key →
        other = leaf ∨ Before other.position leaf.position := by
  induction l with
  | nil =>
    obtain ⟨leaf, hmem, -⟩ := h
    cases hmem
  | cons first rest ih =>
    obtain ⟨hfirst, hrest⟩ := List.pairwise_cons.mp hordered
    by_cases hlater : ∃ leaf ∈ rest, name = dotted leaf.path ∧ key = leaf.key
    · obtain ⟨leaf, hmem, hunder, hlatest, hlast⟩ := ih hrest hlater
      refine ⟨leaf, List.mem_cons_of_mem _ hmem, hunder, fun before => hlatest _, ?_⟩
      exact List.forall_mem_cons.mpr ⟨fun _ => .inr (hfirst leaf hmem), hlast⟩
    · have hnone : ∀ leaf ∈ rest, ¬ (name = dotted leaf.path ∧ key = leaf.key) :=
        fun leaf hmem hunder => hlater ⟨leaf, hmem, hunder⟩
      obtain ⟨leaf, hmem, hunder⟩ := h
      obtain rfl | hmem := List.mem_cons.mp hmem
      · refine ⟨leaf, List.mem_cons_self, hunder, fun before => ?_, ?_⟩
        · show latest name key rest (if _ then _ else _) = _
          rw [if_pos hunder, latest_of_none hnone]
        · exact List.forall_mem_cons.mpr
            ⟨fun _ => .inl rfl, fun other hother hu => absurd hu (hnone other hother)⟩
      · exact absurd hunder (hnone leaf hmem)

/-! ## Which sections there are

A table makes a section even if nothing is in it, so what sections there are is not told by the
leaves. -/

/-- Entries give rise to a section of a name: it is that of a table below them, or of the table
that they are in, which has a value of its own. -/
def Raises (path : List String) (entries : List (String × Toml)) (name : String) : Prop :=
  ∃ q, dotted (path ++ q) = name
    ∧ ∃ found, TableAt entries q found ∧ (q ≠ [] ∨ ∃ e ∈ found, e.2.isTable = false)

section Raises

variable {path : List String} {entries rest inner : List (String × Toml)} {e : String × Toml}
  {key name : String} {v : Toml} {s : Sections}

theorem raises_cons :
    Raises path (e :: rest) name ↔ Raises path [e] name ∨ Raises path rest name := by
  unfold Raises
  rw [← exists_or]
  refine exists_congr fun q => ?_
  rw [← and_or_left]
  refine and_congr_right fun _ => Toml.exists_tableAt_cons ?_
  rw [← or_or_distrib_left]
  refine or_congr_right ?_
  simp only [List.mem_cons, List.not_mem_nil, or_false, or_and_right, exists_or, exists_eq_left]

theorem raises_nil : ¬ Raises path [] name := by
  rintro ⟨q, -, found, hat, hq⟩
  cases hat with
  | here =>
    obtain ⟨e, hmem, -⟩ := hq.resolve_left (not_not_intro rfl)
    cases hmem
  | within h => cases h

theorem raises_plain (h : v.isTable = false) :
    Raises path [(key, v)] name ↔ dotted path = name := by
  constructor
  · rintro ⟨q, hname, found, hat, -⟩
    cases hat with
    | here => rwa [List.append_nil] at hname
    | within hmem =>
      cases List.mem_singleton.mp hmem
      cases h
  · intro hname
    exact ⟨[], by rwa [List.append_nil], _, .here _, .inr ⟨_, List.mem_cons_self, h⟩⟩

/-- A table raises its own section, and what is in it raises sections. It raises its own section
before anything in it is looked at. -/
theorem raises_table : Raises path [(key, .table inner)] name
    ↔ dotted (path ++ [key]) = name ∨ Raises (path ++ [key]) inner name := by
  constructor
  · rintro ⟨q, hname, found, hat, hq⟩
    cases hat with
    | here =>
      obtain ⟨e, hmem, hplain⟩ := hq.resolve_left (not_not_intro rfl)
      cases List.mem_singleton.mp hmem
      cases hplain
    | @within _ _ _ _ q hmem hrest =>
      cases List.mem_singleton.mp hmem
      rw [List.append_cons] at hname
      cases q with
      | nil => exact .inl (by rwa [List.append_nil] at hname)
      | cons first q => exact .inr ⟨_, hname, found, hrest, .inl (List.cons_ne_nil _ _)⟩
  · rintro (hname | ⟨q, hname, found, hat, -⟩)
    · exact ⟨[key], hname, inner, .within List.mem_cons_self (.here _), .inl (List.cons_ne_nil _ _)⟩
    · exact ⟨key :: q, by rwa [List.append_cons], found, .within List.mem_cons_self hat,
        .inl (List.cons_ne_nil _ _)⟩

theorem contains_addEntry_plain (h : v.isTable = false) (path : List String) (key : String)
    (s : Sections) (name : String) :
    (addEntry (handed path) key v s).contains name = true
      ↔ s.contains name = true ∨ Raises path [(key, v)] name := by
  rw [addEntry_plain _ _ h, set, Dict.contains_insert, getD_handed, raises_plain h, or_comm]
  exact or_congr_right eq_comm

mutual

/-- **The sections after a table was emptied.** A table other than the outermost one makes a section
even if it is empty, or has only tables in it. -/
theorem contains_addTable (path : List String) (entries : List (String × Toml)) (s : Sections)
    (name : String) :
    (addTable (handed path) entries s).contains name = true
      ↔ s.contains name = true ∨ Raises path entries name := by
  match entries with
  | [] => exact (or_iff_left raises_nil).symm
  | (key, v) :: rest =>
    rw [addTable, contains_addTable, contains_addEntry, or_assoc]
    exact or_congr_right raises_cons.symm

theorem contains_addEntry (path : List String) (key : String) (v : Toml) (s : Sections)
    (name : String) :
    (addEntry (handed path) key v s).contains name = true
      ↔ s.contains name = true ∨ Raises path [(key, v)] name := by
  match v with
  | .table inner =>
    rw [addEntry, ← handed_concat, contains_addTable, ensure, Dict.contains_insert, raises_table,
      dotted_concat, or_assoc, or_left_comm]
    exact or_congr_right (or_congr_left eq_comm)
  | .str _ | .int _ | .float _ | .bool _ | .datetime _ | .arr _ =>
    exact contains_addEntry_plain rfl ..

end

end Raises

/-! ## What is lost

Values are lost exactly where two leaves write the same key of the same section. Which of them stays
is the later one in the order of paths. -/

/-- **The value that counts** under a key, of the tables with a name: it stands last in the order of
the keys on its path. All tables with the name that have the key are compared, by their paths with
the key at the end. -/
def Foremost (entries : List (String × Toml)) (name key : String) (v : Toml) : Prop :=
  ∃ path, dotted path = name ∧ Holds entries path key v
    ∧ ∀ path' v', dotted path' = name → Holds entries path' key v' →
      path' = path ∨ Before (path' ++ [key]) (path ++ [key])

/-- **Nothing is lost**: the section of every table holds its values. Tables may share a section
without any loss, as long as none of them overwrites a value of another. -/
def Kept (entries : List (String × Toml)) (s : Sections) : Prop :=
  ∀ path key v, Holds entries path key v → (s.named (dotted path)).get? key = some v

/-- **Tables that share a name agree** on the keys that they share. If all paths of a text are
undotted, tables that share a name are the same table, by `dotted_inj`. -/
def Agree (entries : List (String × Toml)) : Prop :=
  ∀ path path' key v v', Holds entries path key v → Holds entries path' key v' →
    dotted path = dotted path' → v = v'

/-- **What becomes of tables that are emptied into sections**: the sections that were there before,
against those that are there after. The sections before are not empty in general, because several
files are emptied into one map. Where the text has nothing to say about a key, what was there stays.
-/
structure Flattened (entries : List (String × Toml)) (before after : Sections) : Prop where
  /-- Of the values under a key in the tables with a name, the last one counts. -/
  foremost : ∀ name key v, Foremost entries name key v → (after.named name).get? key = some v
  /-- There is one if there are any. -/
  exists_foremost : ∀ path key v, Holds entries path key v →
    ∃ v', Foremost entries (dotted path) key v'
  /-- Where there are none, everything is as before. -/
  others : ∀ name key, (∀ path v, Holds entries path key v → dotted path ≠ name) →
    (after.named name).get? key = (before.named name).get? key
  /-- Nothing is lost exactly if tables that share a name agree. -/
  kept_iff : Kept entries after ↔ Agree entries
  /-- Tables without dots in their keys share no name. -/
  undotted : (∀ path found, TableAt entries path found → Undotted path) → Kept entries after
  /-- Every table has its section, the outermost one if it has a value, and there are no others but
  those from before. -/
  contains : ∀ name, after.contains name = true ↔ before.contains name = true
    ∨ (∃ path found, path ≠ [] ∧ TableAt entries path found ∧ dotted path = name)
    ∨ name = fallback ∧ ∃ e ∈ entries, e.2.isTable = false

section Flattened

variable {entries found found' : List (String × Toml)} {name key : String} {v v' : Toml}
  {path : List String}

theorem tidy_table_iff :
    Tidy (.table entries) ↔ Ascending entries ∧ ∀ e ∈ entries, e.2.Tidy := by
  constructor
  · intro h
    cases h with
    | table hkeys h => exact ⟨hkeys, h⟩
    | plain h => cases h
  · exact fun h => .table h.1 h.2

/-- In tidy tables a path leads to one table, whose keys ascend. Where a key could stand twice there
might be two. -/
theorem tableAt_unique (h : Tidy (.table entries)) (hat : TableAt entries path found)
    (hat' : TableAt entries path found') : found' = found ∧ Ascending found := by
  induction hat with
  | here => exact ⟨Toml.tableAt_nil.mp hat', (tidy_table_iff.mp h).1⟩
  | within hmem _ ih =>
    obtain ⟨inner, hmem', hrest⟩ := Toml.tableAt_cons.mp hat'
    obtain ⟨hkeys, htidy⟩ := tidy_table_iff.mp h
    have hentry := (Dict.getEntry_of_mem hkeys hmem).symm.trans (Dict.getEntry_of_mem hkeys hmem')
    cases hentry
    exact ih (htidy _ hmem) hrest

/-- In tidy tables there is one value under a path and a key. It is the uniqueness of tables, one
key further. -/
theorem holds_unique (h : Tidy (.table entries)) (hv : Holds entries path key v)
    (hv' : Holds entries path key v') : v = v' := by
  obtain ⟨found, hat, hmem, -⟩ := hv
  obtain ⟨found', hat', hmem', -⟩ := hv'
  obtain ⟨rfl, hkeys⟩ := tableAt_unique h hat hat'
  exact Option.some.inj
    ((Dict.getEntry_of_mem hkeys hmem).symm.trans (Dict.getEntry_of_mem hkeys hmem'))

theorem mem_leaves_nil {l : Leaf} : l ∈ leaves [] entries ↔ Holds entries l.path l.key l.value := by
  rw [Toml.mem_leaves]
  simp only [List.nil_append, exists_eq_left']

/-- The leaf that is left is that of the value that counts. It is the last of those that are written
under the same key of the same section. -/
theorem exists_leaf (h : Tidy (.table entries)) (hv : Holds entries path key v) :
    ∃ leaf : Leaf, Holds entries leaf.path key leaf.value ∧ dotted leaf.path = dotted path
      ∧ (∀ before, latest (dotted path) key (leaves [] entries) before = some leaf.value)
      ∧ ∀ path' v', dotted path' = dotted path → Holds entries path' key v' →
        path' = leaf.path ∨ Before (path' ++ [key]) (leaf.path ++ [key]) := by
  obtain ⟨hkeys, htidy⟩ := tidy_table_iff.mp h
  obtain ⟨leaf, hmem, ⟨hname, rfl⟩, hlatest, hlast⟩ :=
    exists_latest (Toml.leaves_ordered hkeys htidy)
      ⟨⟨path, key, v⟩, mem_leaves_nil.mpr hv, rfl, rfl⟩
  refine ⟨leaf, mem_leaves_nil.mp hmem, hname.symm, hlatest, fun path' v' hname' hv' => ?_⟩
  exact (hlast ⟨path', leaf.key, v'⟩ (mem_leaves_nil.mpr hv') ⟨hname'.symm, rfl⟩).imp_left
    (congrArg Leaf.path)

theorem exists_foremost (h : Tidy (.table entries)) (hv : Holds entries path key v) :
    ∃ v', Foremost entries (dotted path) key v' := by
  obtain ⟨leaf, hleaf, hname, -, hlast⟩ := exists_leaf h hv
  exact ⟨leaf.value, leaf.path, hname, hleaf, hlast⟩

theorem latest_of_foremost (h : Tidy (.table entries)) (hv : Foremost entries name key v)
    (before : Option Toml) : latest name key (leaves [] entries) before = some v := by
  obtain ⟨path, rfl, hholds, hlast⟩ := hv
  obtain ⟨leaf, hleaf, hname, hlatest, hlast'⟩ := exists_leaf h hholds
  -- neither of the two places comes before the other, so they are one
  have hpath : leaf.path = path := by
    refine (hlast leaf.path leaf.value hname hleaf).resolve_right fun hbefore => ?_
    obtain heq | hbefore' := hlast' path v rfl hholds
    · rw [heq] at hbefore
      exact hbefore.asymm hbefore
    · exact hbefore.asymm hbefore'
  rw [hpath] at hleaf
  rw [hlatest, holds_unique h hleaf hholds]

theorem raises_iff : Raises [] entries name
    ↔ (∃ path found, path ≠ [] ∧ TableAt entries path found ∧ dotted path = name)
      ∨ name = fallback ∧ ∃ e ∈ entries, e.2.isTable = false := by
  constructor
  · rintro ⟨q, hname, found, hat, hq⟩
    cases q with
    | nil =>
      obtain rfl := Toml.tableAt_nil.mp hat
      exact .inr ⟨hname.symm, hq.resolve_left (not_not_intro rfl)⟩
    | cons first q => exact .inl ⟨_, found, List.cons_ne_nil _ _, hat, hname⟩
  · rintro (⟨path, found, hne, hat, hname⟩ | ⟨rfl, hplain⟩)
    · exact ⟨path, hname, found, hat, .inl hne⟩
    · exact ⟨[], rfl, entries, .here _, .inr hplain⟩

/-- **Tidy tables are flattened.** The assumption holds of all tables that were read from a text. -/
theorem flattened_of_tidy (h : Tidy (.table entries)) (before : Sections) :
    Flattened entries before (addTable none entries before) := by
  have hget : ∀ name key, ((addTable none entries before).named name).get? key
      = latest name key (leaves [] entries) ((before.named name).get? key) :=
    get_addTable [] entries before
  have hforemost : ∀ name key v, Foremost entries name key v →
      ((addTable none entries before).named name).get? key = some v :=
    fun name key v hv => (hget name key).trans (latest_of_foremost h hv _)
  have hkept : Agree entries → Kept entries (addTable none entries before) := by
    intro hagree path key v hv
    obtain ⟨v', hv'⟩ := exists_foremost h hv
    obtain ⟨path', hname, hholds, -⟩ := id hv'
    rw [hagree path path' key v v' hv hholds hname.symm]
    exact hforemost _ _ _ hv'
  exact {
    foremost := hforemost
    exists_foremost := fun path key v => exists_foremost h
    others := by
      intro name key hnone
      rw [hget, latest_of_none]
      rintro leaf hmem ⟨hname, rfl⟩
      exact hnone leaf.path leaf.value (mem_leaves_nil.mp hmem) hname.symm
    kept_iff := by
      refine ⟨fun hkept path path' key v v' hv hv' hname => ?_, hkept⟩
      have hfound := hkept path key v hv
      rw [hname, hkept path' key v' hv'] at hfound
      exact (Option.some.inj hfound).symm
    undotted := by
      intro hundotted
      refine hkept fun path path' key v v' hv hv' hname => ?_
      obtain ⟨found, hat, -⟩ := id hv
      obtain ⟨found', hat', -⟩ := id hv'
      obtain rfl := dotted_inj (hundotted path found hat) (hundotted path' found' hat') hname
      exact holds_unique h hv hv'
    contains := fun name =>
      (contains_addTable [] entries before name).trans (or_congr_right raises_iff) }

end Flattened

end Sections

namespace Config

open Sections (Flattened)

/-- **What becomes of the tables of a text**, whatever sections there were before: a value is found
in the section of its table unless another table of the same name has the key and stands later. Any
text is meant that can be read, with tables in any number and at any depth, and with keys of any
kind. -/
theorem flattened {text : String} {table : Dict String Toml} (h : Toml.read text = .ok table)
    (before : Sections) : Flattened table.entries before (before.addDocument table) :=
  Sections.flattened_of_tidy (Toml.tidy_of_read h) before

/-- Tables in tables, one of them without entries. The table without entries is there as a section.
-/
theorem nested_tables_flattened :
    ∃ table, Toml.read "rpc = 1\n[compute.a]\nhost = 'h'\n[compute.b]\n" = .ok table
      ∧ Flattened table.entries .empty (Sections.addDocument .empty table)
      ∧ (Sections.addDocument .empty table).keys = ["DEFAULT", "compute", "compute.a", "compute.b"]
      := by
  obtain ⟨table, htable, hkeys⟩ := exists_ok_of_any
    (x := Toml.read "rpc = 1\n[compute.a]\nhost = 'h'\n[compute.b]\n")
    (p := fun table => (Sections.addDocument .empty table).keys
      == ["DEFAULT", "compute", "compute.a", "compute.b"]) (by decide +kernel)
  exact ⟨table, htable, flattened htable .empty, eq_of_beq hkeys⟩

/-- **A value that is lost**: a key with a dot in it and a table in a table give their sections one
name, and the key with the dot comes later. -/
theorem value_behind_dotted_key_lost :
    ∃ table c v, Toml.read "[a.b]\nx = 2\n['a.b']\nx = 1\n" = .ok table
      ∧ Config.parse "[a.b]\nx = 2\n['a.b']\nx = 1\n" = .ok c
      ∧ Toml.Holds table.entries ["a", "b"] "x" v ∧ v.scalarText? = some "2"
      ∧ Sections.dotted ["a", "b"] = "a.b" ∧ (c.sectionNamed "a.b").text? "x" = some "1" := by
  obtain ⟨table, htable, hleaf⟩ := exists_ok_of_any
    (x := Toml.read "[a.b]\nx = 2\n['a.b']\nx = 1\n")
    (p := fun table => (Toml.leaves [] table.entries).any fun l =>
      l.path == ["a", "b"] && l.key == "x" && l.value.scalarText? == some "2") (by decide +kernel)
  obtain ⟨c, hc, htext⟩ := exists_ok_of_any
    (x := Config.parse "[a.b]\nx = 2\n['a.b']\nx = 1\n")
    (p := fun c => (c.sectionNamed "a.b").text? "x" == some "1") (by decide +kernel)
  obtain ⟨leaf, hmem, hleaf⟩ := List.any_eq_true.mp hleaf
  obtain ⟨hleaf, hvalue⟩ := Bool.and_eq_true_iff.mp hleaf
  obtain ⟨hpath, hkey⟩ := Bool.and_eq_true_iff.mp hleaf
  have hholds := Sections.mem_leaves_nil.mp hmem
  rw [eq_of_beq hpath, eq_of_beq hkey] at hholds
  exact ⟨table, c, leaf.value, htable, hc, hholds, eq_of_beq hvalue, by decide, eq_of_beq htext⟩

end Config

end Testbed

import Testbed.Proofs.Outcome
import Testbed.Toml.Read

/-!
# The tables that are read are in order

A table is a list of entries, and nothing in its type says that the keys ascend. They do in
everything that is read from a text, at every depth (`tidy_of_read`), because there are only two
ways in which a table comes about. A value in braces becomes one when it is complete, and the text's
own tables become some when the text ends; both go through a dictionary.

What grows in between is an outline, where the keys stand in the order of their first mention. All
that is asked of it is that its complete values are tidy (`Item.Neat`), and tables in a row are not
looked into, since they become an array.

What is at stake is the meaning of a look-up. In a list of entries a key could stand twice, and then
what is found under it would depend on who looks. As the keys ascend strictly, no key stands twice,
and a path of keys leads to one table at most. What is said of the sections of a configuration uses
both.
-/

namespace Testbed

namespace Dict

variable {κ ν : Type} [Ord κ] [Std.TransOrd κ] [Std.LawfulEqOrd κ]

omit [Std.TransOrd κ] [Std.LawfulEqOrd κ] in
theorem eq_or_mem_of_mem_insertEntry {k : κ} {v : ν} {l : List (κ × ν)} {e : κ × ν}
    (h : e ∈ insertEntry k v l) : e = (k, v) ∨ e ∈ l := by
  induction l with
  | nil => exact .inl (List.mem_singleton.mp h)
  | cons first rest ih =>
    rw [insertEntry] at h
    split at h
    · exact List.mem_cons.mp h
    · exact (List.mem_cons.mp h).imp_right (List.mem_cons_of_mem first)
    · obtain rfl | h := List.mem_cons.mp h
      · exact .inr List.mem_cons_self
      · exact (ih h).imp_right (List.mem_cons_of_mem first)

theorem mem_of_mem_insertMany {l : List (κ × ν)} {d : Dict κ ν} {e : κ × ν}
    (h : e ∈ (d.insertMany l).entries) : e ∈ d.entries ∨ e ∈ l := by
  induction l generalizing d with
  | nil => exact .inl h
  | cons first rest ih =>
    obtain h | h := ih (d := d.insert first.1 first.2) h
    · obtain heq | h := eq_or_mem_of_mem_insertEntry h
      · exact .inr (List.mem_cons.mpr (.inl heq))
      · exact .inl h
    · exact .inr (List.mem_cons_of_mem first h)

/-- The dictionary of some entries has no others. Some may be missing, as a later one replaces an
earlier one. -/
theorem mem_of_mem_ofList {l : List (κ × ν)} {e : κ × ν} (h : e ∈ (ofList l).entries) : e ∈ l :=
  (mem_of_mem_insertMany h).resolve_left List.not_mem_nil

end Dict

namespace Toml

/-- Whether a value is a table. A list of tables is none. -/
def isTable : Toml → Bool
  | .table _ => true
  | _ => false

/-- The keys of entries ascend. It is what a dictionary says of its entries. -/
def Ascending (entries : List (String × Toml)) : Prop :=
  entries.Pairwise fun a b => compare a.1 b.1 = .lt

/-- **A value is tidy**: its keys ascend if it is a table, and so do those of the tables in it. An
array is plain in this sense whatever is in it, since nobody looks for keys there. -/
inductive Tidy : Toml → Prop
  | table {entries : List (String × Toml)} (hkeys : Ascending entries)
      (h : ∀ e ∈ entries, Tidy e.2) : Tidy (.table entries)
  | plain {v : Toml} (h : v.isTable = false) : Tidy v

/-- What goes through a dictionary is in order. The order comes from the dictionary, and the rest
from the values. -/
theorem tidy_tableOf {entries : List (String × Toml)} (h : ∀ e ∈ entries, Tidy e.2) :
    (tableOf entries).Tidy :=
  .table (Dict.ofList entries).ascending fun e he => h e (Dict.mem_of_mem_ofList he)

/-! ## Scalars

A word, a number or a date is no table. It has to be said, because what is read under a key might be
one. -/

theorem isTable_of_based? {base : Nat} {l : List Char} {v : Toml} (h : based? base l = some v) :
    v.isTable = false := by
  obtain ⟨digits, -, rfl⟩ := by simpa [based?, Option.bind_eq_some_iff] using h
  rfl

theorem isTable_of_unsigned? {negative : Bool} {l : List Char} {v : Toml}
    (h : unsigned? negative l = some v) : v.isTable = false := by
  unfold unsigned? at h
  split at h
  · cases h
    rfl
  · cases h
    rfl
  · split at h
    · simp only [float?, Option.bind_eq_bind, Option.bind_eq_some_iff] at h
      obtain ⟨whole, -, fraction, -, e, -, h⟩ := h
      cases h
      rfl
    · simp only [integer?, Option.bind_eq_bind, Option.bind_eq_some_iff] at h
      obtain ⟨digits, -, h⟩ := h
      cases h
      rfl

theorem isTable_of_word? {l : List Char} {v : Toml} (h : word? l = some v) :
    v.isTable = false := by
  unfold word? at h
  split at h
  · exact isTable_of_based? h
  · exact isTable_of_based? h
  · exact isTable_of_based? h
  · exact isTable_of_unsigned? h
  · exact isTable_of_unsigned? h
  · split at h
    · cases h
      rfl
    · cases h
      rfl
    · split at h
      · cases h
        rfl
      · exact isTable_of_unsigned? h

/-- A scalar is no table. It is put together from the kinds of scalars, one by one. -/
theorem isTable_of_scalar? {raw : List Char} {v : Toml} (h : scalar? raw = some v) :
    v.isTable = false := by
  unfold scalar? at h
  split at h
  · obtain ⟨text, -, rfl⟩ := Option.map_eq_some_iff.mp h
    rfl
  · obtain ⟨text, -, rfl⟩ := Option.map_eq_some_iff.mp h
    rfl
  · exact isTable_of_word? h

/-! ## Outlines

While a text is read its tables are in the order of their first mention, and what is complete among
their items is in order already. This is the invariant that every change keeps. -/

/-- **An item is neat** if the complete values are tidy that tables are going to be made of. A table
that grows is neat if all of its items are, whatever the order of its keys. -/
inductive Item.Neat : Item → Prop
  | value {v : Toml} (h : v.Tidy) : Neat (.value v)
  | table {origin : Origin} {entries : List (String × Item)} (h : ∀ e ∈ entries, Neat e.2) :
      Neat (.table origin entries)
  | tables (earlier : List (List (String × Item))) (last : List (String × Item)) :
      Neat (.tables earlier last)

namespace Outline

/-- All items of an outline are neat. Nothing is asked of the order of the keys. -/
def Neat (entries : Outline) : Prop := ∀ e ∈ entries, Item.Neat e.2

/-- A change leaves an outline neat. It is a condition on all tables to which the change may be
made. -/
def Change.Neat (change : Change) : Prop :=
  ∀ origin entries after, change origin entries = some after → Outline.Neat entries →
    Outline.Neat after

variable {key : String} {item : Item} {entries after : Outline} {v : Toml} {change : Change}
  {origin made : Origin} {path : List String}

theorem mem_of_find? (h : find? key entries = some item) : (key, item) ∈ entries := by
  induction entries with
  | nil => cases h
  | cons e rest ih =>
    obtain ⟨k, old⟩ := e
    rw [find?] at h
    split at h
    · rename_i hk
      subst hk
      cases h
      exact List.mem_cons_self
    · exact List.mem_cons_of_mem _ (ih h)

theorem Neat.put (h : Neat entries) (hitem : item.Neat) : Neat (put key item entries) := by
  induction entries with
  | nil => exact List.forall_mem_singleton.mpr hitem
  | cons e rest ih =>
    obtain ⟨hfirst, hrest⟩ := List.forall_mem_cons.mp h
    rw [Outline.put]
    split
    · exact List.forall_mem_cons.mpr ⟨hitem, hrest⟩
    · exact List.forall_mem_cons.mpr ⟨hfirst, ih hrest⟩

/-- What is found in a neat outline is neat. No item comes from anywhere else. -/
theorem Neat.find (h : Neat entries) (hitem : find? key entries = some item) : item.Neat :=
  h _ (mem_of_find? hitem)

/-- **Neat changes can be made anywhere.** By induction on the path: on its way a change may make
tables, and the items beside the way are kept as they are. -/
theorem neat_of_atPath (hchange : change.Neat)
    (h : atPath made change origin path entries = some after) (hentries : Neat entries) :
    Neat after := by
  induction path generalizing origin entries after with
  | nil => exact hchange origin entries after h hentries
  | cons key path ih =>
    rw [Outline.atPath] at h
    split at h
    · obtain ⟨inner, hinner, hafter⟩ := Option.bind_eq_some_iff.mp h
      cases hafter
      exact hentries.put (.table (ih hinner (List.forall_mem_nil _)))
    · rename_i before inner hfind
      split at h
      · cases h
      · obtain ⟨inner', hinner, hafter⟩ := Option.bind_eq_some_iff.mp h
        cases hafter
        cases hentries.find hfind with
        | table hneat => exact hentries.put (.table (ih hinner hneat))
    · obtain ⟨last, -, hafter⟩ := Option.bind_eq_some_iff.mp h
      cases hafter
      exact hentries.put (.tables ..)
    · cases h

theorem neat_putValue (key : String) (hv : v.Tidy) (isDotted : Bool) :
    (putValue key v isDotted).Neat := by
  intro origin entries after h hentries
  unfold putValue at h
  split at h
  · cases h
  · split at h
    · cases h
    · cases h
      exact hentries.put (.value hv)

theorem neat_addPair (path : List String) (key : String) (hv : v.Tidy) :
    (addPair path key v).Neat :=
  fun _ _ _ h hentries => neat_of_atPath (neat_putValue key hv _) h hentries

theorem neat_openTable (key : String) : (openTable key).Neat := by
  intro origin entries after h hentries
  unfold openTable at h
  split at h
  · cases h
    exact hentries.put (.table (List.forall_mem_nil _))
  · rename_i inner hfind
    cases h
    cases hentries.find hfind with
    | table hneat => exact hentries.put (.table hneat)
  · cases h

theorem neat_addRow (key : String) (row : Outline) : (addRow key row).Neat := by
  intro origin entries after h hentries
  unfold addRow at h
  split at h
  · cases h
    exact hentries.put (.tables ..)
  · cases h
    exact hentries.put (.tables ..)
  · cases h

end Outline

theorem mem_entriesToml {entries : Outline} {e : String × Toml} (h : e ∈ Item.entriesToml entries) :
    ∃ item, (e.1, item) ∈ entries ∧ e.2 = item.toToml := by
  induction entries with
  | nil => cases h
  | cons first rest ih =>
    obtain ⟨key, item⟩ := first
    rw [Item.entriesToml] at h
    obtain rfl | h := List.mem_cons.mp h
    · exact ⟨item, List.mem_cons_self, rfl⟩
    · obtain ⟨item', hmem, hvalue⟩ := ih h
      exact ⟨item', List.mem_cons_of_mem _ hmem, hvalue⟩

/-- **Neat items become tidy values.** A table that has grown goes through a dictionary at the end,
and so its keys ascend. -/
theorem Item.Neat.tidy {item : Item} (h : item.Neat) : item.toToml.Tidy := by
  induction h with
  | value hv =>
    rw [Item.toToml]
    exact hv
  | table _ ih =>
    rw [Item.toToml]
    refine tidy_tableOf fun e he => ?_
    obtain ⟨item, hmem, hvalue⟩ := mem_entriesToml he
    exact hvalue ▸ ih _ hmem
  | tables earlier last =>
    rw [Item.toToml]
    exact .plain rfl

theorem Outline.Neat.tidy {entries : Outline} (h : entries.Neat) :
    ∀ e ∈ entries.toDict.entries, e.2.Tidy := by
  intro e he
  obtain ⟨item, hmem, hvalue⟩ := mem_entriesToml (Dict.mem_of_mem_ofList he)
  exact hvalue ▸ (h _ hmem).tidy

/-! ## Reading

The invariant goes from the single line to all of them, and at the end the outline becomes a table
in which the keys ascend at every depth. -/

theorem orMalformed_eq_ok {α : Type} {x : Option α} {a : α} (h : orMalformed x = .ok a) :
    x = some a := by
  cases x with
  | none => cases h
  | some b => exact congrArg some (Except.ok.inj h)

mutual

theorem tidy_of_form {form : Form} {v : Toml} (h : form.read = .ok v) : v.Tidy := by
  match form with
  | .scalar raw =>
    rw [Form.read] at h
    exact .plain (isTable_of_scalar? (orMalformed_eq_ok h))
  | .arr items =>
    rw [Form.read] at h
    obtain ⟨values, -, h⟩ := bind_eq_ok h
    cases h
    exact .plain rfl
  | .table pairs =>
    rw [Form.read] at h
    obtain ⟨entries, hentries, h⟩ := bind_eq_ok h
    cases h
    exact .table entries.toDict.ascending
      (neat_of_readTable hentries (List.forall_mem_nil _)).tidy

/-- The outline of a value in braces is neat. The values in it are read before they are put there,
and so are in order. -/
theorem neat_of_readTable {entries after : Outline} {pairs : List (RawKey × Form)}
    (h : Form.readTable entries pairs = .ok after) (hentries : entries.Neat) : after.Neat := by
  match pairs with
  | [] =>
    rw [Form.readTable] at h
    cases h
    exact hentries
  | (raw, form) :: rest =>
    rw [Form.readTable] at h
    obtain ⟨⟨path, key⟩, -, h⟩ := bind_eq_ok h
    obtain ⟨v, hv, h⟩ := bind_eq_ok h
    obtain ⟨entries', hadd, h⟩ := bind_eq_ok h
    have hneat := Outline.neat_addPair path key (tidy_of_form hv) _ _ _ (orMalformed_eq_ok hadd)
    exact neat_of_readTable h (hneat hentries)

end

namespace Draft

variable {d d' : Draft} {line : Line}

theorem neat_of_finish (h : d.finish = .ok d') (hd : d.entries.Neat) : d'.entries.Neat := by
  unfold finish at h
  split at h
  · cases h
    exact hd
  · obtain ⟨entries, hentries, h⟩ := bind_eq_ok h
    cases h
    exact Outline.neat_of_atPath (Outline.neat_addRow _ _) (orMalformed_eq_ok hentries) hd

/-- **No line spoils the outline.** A line opens a table, opens a table in a row of tables, or puts
a value under a key; and a value is tidy when it is put there. -/
theorem neat_of_take (h : d.take line = .ok d') (hd : d.entries.Neat) : d'.entries.Neat := by
  cases line with
  | table raw =>
    obtain ⟨finished, hfinish, h⟩ := bind_eq_ok h
    obtain ⟨⟨path, key⟩, -, h⟩ := bind_eq_ok h
    obtain ⟨entries, hentries, h⟩ := bind_eq_ok h
    cases h
    exact Outline.neat_of_atPath (Outline.neat_openTable key) (orMalformed_eq_ok hentries)
      (neat_of_finish hfinish hd)
  | next raw =>
    obtain ⟨finished, hfinish, h⟩ := bind_eq_ok h
    obtain ⟨⟨path, key⟩, -, h⟩ := bind_eq_ok h
    cases h
    have hfinished := neat_of_finish hfinish hd
    exact hfinished
  | pair raw form =>
    obtain ⟨⟨path, key⟩, -, h⟩ := bind_eq_ok h
    obtain ⟨v, hv, h⟩ := bind_eq_ok h
    -- a key of a table in a row does not touch the outline yet
    split at h
    · obtain ⟨row, -, h⟩ := bind_eq_ok h
      cases h
      exact hd
    · obtain ⟨entries, hentries, h⟩ := bind_eq_ok h
      cases h
      exact Outline.neat_of_atPath (Outline.neat_addPair path key (tidy_of_form hv))
        (orMalformed_eq_ok hentries) hd

theorem neat_of_foldlM {lines : List Line} (h : lines.foldlM take d = .ok d')
    (hd : d.entries.Neat) : d'.entries.Neat := by
  induction lines generalizing d with
  | nil =>
    cases h
    exact hd
  | cons line rest ih =>
    rw [List.foldlM_cons] at h
    obtain ⟨next, hnext, h⟩ := bind_eq_ok h
    exact ih h (neat_of_take hnext hd)

end Draft

/-- **The tables that are read from a text are tidy.** Every text is meant that can be read, as the
reader makes no tables in any other way. -/
theorem tidy_of_read {text : String} {table : Dict String Toml} (h : read text = .ok table) :
    (Toml.table table.entries).Tidy := by
  obtain ⟨lines, -, h⟩ := bind_eq_ok h
  obtain ⟨taken, htaken, h⟩ := bind_eq_ok h
  obtain ⟨d, hd, h⟩ := bind_eq_ok h
  split at h
  · cases h
    refine .table (Outline.toDict d.entries).ascending (Outline.Neat.tidy ?_)
    exact Draft.neat_of_finish hd (Draft.neat_of_foldlM htaken (List.forall_mem_nil _))
  · cases h

end Toml

end Testbed

import Mathlib.Data.List.Induction
import Testbed.Config.Basic

/-!
# Configurations in layers

A configuration is a pile of layers, each of them a map of sections: one for every file that was
read, and one for every change in memory. Where several layers have a key in a section, the topmost
counts.

The program does not build layers. It empties the tables of all files into one map of sections,
entry by entry, and the question is whether that is the same as emptying each of them into a map of
its own and laying these over one another. It is, because laying sections over a section goes past
another map laid underneath (`lay_overlay`): emptying a table is a sequence of such steps, whatever
is there before (`addDocument_eq_lay`). What is found in a pile is read off its layers by
`get_pile`.

Laying one map over another is associative and has the empty map as its unit, so piles can be taken
apart anywhere. This is all that is needed to tell which of the changes in memory is seen after a
later reading: they are remembered as one map, and laid as a whole over what the files give.
-/

namespace Testbed

namespace Dict

variable {κ ν : Type} [Ord κ] [Std.TransOrd κ] [Std.LawfulEqOrd κ]

@[simp] theorem overlay_empty (d : Dict κ ν) : d.overlay empty = d := rfl

@[simp] theorem empty_overlay (d : Dict κ ν) : (empty : Dict κ ν).overlay d = d :=
  ext_get (fun k => by rw [get_overlay, get_empty, Option.or_none])

theorem overlay_assoc (a b c : Dict κ ν) : (a.overlay b).overlay c = a.overlay (b.overlay c) :=
  ext_get (fun k => by simp only [get_overlay, Option.or_assoc])

end Dict

namespace Sections

/-- **A map of sections laid over another**, a section that both have being laid over the one below
key by key. A section is never taken away by what is laid over it, and an empty section of the upper
map makes one if the lower map has none. -/
def lay (lower upper : Sections) : Sections :=
  upper.entries.foldl (fun s e => s.overlay e.1 e.2) lower

/-- The sections that change one section of another map when they are laid over it. Nothing else is
mentioned in it. -/
def only (name : String) (values : Section) : Sections := overlay .empty name values

/-- **What a pile of layers amounts to**, the lowest being the first. No layers amount to no
sections. -/
def pile (layers : List Sections) : Sections := layers.foldl lay .empty

/-- **What is found in a pile of layers**: the value of the topmost that has the key. The layers are
looked through from the top, and in each of them only the section of the name. -/
def found (layers : List Sections) (name key : String) : Option Toml :=
  layers.reverse.findSome? (fun layer => (layer.named name).get? key)

variable {a b c s : Sections} {name other key : String} {values : Section}

@[simp] theorem named_empty (name : String) : named .empty name = .empty := rfl

theorem get_overlay_sections (s : Sections) (name other : String) (values : Section) :
    (s.overlay name values).get? other
      = if other = name then some ((s.named name).overlay values) else s.get? other := by
  unfold overlay
  by_cases h : other = name
  · subst h
    rw [Dict.get_insert_self, if_pos rfl]
  · rw [Dict.get_insert_ne s _ h, if_neg h]

theorem named_overlay_of_ne (s : Sections) {name other : String} (values : Section)
    (h : other ≠ name) : (s.overlay name values).named other = s.named other := by
  unfold overlay
  rw [named_insert, if_neg h]

/-! ## One map over another

A map of sections over another one, key by key. It is associative, and this is why files can be put
together before they are laid over anything. -/

/-- The sections after some that ascend were laid over them, one by one. They ascend, so each name
comes once. -/
theorem get_foldl_overlay (l : List (String × Section))
    (h : l.Pairwise (fun a b => compare a.1 b.1 = .lt)) (s : Sections) (name : String) :
    (l.foldl (fun s e => s.overlay e.1 e.2) s).get? name
      = match Dict.getEntry name l with
        | none => s.get? name
        | some upper => some ((s.named name).overlay upper) := by
  induction l generalizing s with
  | nil => rfl
  | cons e rest ih =>
    have ⟨hfirst, hrest⟩ := List.pairwise_cons.1 h
    show (rest.foldl _ (s.overlay e.1 e.2)).get? name = _
    rw [ih hrest, Dict.getEntry]
    by_cases hname : name = e.1
    · subst hname
      rw [Dict.getEntry_eq_none_of_lt hfirst, if_pos Std.ReflOrd.compare_self,
        get_overlay_sections, if_pos rfl]
    · rw [if_neg (fun heq => hname (Std.LawfulEqOrd.eq_of_compare heq)), get_overlay_sections,
        if_neg hname, named_overlay_of_ne s e.2 hname]

/-- **The sections of a map laid over another**: those of the lower one where the upper one has
none, and otherwise what both have, the upper one's values over the lower one's. -/
theorem get_lay (lower upper : Sections) (name : String) :
    (lay lower upper).get? name
      = match upper.get? name with
        | none => lower.get? name
        | some values => some ((lower.named name).overlay values) :=
  get_foldl_overlay upper.entries upper.ascending lower name

/-- Section by section, laying is overlaying. Whether the sections exist does not matter for their
values. -/
@[simp] theorem named_lay (lower upper : Sections) (name : String) :
    (lay lower upper).named name = (lower.named name).overlay (upper.named name) := by
  cases h : upper.get? name <;> simp [named, get_lay, h]

@[simp] theorem lay_empty (s : Sections) : lay s .empty = s := rfl

@[simp] theorem empty_lay (s : Sections) : lay .empty s = s := by
  refine Dict.ext_get (fun name => ?_)
  cases h : s.get? name <;> simp [get_lay, h]

/-- **Values laid over a section of the upper map are laid over the whole.** It is the step to which
everything else comes down. Read from right to left, it says that a change of the whole can be made
in the upper map before it is laid over the lower one. -/
theorem lay_overlay (lower upper : Sections) (name : String) (values : Section) :
    lay lower (upper.overlay name values) = (lay lower upper).overlay name values := by
  refine Dict.ext_get (fun other => ?_)
  rw [get_lay, get_overlay_sections, get_overlay_sections]
  by_cases h : other = name
  · subst h
    rw [if_pos rfl, if_pos rfl, named_lay, Dict.overlay_assoc]
  · rw [if_neg h, if_neg h, get_lay]

/-- Of three layers, it does not matter which two are put together first. It does matter in which
order they are. -/
theorem lay_assoc (a b c : Sections) : lay (lay a b) c = lay a (lay b c) := by
  show c.entries.foldl (fun s e => s.overlay e.1 e.2) (lay a b)
    = lay a (c.entries.foldl (fun s e => s.overlay e.1 e.2) b)
  generalize c.entries = l
  induction l generalizing b with
  | nil => rfl
  | cons e rest ih =>
    show rest.foldl _ ((lay a b).overlay e.1 e.2) = lay a (rest.foldl _ (b.overlay e.1 e.2))
    rw [← lay_overlay, ih]

/-- A change of one section is a layer. So a value that is set in memory is laid over the files like
another file. -/
theorem overlay_eq_lay (s : Sections) (name : String) (values : Section) :
    s.overlay name values = lay s (only name values) := by
  unfold only
  rw [lay_overlay, lay_empty]

/-! ## Tables

A table is laid over sections as the map of its own sections would be. So what a file does to a
configuration is a layer, whatever it is laid over. -/

theorem ensure_eq_overlay (s : Sections) (name : String) :
    s.ensure name = s.overlay name .empty := rfl

theorem set_eq_overlay (s : Sections) (name key : String) (v : Toml) :
    s.set name key v = s.overlay name (Dict.empty.insert key v) := rfl

mutual

/-- Emptying a table into the upper of two maps is emptying it into the whole. It is proved together
with its companion on single entries, along the recursion of the two. -/
theorem lay_addTable (lower : Sections) (name : Option String) (table : List (String × Toml))
    (upper : Sections) :
    lay lower (addTable name table upper) = addTable name table (lay lower upper) := by
  match table with
  | [] => rfl
  | (key, v) :: rest =>
    show lay lower (addTable name rest (addEntry name key v upper))
      = addTable name rest (addEntry name key v (lay lower upper))
    rw [lay_addTable lower name rest, lay_addEntry lower name key v]

/-- One entry of a table, which is a table again or a value that is set. A value that is set is a
layer of one section. -/
theorem lay_addEntry (lower : Sections) (name : Option String) (key : String) (v : Toml)
    (upper : Sections) :
    lay lower (addEntry name key v upper) = addEntry name key v (lay lower upper) := by
  match v with
  | .table entries =>
    unfold addEntry
    rw [lay_addTable lower (some (below name key)) entries, ensure_eq_overlay, lay_overlay,
      ensure_eq_overlay]
  | .str _ | .int _ | .float _ | .bool _ | .datetime _ | .arr _ =>
    unfold addEntry
    rw [set_eq_overlay, lay_overlay, set_eq_overlay]

end

/-- **A table is a layer**: emptying it into a map of sections lays over it what the table gives
alone. The proof is by induction over the table and its entries, with the lower map being carried
along unchanged (`lay_addTable`, `lay_addEntry`). -/
theorem addDocument_eq_lay (s : Sections) (table : Dict String Toml) :
    s.addDocument table = lay s (addDocument .empty table) := by
  show addTable none table.entries s = lay s (addTable none table.entries .empty)
  rw [lay_addTable, lay_empty]

/-! ## Piles

Several layers make one, and a look-up in it finds the uppermost layer that has the key. -/

@[simp] theorem pile_concat (layers : List Sections) (layer : Sections) :
    pile (layers ++ [layer]) = lay (pile layers) layer := by
  unfold pile
  rw [List.foldl_append]
  rfl

/-- Layers on top of a map are a pile on top of it. The pile can be made before anything is known of
what it is laid over. -/
theorem foldl_lay (s : Sections) (layers : List Sections) :
    layers.foldl lay s = lay s (pile layers) := by
  induction layers using List.reverseRecOn with
  | nil => rfl
  | append_singleton layers layer ih =>
    rw [List.foldl_append, ih, pile_concat, ← lay_assoc]
    rfl

theorem pile_cons (layer : Sections) (layers : List Sections) :
    pile (layer :: layers) = lay layer (pile layers) := by
  show layers.foldl lay (lay .empty layer) = _
  rw [foldl_lay, empty_lay]

/-- A pile on top of a pile is a pile. It is associativity, for many layers. -/
theorem pile_append (lower upper : List Sections) :
    pile (lower ++ upper) = lay (pile lower) (pile upper) := by
  unfold pile
  rw [List.foldl_append, foldl_lay]
  rfl

/-- **What is under a key of a pile is what is found in its layers.** By induction from the top: the
last layer has the key, or the pile below it is asked. -/
theorem get_pile (layers : List Sections) (name key : String) :
    ((pile layers).named name).get? key = found layers name key := by
  induction layers using List.reverseRecOn with
  | nil => rfl
  | append_singleton layers layer ih =>
    unfold found at ih ⊢
    rw [pile_concat, named_lay, Dict.get_overlay, ih, List.reverse_append, List.reverse_singleton,
      List.singleton_append, List.findSome?_cons]
    cases (layer.named name).get? key with
    | none => rfl
    | some v => rfl

end Sections

end Testbed

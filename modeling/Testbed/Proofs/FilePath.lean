import Mathlib.Data.List.Basic
import Testbed.OsPath

/-!
# Paths below a directory

A path can be asked two things: how it is written, and where it leads. Written, it is a sequence of
components, and a directory holds what begins with its own. Where it leads is a place, and depends
on where a relative path starts and on the steps up in it. The two come apart: `a/../b` is written
as lying in `a` and leads out of it, and `a/b` from `c` leads where `b` from `c/a` does.

Two directories that part ways at a name are apart in both respects, and so is everything below
them, as long as nothing on the way down steps up again. That is all there is to say about joined
paths: joining a name to a directory adds its moves to what the directory has, whether or not the
directory ends with a separator, is empty or steps up itself (`extends_join`). Nothing of this
depends on what the letters are, and bytes that are no text are letters like any other.
-/

namespace Testbed

namespace WrittenPath

open PathLetter

variable {α : Type} [DecidableEq α] [PathLetter α] {base directory path file : List α}
  {l : List (List α)}

/-- A path without a separator does not start at the root. A single name is of this kind, so it can
be joined without replacing anything. -/
theorem isAbsolute_of_notMem (h : separator ∉ path) : isAbsolute path = false :=
  Bool.eq_false_iff.mpr fun hroot => h (List.mem_of_mem_head? (beq_iff_eq.mp hroot))

/-! ## Joining

Joining is where a separator may have to be put in, and everything that is said of joined paths goes
back to one question: what the names are before it and behind it. Names that do not move are left
over at the seam, and for that reason the lemmas count moves and not names. -/

/-- An absolute path replaces the directory. It is the one way to leave a directory that needs no
step up. -/
theorem join_of_isAbsolute (h : isAbsolute path) : join directory path = path := if_pos h

theorem join_of_relative (h : isAbsolute file = false) :
    join base file = withSeparator base ++ file :=
  if_neg (Bool.eq_false_iff.mp h)

@[simp] theorem withSeparator_nil : withSeparator ([] : List α) = [] := rfl

/-- A directory that is not empty has a last letter, and is followed by a separator unless that is
one. -/
theorem withSeparator_concat (before : List α) (last : α) :
    withSeparator (before ++ [last])
      = if last = separator then before ++ [last] else before ++ [last] ++ [separator] := by
  unfold withSeparator
  rw [List.getLast?_concat]

/-- An empty directory, one that ends with a separator and one that needs one: what can be in front
of a name. -/
theorem withSeparator_cases (base : List α) :
    base = [] ∧ withSeparator base = []
      ∨ (∃ before, base = before ++ [separator] ∧ withSeparator base = before ++ [separator])
      ∨ base ≠ [] ∧ base.getLast? ≠ some separator
        ∧ withSeparator base = base ++ [separator] := by
  obtain rfl | ⟨before, last, hbase⟩ := base.eq_nil_or_concat
  · exact .inl ⟨rfl, rfl⟩
  · rw [List.concat_eq_append] at hbase
    subst hbase
    rw [withSeparator_concat, List.getLast?_concat]
    by_cases hlast : last = separator
    · subst hlast
      exact .inr (.inl ⟨before, rfl, if_pos rfl⟩)
    · refine .inr (.inr ⟨by simp, fun h => hlast (Option.some.inj h), if_neg hlast⟩)

theorem names_append (a b : List α) : names (a ++ separator :: b) = names a ++ names b := by
  induction a with
  | nil =>
    show names (separator :: b) = [] :: names b
    rw [names, if_pos rfl]
  | cons c a ih =>
    rw [List.cons_append, names, names]
    split
    · rw [ih, List.cons_append]
    · rw [ih]
      cases ha : names a with
      | nil => exact absurd ha (names_ne_nil a)
      | cons n rest => rfl

/-- Without a separator there is one name. It may be the empty one. -/
theorem names_of_notMem {a : List α} (h : separator ∉ a) : names a = [a] := by
  induction a with
  | nil => rfl
  | cons c a ih =>
    obtain ⟨hc, ha⟩ := not_or.mp (mt List.mem_cons.mpr h)
    rw [names, if_neg (Ne.symm hc), ih ha]

/-- What is joined to a directory stands behind the directory's names, but for an empty last
one. -/
theorem names_withSeparator (h : base ≠ []) :
    ∃ front, front ≠ [] ∧ (names base = front ∨ names base = front ++ [[]])
      ∧ ∀ file, names (withSeparator base ++ file) = front ++ names file := by
  obtain ⟨hempty, -⟩ | ⟨before, hbase, hsep⟩ | ⟨-, -, hsep⟩ := withSeparator_cases base
  · exact absurd hempty h
  · refine ⟨names before, names_ne_nil before, .inr ?_, fun file => ?_⟩
    · rw [hbase, names_append]
      rfl
    · rw [hsep, List.append_assoc, List.singleton_append, names_append]
  · refine ⟨names base, names_ne_nil base, .inl rfl, fun file => ?_⟩
    rw [hsep, List.append_assoc, List.singleton_append, names_append]

@[simp] theorem moves_nil : moves ([] : List α) = [] := rfl

/-- **Joining adds moves**, however the directory ends. An empty directory gets no separator and one
that ends in a separator gets no second one, and in all three cases the names at the seam do not
move. -/
theorem moves_join (h : isAbsolute file = false) :
    moves (join base file) = moves base ++ moves file := by
  rw [join_of_relative h]
  by_cases hbase : base = []
  · subst hbase
    rw [withSeparator_nil, moves_nil]
    rfl
  · obtain ⟨front, -, hfront, hnames⟩ := names_withSeparator hbase
    unfold moves
    rw [hnames, List.filter_append]
    obtain hfront | hfront := hfront
    · rw [hfront]
    · rw [hfront, List.filter_append]
      exact congrArg (· ++ _) (List.append_nil _).symm

theorem isAbsolute_join (h : isAbsolute file = false) :
    isAbsolute (join base file) = isAbsolute base := by
  rw [join_of_relative h]
  obtain ⟨hbase, hsep⟩ | ⟨before, hbase, hsep⟩ | ⟨hbase, -, hsep⟩ := withSeparator_cases base
  · rw [hsep, hbase]
    exact h
  · rw [hsep, hbase]
    unfold isAbsolute
    rw [List.head?_append_of_ne_nil _ (by simp)]
  · rw [hsep]
    unfold isAbsolute
    rw [List.append_assoc, List.head?_append_of_ne_nil _ hbase]

/-- Seen from elsewhere, a joined path has the moves of its directory seen from there. It is the
lemma before, twice, with the directory's own moves put together again. -/
theorem moves_join_join (start : List α) (h : isAbsolute file = false) :
    moves (join start (join base file)) = moves (join start base) ++ moves file := by
  by_cases hbase : isAbsolute base
  · rw [join_of_isAbsolute ((isAbsolute_join h).trans hbase), join_of_isAbsolute hbase,
      moves_join h]
  · have hrelative : isAbsolute base = false := Bool.not_eq_true _ |>.mp hbase
    rw [moves_join ((isAbsolute_join h).trans hrelative), moves_join hrelative, moves_join h,
      List.append_assoc]

theorem join_ne_nil (h : file ≠ []) : join base file ≠ [] := by
  unfold join
  split
  · exact h
  · exact fun hempty => h (List.append_eq_nil_iff.mp hempty).2

/-! ## Components

Components are the moves with something in front of them that depends on the beginning of a path
only. Since joining leaves the beginning alone, this part is dealt with once. -/

/-- What a path's components begin with before anything moves. There is at most one such component,
the root's or the dot's. -/
def lead (path : List α) : List (List α) :=
  if isAbsolute path then [[]]
  else if (names path).head? = some [dot] then [[dot]]
  else []

theorem components_eq (path : List α) : components path = lead path ++ moves path := by
  unfold components lead
  split
  · rfl
  · split <;> rfl

theorem lead_join (h : isAbsolute file = false)
    (hlead : base ≠ [] ∨ (names file).head? ≠ some [dot]) :
    lead (join base file) = lead base := by
  by_cases hbase : base = []
  · subst hbase
    have hhead := hlead.resolve_left (not_not_intro rfl)
    rw [join_of_relative h, withSeparator_nil, List.nil_append, lead, h,
      if_neg Bool.false_ne_true, if_neg hhead]
    rfl
  · obtain ⟨front, hne, hfront, hnames⟩ := names_withSeparator hbase
    have hhead : (names (join base file)).head? = (names base).head? := by
      rw [join_of_relative h, hnames]
      obtain hfront | hfront := hfront <;>
        rw [hfront, List.head?_append_of_ne_nil _ hne]
      exact (List.head?_append_of_ne_nil _ hne).symm
    rw [lead, isAbsolute_join h, hhead, lead]

/-! ## Places

The place of a path is where its moves lead. A step up may undo what the directory has done, so the
two are put together only where there is no such step. -/

theorem place_eq (path : List α) : place path = ((moves path).foldl walk []).reverse := by
  unfold place
  rw [components_eq, List.foldl_append]
  -- what the components begin with leads nowhere
  have hlead : (lead path).foldl walk [] = [] := by
    unfold lead
    split
    · simp [walk, up]
    · split <;> simp [walk, up]
  rw [hlead]

/-- Names that move and do not step up are walked down. Each of them is put on top of the names
before it, so they come out in reverse order. -/
theorem foldl_walk_of_notMem (hdown : up ∉ l) (hmove : ∀ n ∈ l, n ≠ [] ∧ n ≠ [dot])
    (before : List (List α)) : l.foldl walk before = l.reverse ++ before := by
  induction l generalizing before with
  | nil => rfl
  | cons n l ih =>
    obtain ⟨hn, hl⟩ := not_or.mp (mt List.mem_cons.mpr hdown)
    obtain ⟨hmoves, hrest⟩ := List.forall_mem_cons.mp hmove
    rw [List.foldl_cons, walk, if_neg (Ne.symm hn), if_neg (not_or.mpr hmoves), ih hl hrest,
      List.reverse_cons, List.append_assoc]
    rfl

theorem move_of_mem_moves {n : List α} (h : n ∈ moves path) : n ≠ [] ∧ n ≠ [dot] := by
  simpa using (List.mem_filter.mp h).2

/-- What does not step up adds its moves to the place of what it is joined to. With a step up this
would be false, since it takes back the last of the directory's names. -/
theorem place_join_join (start : List α) (h : isAbsolute file = false) (hdown : up ∉ moves file) :
    place (join start (join base file)) = place (join start base) ++ moves file := by
  rw [place_eq, place_eq, moves_join_join start h, List.foldl_append,
    foldl_walk_of_notMem hdown fun _ => move_of_mem_moves, List.reverse_append,
    List.reverse_reverse]

end WrittenPath

/-! ## Going down

What a path has in common with the directory that it was made from. It is said of how the path is
written and of where it leads, from whichever directory one looks, since a project's directory may
be relative. -/

namespace OsPath

open WrittenPath (up)

variable {base directory path : OsPath} {l m : List (List UInt8)}

/-- The names of a path that move. They are lists of bytes, and need not be texts. -/
def moves (p : OsPath) : List (List UInt8) := WrittenPath.moves p.bytes

/-- **A path leads down from another one by names**: they follow its components, and they follow
the place it leads to, wherever it starts. -/
structure Extends (base path : OsPath) (l : List (List UInt8)) : Prop where
  written : path.components = base.components ++ l
  led : ∀ start : OsPath, (start.join path).place = (start.join base).place ++ l

/-- **A relative path without a step up leads down from what it is joined to.** Only under an empty
directory a leading dot would count. -/
theorem extends_join {file : OsPath} (h : file.isAbsolute = false) (hdown : up ∉ file.moves)
    (hlead : base.bytes ≠ [] ∨ (WrittenPath.names file.bytes).head? ≠ some [PathLetter.dot]) :
    Extends base (base.join file) file.moves where
  written := by
    show WrittenPath.components _ = WrittenPath.components _ ++ WrittenPath.moves _
    rw [WrittenPath.components_eq, WrittenPath.components_eq]
    show WrittenPath.lead (WrittenPath.join _ _) ++ WrittenPath.moves (WrittenPath.join _ _) = _
    rw [WrittenPath.lead_join h hlead, WrittenPath.moves_join h, List.append_assoc]
  led start := WrittenPath.place_join_join start.bytes h hdown

theorem Extends.trans {path' : OsPath} (h : Extends base path l) (h' : Extends path path' m) :
    Extends base path' (l ++ m) where
  written := by rw [h'.written, h.written, List.append_assoc]
  led start := by rw [h'.led, h.led, List.append_assoc]

/-- A path lies in a directory: by how it is written, and by where it leads. The second says more
than the first where directories are repeated or stepped out of, and less where two ways of writing
lead to one place. -/
structure LiesIn (directory path : OsPath) : Prop where
  written : directory.components <+: path.components
  led : ∀ start : OsPath, (start.join directory).place <+: (start.join path).place

/-- A path lies outside a directory: it is not written as lying in it, and it does not lead there,
wherever relative paths start. -/
structure LiesOutside (directory path : OsPath) : Prop where
  written : ¬ directory.components <+: path.components
  led : ∀ start : OsPath, ¬ (start.join directory).place <+: (start.join path).place

theorem Extends.liesIn (h : Extends directory path l) : LiesIn directory path where
  written := h.written ▸ List.prefix_append ..
  led start := h.led start ▸ List.prefix_append ..

/-- **What leads down from one place by other names lies outside.** Both halves of the conclusion
come down to prefixes of the names, because what is in front of them is the same. -/
theorem Extends.liesOutside (hd : Extends base directory l) (hp : Extends base path m)
    (h : ¬ l <+: m) : LiesOutside directory path where
  written := by rwa [hd.written, hp.written, List.prefix_append_right_inj]
  led start := by rwa [hd.led, hp.led, List.prefix_append_right_inj]

/-- A directory lies in itself, so what lies outside is another path. The converse is false: a path
within the directory is another path too. -/
theorem LiesOutside.ne (h : LiesOutside directory path) : path ≠ directory :=
  fun heq => h.written (heq ▸ List.prefix_rfl)

/-- What leads down by no names is the directory itself, written in another way perhaps. So a
directory below another one is never taken for it. -/
theorem Extends.components_eq_iff (h : Extends directory path l) :
    path.components = directory.components ↔ l = [] := by
  rw [h.written]
  exact List.append_right_eq_self

end OsPath

end Testbed

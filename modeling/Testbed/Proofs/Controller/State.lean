import Testbed.Controller.Nodes
import Testbed.Proofs.Node.Identity

/-!
# What changes of the control plane leave alone

The tables of the control plane are changed one entry at a time. The lemmas say what is found in a
table after a change, and `Controller.Steady` collects what most operations leave alone: the other
parts of a project, the handles given out, and the identity of every node.

Steadiness is relative to a project, and to what becomes of it. It composes: two steady changes are
a steady change, with the second function after the first. So a long operation is shown to be steady
by looking at its steps, and what it does to the project can be read off the composite. The
condition on the identities is about handles that were given out before, because a new node gets a
new handle, and until then nothing sensible can be said of the cell under it.
-/

namespace Testbed.Controller

variable {c c' c'' : Controller} {p : ProjectHandle} {h h' : NodeHandle}

/-! ## Tables

What is found in the tables of projects and nodes after a change, under the handle in question and
under others. They are rules for rewriting, and nothing else is proved with the tables opened. -/

@[simp] theorem project_setProject (project : Project) (c : Controller) :
    (c.setProject p project).project p = project := by
  unfold Controller.project setProject
  rw [Dict.get_insert_self]
  rfl

@[simp] theorem project_editProject (f : Project → Project) (c : Controller) :
    (c.editProject p f).project p = f (c.project p) := project_setProject _ c

theorem nodes_put (id : Uuid) (h : NodeHandle) (c : Controller) :
    ((c.editProject p (·.put id h)).project p).nodes = (c.project p).nodes.insert id h := by
  rw [project_editProject]
  rfl

theorem nodes_drop (id : Uuid) (c : Controller) :
    ((c.editProject p (·.drop id)).project p).nodes = (c.project p).nodes.erase id := by
  rw [project_editProject]
  rfl

@[simp] theorem cell_setCell (cell : NodeCell) (c : Controller) :
    (c.setCell h cell).cell h = cell := by
  unfold Controller.cell setCell
  rw [Dict.get_insert_self]
  rfl

theorem cell_setCell_of_ne (cell : NodeCell) (c : Controller) (hne : h' ≠ h) :
    (c.setCell h cell).cell h' = c.cell h' := by
  unfold Controller.cell setCell
  rw [Dict.get_insert_ne _ _ hne]

theorem node_setCell_of_ne (cell : NodeCell) (c : Controller) (hne : h' ≠ h) :
    (c.setCell h cell).node h' = c.node h' := by
  unfold node
  rw [cell_setCell_of_ne cell c hne]

theorem cell_setNode (h : NodeHandle) (n : Node) (c : Controller) :
    (c.setNode h n).cell h = { c.cell h with node := n } := cell_setCell _ c

/-! ## Steady changes

Changes that leave identities and handles alone. They can be composed, so it is enough to look at
the single steps of an operation. -/

/-- **A change of a project and of nothing else that matters to it**: no handle is taken back, and
no node gets another identity. Nodes may change in any other way, and so may the registry, the
settings and the locks. The three fields are what the rules of projects need to go on being true of
a project's table after an operation on one of its nodes. -/
structure Steady (p : ProjectHandle) (f : Project → Project) (c c' : Controller) : Prop where
  /-- What becomes of the project. -/
  project : c'.project p = f (c.project p)
  /-- The handles given out stay given out. -/
  allocated : c.allocated ≤ c'.allocated
  /-- The nodes stay who they are. -/
  identity : ∀ h < c.allocated, (c'.node h).identity = (c.node h).identity

namespace Steady

variable {f g : Project → Project}

theorem refl (p : ProjectHandle) (c : Controller) : Steady p (fun project => project) c c :=
  ⟨rfl, Nat.le_refl _, fun _ _ => rfl⟩

theorem trans (hf : Steady p f c c') (hg : Steady p g c' c'') :
    Steady p (fun project => g (f project)) c c'' where
  project := by rw [hg.project, hf.project]
  allocated := Nat.le_trans hf.allocated hg.allocated
  identity h hlt :=
    (hg.identity h (Nat.lt_of_lt_of_le hlt hf.allocated)).trans (hf.identity h hlt)

theorem editProject (p : ProjectHandle) (f : Project → Project) (c : Controller) :
    Steady p f c (c.editProject p f) :=
  ⟨project_editProject f c, Nat.le_refl _, fun _ _ => rfl⟩

theorem setRegistry (p : ProjectHandle) (r : Registry) (c : Controller) :
    Steady p (fun project => project) c (c.setRegistry r) :=
  ⟨rfl, Nat.le_refl _, fun _ _ => rfl⟩

/-- Another cell for a node of the same identity. The other cells are untouched. -/
theorem setCell (p : ProjectHandle) {cell : NodeCell}
    (hcell : cell.node.identity = (c.node h).identity) :
    Steady p (fun project => project) c (c.setCell h cell) where
  project := rfl
  allocated := Nat.le_refl _
  identity h' _ := by
    by_cases hh : h' = h
    · subst hh
      unfold node
      rw [cell_setCell]
      exact hcell
    · rw [node_setCell_of_ne cell c hh]

theorem setNode (p : ProjectHandle) {n : Node} (hn : n.identity = (c.node h).identity) :
    Steady p (fun project => project) c (c.setNode h n) := setCell p hn

theorem setHeld (p : ProjectHandle) (h : NodeHandle) (held : Bool) (c : Controller) :
    Steady p (fun project => project) c (c.setHeld h held) := setCell p rfl

/-- Drawing up a node takes a handle that nobody had. So no node that was there before is changed by
it. -/
theorem draftNode (p : ProjectHandle) (engine : String) (spec : NodeSpec) (c : Controller) :
    Steady p (fun project => project) c (c.draftNode p engine spec).2 where
  project := rfl
  allocated := Nat.le_succ _
  identity h hlt := by
    show ((c.setCell c.allocated _).node h).identity = _
    rw [node_setCell_of_ne _ c (Nat.ne_of_lt hlt)]

end Steady

/-! ## Processes of the registry

What an operation of the registry does by itself, said of the control plane. -/

/-- An operation of the registry that asks nothing does as much for the control plane. Everything
but the registry is as before. -/
theorem onRegistry_settles {α : Type} {a : α} {p : Process Registry Call (fun _ => Answer) α}
    {r : Registry} (h : p.Settles c.registry a r) :
    (onRegistry p).Settles c a (c.setRegistry r) := by
  show (p.zoom Controller.registry setRegistry).Settles c a (setRegistry r c)
  refine Process.Settles.zoom ?_ ?_ ?_ h
  · exact fun _ _ => rfl
  · exact fun _ => rfl
  · exact fun _ _ _ => rfl

end Testbed.Controller

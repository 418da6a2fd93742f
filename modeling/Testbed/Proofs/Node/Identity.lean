import Testbed.Proofs.Node.Staged

/-!
# What a node keeps

A report or a request changes settings of a node and nothing else: its identity, its bindings and
its status stay. Every change of settings is a sequence of single keys, so a property of nodes that
one key keeps is kept by any number of them (`applyKeys_induction`, `merge_induction`); that is the
only induction over reports there is.

The identity survives every confirmation, and with it every path under which an engine is asked
about the node.

Nothing of this depends on what an engine reports. A report may name any key, with any value and as
often as it likes, and still it can only do what a single key can do. So what is proved here is what
the other modules use wherever a confirmation has gone by and something of the node has to be what
it was before.
-/

namespace Testbed.Node

/-- **The identity of a node**, with the directory of its captures: what is fixed when it is drawn
up. None of the five is ever assigned to again, which is why paths, claims and the directory of the
captures can be computed from any state of the node. -/
def identity (n : Node) : Uuid × Uuid × String × NodeType × OsPath :=
  (n.id, n.project, n.engine, n.nodeType, n.captureDir)

/-! ## Settings, key by key

What a single key does to the identity, the bindings and the status: nothing. Reports are many keys,
so they do nothing either. -/

section Induction

variable {P : Node → Prop} (h : ∀ n key value, P n → P (n.applyKey key value))
include h

/-- What one key keeps, any number of keys keeps. Every invariant of settings is proved with it. -/
theorem applyKeys_induction {n : Node} (entries : List (String × Json)) (hn : P n) :
    P (n.applyKeys entries) := by
  unfold applyKeys
  induction entries generalizing n with
  | nil => exact hn
  | cons e rest ih => exact ih (h n e.1 e.2 hn)

/-- What one key keeps, a report keeps. One that is no object keeps everything. -/
theorem merge_induction {n : Node} (report : Json) (hn : P n) : P (n.merge report) := by
  unfold merge
  split
  · exact applyKeys_induction h _ hn
  · exact hn

end Induction

variable {n : Node}

theorem applyKey_identity (n : Node) (key : String) (value : Json) :
    (n.applyKey key value).identity = n.identity := by
  unfold applyKey
  repeat' split
  all_goals rfl

theorem applyKey_nios (n : Node) (key : String) (value : Json) :
    (n.applyKey key value).nios = n.nios := by
  unfold applyKey
  repeat' split
  all_goals rfl

theorem applyKey_status (n : Node) (key : String) (value : Json) :
    (n.applyKey key value).status = n.status := by
  unfold applyKey
  repeat' split
  all_goals rfl

@[simp] theorem applyKeys_identity (n : Node) (entries : List (String × Json)) :
    (n.applyKeys entries).identity = n.identity :=
  applyKeys_induction (P := fun m => m.identity = n.identity)
    (fun m key value hm => (applyKey_identity m key value).trans hm) entries rfl

@[simp] theorem applyKeys_nios (n : Node) (entries : List (String × Json)) :
    (n.applyKeys entries).nios = n.nios :=
  applyKeys_induction (P := fun m => m.nios = n.nios)
    (fun m key value hm => (applyKey_nios m key value).trans hm) entries rfl

@[simp] theorem applyKeys_status (n : Node) (entries : List (String × Json)) :
    (n.applyKeys entries).status = n.status :=
  applyKeys_induction (P := fun m => m.status = n.status)
    (fun m key value hm => (applyKey_status m key value).trans hm) entries rfl

@[simp] theorem merge_identity (n : Node) (report : Json) :
    (n.merge report).identity = n.identity :=
  merge_induction (P := fun m => m.identity = n.identity)
    (fun m key value hm => (applyKey_identity m key value).trans hm) report rfl

@[simp] theorem merge_nios (n : Node) (report : Json) : (n.merge report).nios = n.nios :=
  merge_induction (P := fun m => m.nios = n.nios)
    (fun m key value hm => (applyKey_nios m key value).trans hm) report rfl

@[simp] theorem merge_status (n : Node) (report : Json) : (n.merge report).status = n.status :=
  merge_induction (P := fun m => m.status = n.status)
    (fun m key value hm => (applyKey_status m key value).trans hm) report rfl

/-! ## Confirmations

A confirmed request changes settings, bindings or the status, and of the identity nothing. Which of
them may change bindings is said here as well. -/

/-- **No confirmation changes the identity.** A stage may change status, settings and bindings, and
it may take over a whole report; but a report has no key for what a node is called by. -/
@[simp] theorem confirm_identity (stage : Stage) (report : Json) (n : Node) :
    (stage.confirm report n).identity = n.identity := by
  cases stage with
  | create => exact merge_identity n report
  | push keys => exact (merge_identity _ report).trans (applyKeys_identity n _)
  | _ => rfl

/-- No sequence of confirmations changes the identity. The reports may say what they like. -/
@[simp] theorem confirmAll_identity (n : Node) (stages : List Stage) (reports : List Json) :
    (confirmAll n stages reports).identity = n.identity := by
  induction stages generalizing n reports with
  | nil => rfl
  | cons stage rest ih =>
    cases reports with
    | nil => rfl
    | cons report reports => exact (ih _ reports).trans (confirm_identity stage report n)

/-- Whether a confirmation of a stage changes bindings. A resize itself does not; it is preceded by
stages that do. -/
def Stage.rebinds : Stage → Bool
  | bind .. | unbind _ | destroy => true
  | _ => false

theorem confirm_nios {stage : Stage} (h : stage.rebinds = false) (report : Json) (n : Node) :
    (stage.confirm report n).nios = n.nios := by
  cases stage with
  | bind | unbind | destroy => cases h
  | create => exact merge_nios n report
  | push keys => exact (merge_nios _ report).trans (applyKeys_nios n _)
  | _ => rfl

theorem confirmAll_nios {stages : List Stage} (h : ∀ stage ∈ stages, stage.rebinds = false)
    (n : Node) (reports : List Json) : (confirmAll n stages reports).nios = n.nios := by
  induction stages generalizing n reports with
  | nil => rfl
  | cons stage rest ih =>
    obtain ⟨hstage, hrest⟩ := List.forall_mem_cons.mp h
    cases reports with
    | nil => rfl
    | cons report reports => exact (ih hrest _ reports).trans (confirm_nios hstage report n)

/-! ## Paths

The paths of a node are made of its identity, so they are the same after any change. -/

theorem collectionPath_congr {m : Node} (h : m.identity = n.identity) :
    m.collectionPath = n.collectionPath := by
  obtain ⟨-, hproject, -, htype, -⟩ := by simpa [identity] using h
  rw [collectionPath, hproject, htype, ← collectionPath]

theorem path_congr {m : Node} (h : m.identity = n.identity) : m.path = n.path := by
  obtain ⟨hid, -⟩ := by simpa [identity] using h
  rw [path, collectionPath_congr h, hid, ← path]

theorem subPath_congr {m : Node} (h : m.identity = n.identity) (sub : String) :
    m.subPath sub = n.subPath sub := by
  rw [subPath, path_congr h, ← subPath]

theorem adapterPath_congr {m : Node} (h : m.identity = n.identity) (index : Nat) (leaf : String) :
    m.adapterPath index leaf = n.adapterPath index leaf := by
  rw [adapterPath, subPath_congr h, ← adapterPath]

end Testbed.Node

import Testbed.Proofs.Dict
import Testbed.Proofs.Node.Life

/-!
# Bindings are at adapters that exist

Three things move the number of adapters and the bindings against each other: a report may bring a
number of its own, a resize sets one after unbinding what lies beyond it and may be stopped halfway,
and bindings come and go. `bindings_always_bounded` says that no binding ever lies beyond the
number, not even while a request is under way.

Two of the three are harmless by their own guards. The resize is harmless because of what precedes
it: the bindings that it finds are the ones that its unbinding was for, and its number is set only
after all of them are gone.
-/

namespace Testbed.Node

variable {n m : Node}

/-- **Every binding is at an adapter that the node has.** The bindings are kept in a map by index,
and nothing in its type relates them to the number of adapters; that they agree is an invariant of
the operations, and the one that is proved here. -/
def Bounded (n : Node) : Prop := ∀ index, n.nios.contains index = true → index < n.adapters

theorem mem_boundFrom {count index : Nat} :
    index ∈ n.boundFrom count ↔ n.nios.contains index = true ∧ count ≤ index := by
  unfold boundFrom
  rw [List.mem_filter, Dict.mem_keys_iff, decide_eq_true_iff]

theorem bounded_of_unbound (h : n.nios = .empty) : n.Bounded := by
  intro index hbound
  rw [h, Dict.contains_empty] at hbound
  cases hbound

/-- A number of adapters that no binding lies beyond can be set. It may be larger than before, too.
-/
theorem bounded_resize {count : Nat} (h : n.boundFrom count = []) :
    Bounded { n with adapters := count } := by
  intro index hbound
  refine Nat.lt_of_not_le (fun hle => ?_)
  have hmem : index ∈ n.boundFrom count := mem_boundFrom.mpr ⟨hbound, hle⟩
  rw [h] at hmem
  cases hmem

theorem applyKey_bounded (n : Node) (key : String) (value : Json) (h : n.Bounded) :
    (n.applyKey key value).Bounded := by
  unfold applyKey
  cases route n.nodeType key with
  | identity | rename | property => exact h
  | field f =>
    cases f with
    | name => cases value.str? <;> exact h
    | console => exact h
    | consoleType => cases ConsoleType.decode value <;> exact h
  | adapters =>
    cases value.nat32? with
    | none => exact h
    | some count =>
      -- a reported number is taken over only if no binding lies beyond it
      dsimp only
      split
      · rename_i hempty
        exact bounded_resize (List.isEmpty_iff.mp hempty)
      · exact h

theorem merge_bounded (report : Json) (h : n.Bounded) : (n.merge report).Bounded :=
  merge_induction applyKey_bounded report h

theorem bind_bounded {index : Nat} (nio : Nio) (hindex : index < n.adapters) (h : n.Bounded) :
    (n.bind index nio).Bounded := by
  intro other hbound
  obtain rfl | hbound := (Dict.contains_insert ..).mp hbound
  · exact hindex
  · exact h other hbound

theorem unbind_bounded (index : Nat) (h : n.Bounded) : (n.unbind index).Bounded :=
  fun other hbound => h other ((Dict.contains_erase ..).mp hbound).2

/-! ## Confirmations

A binding is added within the adapters, and a number of adapters is set when nothing lies beyond it.
So what could break the bound has been excluded before it is confirmed. -/

/-- Whether a node has room for what a confirmation brings. For other confirmations nothing is
asked. -/
def Room (n : Node) : Stage → Prop
  | .bind index _ => index < n.adapters
  | .resize count => n.boundFrom count = []
  | _ => True

/-- **A confirmation that there is room for keeps the bindings bounded.** The hypothesis is what the
guards of an operation establish: a binding is confirmed only at an adapter that exists, and a
smaller number only where nothing is bound any more. -/
theorem confirm_bounded {stage : Stage} (hroom : n.Room stage) (report : Json) (h : n.Bounded) :
    (stage.confirm report n).Bounded := by
  cases stage with
  | create => exact merge_bounded report h
  | destroy => exact bounded_of_unbound rfl
  | bind index nio => exact bind_bounded nio hroom h
  | unbind index => exact unbind_bounded index h
  | push keys => exact merge_bounded report (applyKeys_induction applyKey_bounded _ h)
  | resize count => exact bounded_resize hroom
  | act | rename | startCapture | stopCapture | post | delete => exact h

theorem keptBy_single (stage : Stage) (hroom : n.Room stage) (h : n.Bounded) :
    KeptBy Bounded n [stage] :=
  fun report => ⟨confirm_bounded hroom report h, trivial⟩

/-- **Reducing the number of adapters** keeps the bindings bounded at every step, if it unbinds
whatever lies beyond the number. This is where the order of the stages matters. If one of the
requests is refused, the bindings that were still to be taken away are still there, and so is the
old number, which has room for them. -/
theorem resize_keptBy (count : Nat) (indices : List Nat) (h : n.Bounded)
    (hall : ∀ index ∈ n.boundFrom count, index ∈ indices) :
    KeptBy Bounded n (indices.map .unbind ++ [.resize count]) := by
  induction indices generalizing n with
  | nil =>
    have hnone : n.boundFrom count = [] :=
      List.eq_nil_iff_forall_not_mem.mpr fun i hi => nomatch hall i hi
    exact keptBy_single _ hnone h
  | cons index rest ih =>
    intro report
    refine ⟨unbind_bounded index h, ih (unbind_bounded index h) (fun other hother => ?_)⟩
    -- what is still beyond the number was there before, and is not the one just unbound
    obtain ⟨hbound, hle⟩ := mem_boundFrom.mp hother
    obtain ⟨hne, hbound⟩ := (Dict.contains_erase ..).mp hbound
    exact (List.mem_cons.mp (hall other (mem_boundFrom.mpr ⟨hbound, hle⟩))).resolve_left hne

/-- The stages of an update keep the bindings bounded. Its generic part may report a number of
adapters, and then it is taken over only with room for the bindings. -/
theorem update_keptBy (changes : Dict String Json) (h : n.Bounded) :
    KeptBy Bounded n (n.updateStages changes) := by
  have hroom : ∀ stage ∈ n.settingStages changes, ∀ m : Node, m.Room stage :=
    forall_mem_settingStages (fun _ _ => trivial) (fun _ _ _ => trivial) n changes
  refine keptBy_append (keptBy_of_forall (fun stage hstage report m hm => ?_) h) h
    (fun reports => ?_)
  · exact confirm_bounded (hroom stage hstage m) report hm
  · intro m hm
    -- what is to be unbound was settled before the first request
    have hnios : m.nios = n.nios := settingStages_nios n changes reports
    cases n.resizeTo? changes with
    | none => trivial
    | some count =>
      show KeptBy Bounded m (n.resizeStages count ++ [])
      rw [List.append_nil, ← resizeStages_congr hnios]
      exact resize_keptBy count _ hm (fun _ hindex => hindex)

/-- **No operation puts a binding beyond the adapters.** A report cannot do it either, since a
number that some binding is beyond is not taken over. -/
theorem Arises.keeps_bounded {step : NodeStep} {a : Agenda} (ha : Arises n step a) (h : n.Bounded) :
    a.Keeps Bounded n := by
  cases ha with
  | refused => trivial
  | looked => exact h
  | buried => exact bounded_of_unbound rfl
  | updated changes => exact update_keptBy changes h
  | bound _ hindex => exact keptBy_single (.bind ..) hindex h
  | created => exact keptBy_single .create trivial h
  | acted a => exact keptBy_single (.act a) trivial h
  | destroyed => exact keptBy_single .destroy trivial h
  | unbound => exact keptBy_single (.unbind _) trivial h
  | captureStarted => exact keptBy_single (.startCapture ..) trivial h
  | captureStopped => exact keptBy_single (.stopCapture _) trivial h
  | posted => exact keptBy_single (.post ..) trivial h
  | deleted => exact keptBy_single (.delete _) trivial h

/-- **Every binding is at an adapter that exists**, all through the life of a node: after every
operation, however it ended, and whenever a request is under way, whatever engines report.

In particular an update that is to reduce the number of adapters, and that the engine refuses after
some of the bindings are gone, leaves a node with fewer bindings and the old number, and never one
with a binding at an adapter that is not there. -/
theorem bindings_always_bounded (project : Uuid) (captureDir : OsPath) (engine : String)
    (spec : NodeSpec) (turns : List Turn) :
    Always Bounded (draft project captureDir engine spec) turns :=
  always_of_keeps (fun n step => (n.agenda_arises step).keeps_bounded) (bounded_of_unbound rfl)
    turns

end Testbed.Node

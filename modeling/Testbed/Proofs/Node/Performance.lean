import Testbed.Proofs.Node.Identity
import Testbed.Proofs.Node.Plan

/-!
# Every operation performs its agenda

The operations of a node are written as sequences of looks, lookups, requests and changes. This
module reads off each of them that it does what `Node.agenda` says: `nodeOp_performed` is the one
theorem about all of them, and everything that holds of a node over its life is derived from it
without looking at an operation again.

The proof has a rule for each of the basic operations (`meets_self`, `meets_send`, …) and one for
each way in which they are put together. The rule that matters is `meets_request`: a request
followed by the change that its confirmation calls for is a stage, and what comes after starts at
the changed node.
-/

namespace Testbed.Node

open Process (Transcript meets_andThen meets_bind meets_congr)

variable {α β : Type} {n : Node}

/-! ## Rules of the basic operations

An operation is built of looks at the node, changes of it, lookups and requests. Each has one rule,
which says what the record of the whole is if the record of the rest is known. -/

/-- The record of an operation whose result is made into another one. Questions and node are not
touched. -/
def give (g : α → β) (t : Record α) : Record β :=
  ⟨t.exchanges, t.result.map (Except.map g), t.after⟩

theorem meets_map {x : Op α} {g : α → β} {post : Record β → Prop} :
    (g <$> x).run.Meets n post ↔ x.run.Meets n (fun t => post (give g t)) := by
  refine meets_bind.trans (meets_congr fun t => ?_)
  obtain ⟨log, result, after⟩ := t
  match result with
  | some (.ok a) =>
    show post ⟨log ++ [], some (.ok (g a)), after⟩ ↔ _
    rw [List.append_nil]
    rfl
  | some (.error e) =>
    show post ⟨log ++ [], some (.error e), after⟩ ↔ _
    rw [List.append_nil]
    rfl
  | none => exact Iff.rfl

theorem meets_pure {a : α} {post : Record α → Prop} :
    (pure a : Op α).run.Meets n post ↔ post ⟨[], some (.ok a), n⟩ := Iff.rfl

theorem meets_throw {e : ControlError} {post : Record α → Prop} :
    (throw e : Op α).run.Meets n post ↔ post ⟨[], some (.error e), n⟩ := Iff.rfl

theorem meets_self {post : Record Node → Prop} :
    self.run.Meets n post ↔ post ⟨[], some (.ok n), n⟩ :=
  ⟨fun h => h.2, fun h => ⟨rfl, h⟩⟩

theorem meets_edit {f : Node → Node} {post : Record Unit → Prop} :
    (edit f).run.Meets n post ↔ post ⟨[], some (.ok ()), f n⟩ :=
  ⟨fun h => h.2, fun h => ⟨rfl, h⟩⟩

/-- Looking at the node and going on. -/
theorem meets_self_andThen {f : Node → Op α} {post : Record α → Prop} :
    (self >>= f).run.Meets n post ↔ (f n).run.Meets n post := by
  rw [meets_andThen, meets_self]
  exact Iff.rfl

/-- Changing the node and going on. A change asks nothing, so it leaves nothing in the record but
its effect. -/
theorem meets_edit_andThen {g : Node → Node} {f : Unit → Op α} {post : Record α → Prop} :
    (edit g >>= f).run.Meets n post ↔ (f ()).run.Meets (g n) post := by
  rw [meets_andThen, meets_edit]
  exact Iff.rfl

theorem meets_findEngine {post : Record Client → Prop} :
    findEngine.run.Meets n post ↔
      (∀ client, post ⟨[⟨n, .engine n.engine, some (.ok client)⟩], some (.ok client), n⟩)
        ∧ (∀ e, post
            ⟨[⟨n, .engine n.engine, some (.error e)⟩], some (.error (engineMissing e)), n⟩)
        ∧ post ⟨[⟨n, .engine n.engine, none⟩], none, n⟩ := by
  unfold findEngine
  rw [meets_self_andThen, ← and_assoc]
  refine and_congr ⟨fun h => ⟨fun client => h (.ok client), fun e => h (.error e)⟩, ?_⟩ Iff.rfl
  rintro ⟨hok, herror⟩ (e | client)
  · exact herror e
  · exact hok client

theorem meets_send {client : Client} {request : Request} {post : Record Json → Prop} :
    (send client request).run.Meets n post ↔
      (∀ v, post ⟨[⟨n, .send ⟨client, request⟩, some (.ok v)⟩], some (.ok v), n⟩)
        ∧ (∀ e, post
            ⟨[⟨n, .send ⟨client, request⟩, some (.error e)⟩], some (.error (.ofEngine e)), n⟩)
        ∧ post ⟨[⟨n, .send ⟨client, request⟩, none⟩], none, n⟩ := by
  unfold send
  rw [← and_assoc]
  refine and_congr ⟨fun h => ⟨fun v => h (.ok v), fun e => h (.error e)⟩, ?_⟩ Iff.rfl
  rintro ⟨hok, herror⟩ (e | v)
  · exact herror e
  · exact hok v

/-! ## Rules of stages

A stage is a request and the change that follows its confirmation, with any number of lookups before
it. The rules of the parts are put together here once, and what is performed later is read in stages
only. -/

section Stages

variable {stage : Stage} {rest : List Stage} {value : List Json → α}

/-- Nothing is left to do. -/
theorem meets_finish {a : α} (h : value [] = a) : (pure a : Op α).run.Meets n (Yields n [] value) :=
  meets_pure.mpr ⟨[], some (.ok ()), .finished n, by rw [← h]; rfl⟩

/-- **Looking for the engine** before a stage. The lookup shows in the exchanges and does nothing to
the node, and without an engine the operation ends there. -/
theorem meets_lookup {f : Client → Op α}
    (h : ∀ client, (f client).run.Meets n (Yields n (stage :: rest) value)) :
    (findEngine >>= f).run.Meets n (Yields n (stage :: rest) value) := by
  rw [meets_andThen, meets_findEngine]
  refine ⟨fun client => (h client).mono ?_, fun e => ?_, ?_⟩
  · rintro t ⟨reports, ending, hs, hr⟩
    exact ⟨reports, ending, .found client hs, hr⟩
  · exact ⟨[], _, .missing .., rfl⟩
  · exact ⟨[], none, .unfound .., rfl⟩

/-- **Requesting a stage.** What follows the confirmation runs from the node as it was and is the
record of the stages that are left, from the node that the confirmation makes. -/
theorem meets_request (stage : Stage) {client : Client} {f : Json → Op α}
    (h : ∀ report, (f report).run.Meets n
      (Yields (stage.confirm report n) rest (fun reports => value (report :: reports)))) :
    (send client (stage.request n) >>= f).run.Meets n (Yields n (stage :: rest) value) := by
  rw [meets_andThen, meets_send]
  refine ⟨fun report => (h report).mono ?_, fun e => ?_, ?_⟩
  · rintro t ⟨reports, ending, hs, hr⟩
    exact ⟨report :: reports, ending, .confirmed client report hs, hr⟩
  · exact ⟨[], _, .refused .., rfl⟩
  · exact ⟨[], none, .unanswered .., rfl⟩

/-- **Some stages after others**, the later ones from any node that the earlier ones make. This is
the rule for operations that are written one after the other, as the three parts of an update are.
-/
theorem meets_stages {x : Op α} {f : α → Op β} {stages later : List Stage} {a : α} {b : β}
    (hx : x.run.Meets n (Yields n stages fun _ => a))
    (hf : ∀ reports, let m := confirmAll n stages reports
      (f a).run.Meets m (Yields m later fun _ => b)) :
    (x >>= f).run.Meets n (Yields n (stages ++ later) fun _ => b) := by
  rw [meets_andThen]
  refine hx.mono ?_
  rintro ⟨log, result, m⟩ ⟨reports, ending, hs, hr⟩
  -- the later stages are reached only if the earlier ones ended well
  match ending with
  | some (.ok ()) =>
    cases hr
    obtain rfl : m = confirmAll n stages reports := hs.after_eq
    refine (hf reports).mono ?_
    rintro t ⟨reports', ending', hs', hr'⟩
    exact ⟨reports ++ reports', ending', hs.append hs', hr'⟩
  | some (.error e) =>
    cases hr
    exact ⟨reports, _, hs.cut later (by rintro ⟨⟩), rfl⟩
  | none =>
    cases hr
    exact ⟨reports, _, hs.cut later (by rintro ⟨⟩), rfl⟩

/-- The same stages yield what is made of their value. -/
theorem Yields.give {g : α → β} {stages : List Stage} {t : Record α}
    (h : Yields n stages value t) :
    Yields n stages (fun reports => g (value reports)) (give g t) := by
  obtain ⟨reports, ending, hs, hr⟩ := h
  refine ⟨reports, ending, hs, ?_⟩
  show t.result.map (Except.map g) = _
  rw [hr]
  match ending with
  | some (.ok ()) => rfl
  | some (.error e) => rfl
  | none => rfl

end Stages

/-! ## Guards

Before its first stage an operation may end in an error. Then nothing was asked and the node is as
it was, which is what its agenda calls a refusal. -/

section Guards

variable {g : α → Outcome} {a : Agenda}

/-- The record of an operation that ends in an error at once. -/
theorem performed_throw {e : ControlError} :
    (throw e : Op α).run.Meets n (fun t => (Agenda.refuse e).Performed n (give g t)) :=
  meets_throw.mpr rfl

/-- An operation that needs the node to exist on its engine. -/
theorem performed_whenCreated {verb : NodeVerb} {f : Unit → Op α}
    (h : n.status.isCreated = true → (f ()).run.Meets n (fun t => a.Performed n (give g t))) :
    (requireCreated verb >>= f).run.Meets n
      (fun t => (n.whenCreated verb a).Performed n (give g t)) := by
  unfold requireCreated whenCreated
  rw [meets_andThen, meets_self_andThen]
  by_cases hc : n.status.isCreated = true
  · rw [if_pos hc, if_pos hc]
    exact h hc
  · rw [if_neg hc, if_neg hc]
    exact performed_throw

/-- An operation that needs the node to have an adapter. -/
theorem performed_whenAdapter {index : Nat} {f : Unit → Op α}
    (h : index < n.adapters → (f ()).run.Meets n (fun t => a.Performed n (give g t))) :
    (requireAdapter index >>= f).run.Meets n
      (fun t => (n.whenAdapter index a).Performed n (give g t)) := by
  unfold requireAdapter whenAdapter
  rw [meets_andThen, meets_self_andThen]
  by_cases hi : index < n.adapters
  · rw [if_pos hi, if_pos hi]
    exact h hi
  · rw [if_neg hi, if_neg hi]
    exact performed_throw

/-- **An operation that goes to the engine.** What it yields is made into the outcome. Every
operation with a request begins like this, so that what is left to show of it is the part after the
engine was found. -/
theorem performed_lookup {stage : Stage} {rest : List Stage} {v : List Json → α}
    {outcome : List Json → Outcome} {f : Client → Op α}
    (houtcome : ∀ reports, g (v reports) = outcome reports)
    (h : ∀ client, (f client).run.Meets n (Yields n (stage :: rest) v)) :
    (findEngine >>= f).run.Meets n
      (fun t => (Agenda.carryOut (stage :: rest) outcome).Performed n (give g t)) := by
  obtain rfl : (fun reports => g (v reports)) = outcome := funext houtcome
  exact (meets_lookup h).mono (fun t => Yields.give)

end Guards

/-! ## The parts of an update

The loops of an update over bindings, and its three optional calls, are taken one by one. They are
joined at the end, with the keys that each of them gives back. -/

section Update

variable {client : Client}

/-- Unbinding adapters. Each binding is forgotten as soon as its own request is confirmed, so an
interrupted loop leaves the later ones. -/
theorem unbindAll_yields (n : Node) (indices : List Nat) :
    (unbindAll client indices).run.Meets n (Yields n (indices.map .unbind) fun _ => ()) := by
  induction indices generalizing n with
  | nil => exact meets_finish rfl
  | cons index rest ih =>
    unfold unbindAll
    rw [meets_self_andThen]
    refine meets_request (.unbind index) (fun report => ?_)
    rw [meets_edit_andThen]
    exact ih _

/-- The generic update. -/
theorem pushStage_yields (n : Node) (keys : Dict String Json) :
    (pushStage client keys).run.Meets n (Yields n (pushStages keys) fun _ => keys.keys) := by
  unfold pushStage pushStages
  by_cases hkeys : keys.isEmpty = true
  · rw [if_pos hkeys, if_pos hkeys]
    refine meets_finish ?_
    -- without keys nothing is given back
    show keys.keys = []
    unfold Dict.keys
    rw [List.isEmpty_iff.mp hkeys]
    rfl
  · rw [if_neg hkeys, if_neg hkeys, meets_self_andThen]
    refine meets_request (.push keys) (fun report => ?_)
    rw [meets_edit_andThen]
    exact meets_finish rfl

/-- The rename call. -/
theorem renameStage_yields (n : Node) (key : String) (name : Option Json) :
    (renameStage client (name.map (key, ·))).run.Meets n
      (Yields n (name.toList.map (.rename key)) fun _ => name.toList.map fun _ => key) := by
  match name with
  | none => exact meets_finish rfl
  | some value =>
    show (self >>= _).run.Meets n _
    rw [meets_self_andThen]
    refine meets_request (.rename key value) (fun report => ?_)
    rw [meets_edit_andThen]
    exact meets_finish rfl

/-- Changing the number of adapters. -/
theorem resize_yields (n : Node) (count : Nat) :
    (resize count).run.Meets n (Yields n (n.resizeStages count) fun _ => ()) := by
  obtain ⟨stage, rest, hstages⟩ : ∃ stage rest, n.resizeStages count = stage :: rest :=
    List.exists_cons_of_ne_nil (List.append_ne_nil_of_right_ne_nil _ (List.cons_ne_nil _ _))
  unfold resize
  rw [hstages]
  refine meets_lookup (fun client => ?_)
  rw [meets_self_andThen, ← hstages]
  refine meets_stages (unbindAll_yields n _) (fun reports => ?_)
  -- the path was made before anything was unbound
  have hpath := subPath_congr (confirmAll_identity n ((n.boundFrom count).map .unbind) reports)
    "adapters"
  rw [← hpath]
  exact meets_request (.resize count) (fun report => meets_edit.mpr (meets_finish rfl))

/-- Changing the number of adapters, if that is asked for. -/
theorem resizeStage_yields (n : Node) (count : Option Nat) :
    (resizeStage count).run.Meets n
      (Yields n (count.toList.flatMap n.resizeStages)
        fun _ => count.toList.map fun _ => "adapters") := by
  match count with
  | none => exact meets_finish rfl
  | some count =>
    have hlist : (some count).toList.flatMap n.resizeStages = n.resizeStages count ++ [] := rfl
    rw [hlist]
    exact meets_stages (resize_yields n count) (fun reports => meets_finish rfl)

/-- What has to be unbound depends on the bindings only. -/
theorem boundFrom_congr {m : Node} (h : m.nios = n.nios) (count : Nat) :
    m.boundFrom count = n.boundFrom count := by
  unfold boundFrom
  rw [h]

theorem resizeStages_congr {m : Node} (h : m.nios = n.nios) (count : Nat) :
    m.resizeStages count = n.resizeStages count := by
  unfold resizeStages
  rw [boundFrom_congr h]

/-- The keys that an update gives back, stage by stage. -/
theorem keys_updateStages (n : Node) (changes : Dict String Json) :
    (n.updateStages changes).flatMap Stage.keys
      = (changes.filter n.pushes).keys ++ ((n.renameTo? changes).toList.map fun _ => "vmname")
        ++ ((n.resizeTo? changes).toList.map fun _ => "adapters") := by
  have hpush : (pushStages (changes.filter n.pushes)).flatMap Stage.keys
      = (changes.filter n.pushes).keys := by
    unfold pushStages
    split
    · rename_i hempty
      unfold Dict.keys
      rw [List.isEmpty_iff.mp hempty]
      rfl
    · exact List.append_nil _
  have hunbind : ∀ indices : List Nat, (indices.map Stage.unbind).flatMap Stage.keys = [] :=
    fun indices => by
      rw [List.flatMap_map]
      exact List.flatMap_eq_nil_iff.mpr fun _ _ => rfl
  unfold updateStages settingStages
  rw [List.flatMap_append, List.flatMap_append, hpush]
  congr 1
  · cases n.renameTo? changes <;> rfl
  · cases n.resizeTo? changes with
    | none => rfl
    | some count =>
      show ((n.resizeStages count ++ []).flatMap Stage.keys) = _
      rw [List.append_nil, resizeStages, List.flatMap_append, hunbind]
      rfl

/-- The stages before the adapters leave the bindings alone. So the adapters that have to be unbound
may be computed before or after these stages. -/
theorem settingStages_nios (n : Node) (changes : Dict String Json) (reports : List Json) :
    (confirmAll n (n.settingStages changes) reports).nios = n.nios :=
  confirmAll_nios (forall_mem_settingStages (fun _ => rfl) (fun _ _ => rfl) n changes) n reports

/-- **An update whose plan is made** sends its stages. The parts look at the node again before they
send, and see it with the changes of the parts before. None of these changes matters to what is
sent. -/
theorem sendPlan_yields (client : Client) (n : Node) (changes : Dict String Json) :
    (do
      let pushed ← pushStage client (changes.filter n.pushes)
      let renamed ← renameStage client ((n.renameTo? changes).map ("vmname", ·))
      let resized ← resizeStage (n.resizeTo? changes)
      return pushed ++ renamed ++ resized : Op (List String)).run.Meets n
      (Yields n (n.updateStages changes) fun _ => (n.updateStages changes).flatMap Stage.keys) := by
  have hrebinds := forall_mem_settingStages (P := fun stage => stage.rebinds = false)
    (fun _ => rfl) (fun _ _ => rfl) n changes
  rw [keys_updateStages]
  unfold updateStages settingStages
  rw [List.append_assoc]
  refine meets_stages (pushStage_yields n _) (fun reports => ?_)
  refine meets_stages (renameStage_yields _ _ _) (fun reports' => ?_)
  -- the bindings are those of the beginning, so the same ones have to be unbound
  have hnios : (confirmAll (confirmAll n (pushStages (changes.filter n.pushes)) reports)
      ((n.renameTo? changes).toList.map (.rename "vmname")) reports').nios = n.nios :=
    (confirmAll_nios (fun stage h => hrebinds stage (List.mem_append_right _ h)) _ reports').trans
      (confirmAll_nios (fun stage h => hrebinds stage (List.mem_append_left _ h)) n reports)
  rw [← funext (resizeStages_congr hnios), ← List.append_nil (List.flatMap _ _)]
  exact meets_stages (resizeStage_yields _ _) (fun reports => meets_finish rfl)

/-- There is nothing to send exactly if there is no stage. In this case an update returns without
looking for the engine. -/
theorem plan_isEmpty_iff (n : Node) (changes : Dict String Json) :
    (Plan.isEmpty {
      push := changes.filter n.pushes
      rename := (n.renameTo? changes).map ("vmname", ·)
      resize := n.resizeTo? changes }) = true ↔ n.updateStages changes = [] := by
  unfold updateStages settingStages pushStages Plan.isEmpty resizeStages
  cases n.renameTo? changes <;> cases n.resizeTo? changes <;> simp

/-- **An update performs its agenda.** What is planned is planned once, before the first request, as
in the agenda. -/
theorem update_performed (n : Node) (changes : Dict String Json) :
    (update changes).run.Meets n
      (fun t => (n.agenda (.update changes)).Performed n (give .keys t)) := by
  unfold update agenda
  refine performed_whenCreated (fun _ => ?_)
  rw [meets_self_andThen, plan_eq]
  cases changes.entries.findSome? (fun e => n.objection? e.1 e.2) with
  | some cause => exact meets_andThen.mpr (performed_throw (g := Outcome.keys))
  | none =>
    rw [meets_andThen, meets_pure]
    show Process.Meets (ExceptT.run (if _ then _ else _)) n (fun t => Yields ..)
    -- the engine is not looked for if there is nothing to send
    have hempty := plan_isEmpty_iff n changes
    by_cases hp : n.updateStages changes = []
    · rw [if_pos (hempty.mpr hp), hp]
      exact (meets_finish rfl).mono (fun t => Yields.give)
    · rw [if_neg (fun h => hp (hempty.mp h))]
      obtain ⟨stage, rest, hstages⟩ := List.exists_cons_of_ne_nil hp
      have hplan := fun client => sendPlan_yields client n changes
      rw [hstages] at hplan ⊢
      exact (meets_lookup hplan).mono (fun t => Yields.give)

end Update

/-! ## The operations of a single request

Everything else sends one request at most, so it is one guard after the other and then one stage.
What remains is to compare each of them with its agenda. -/

section Single

/-- A request that a change follows. -/
theorem edit_yields (stage : Stage) {client : Client} {f : Node → Node} {x : Op α} {a : α}
    (hf : ∀ report, stage.confirm report n = f n)
    (hx : ∀ m, x.run.Meets m (Yields m [] fun _ => a)) :
    (send client (stage.request n) >>= fun _ => edit f >>= fun _ => x).run.Meets n
      (Yields n [stage] fun _ => a) := by
  refine meets_request stage (fun report => ?_)
  rw [meets_edit_andThen, ← hf report]
  exact hx _

/-- A request whose report is given back. -/
theorem send_yields (stage : Stage) {client : Client}
    (hstage : ∀ report, stage.confirm report n = n) :
    (send client (stage.request n)).run.Meets n
      (Yields n [stage] fun reports => reports.headD .null) := by
  refine meets_send.mpr ⟨fun report => ?_, fun e => ?_, ?_⟩
  · refine ⟨[report], some (.ok ()), .confirmed client report ?_, rfl⟩
    rw [hstage report]
    exact .finished n
  · exact ⟨[], _, .refused .., rfl⟩
  · exact ⟨[], none, .unanswered .., rfl⟩

theorem create_performed (n : Node) :
    create.run.Meets n (fun t => (n.agenda .create).Performed n (give (fun _ => .done) t)) := by
  unfold create agenda
  rw [meets_self_andThen]
  by_cases hp : n.status = .pending
  · rw [if_pos hp, if_neg (not_not_intro hp)]
    refine performed_lookup (v := fun _ => ()) (fun _ => rfl) (fun client => ?_)
    refine meets_request .create (fun report => ?_)
    exact meets_edit.mpr (meets_finish rfl)
  · rw [if_neg hp, if_pos hp]
    exact meets_andThen.mpr (performed_throw (g := fun _ => Outcome.done))

theorem act_performed (n : Node) (a : Action) :
    (act a).run.Meets n (fun t => (n.agenda (.act a)).Performed n (give (fun _ => .done) t)) := by
  refine performed_whenCreated (fun _ => ?_)
  refine performed_lookup (v := fun _ => ()) (fun _ => rfl) (fun client => ?_)
  rw [meets_self_andThen]
  refine meets_request (.act a) (fun report => ?_)
  exact meets_edit.mpr (meets_finish rfl)

theorem destroy_performed (n : Node) :
    destroy.run.Meets n (fun t => (n.agenda .destroy).Performed n (give (fun _ => .done) t)) := by
  unfold destroy agenda
  rw [meets_self_andThen]
  cases n.status with
  | deleted => exact performed_throw
  | pending => exact meets_edit.mpr rfl
  | created | started | stopped | suspended =>
    refine performed_lookup (v := fun _ => ()) (fun _ => rfl) (fun client => ?_)
    refine meets_request .destroy (fun report => ?_)
    exact meets_edit.mpr (meets_finish rfl)

theorem post_performed (n : Node) (sub : String) (body : Option Json) :
    (post sub body).run.Meets n
      (fun t => (n.agenda (.post sub body)).Performed n (give .json t)) := by
  refine performed_lookup (v := fun reports => reports.headD .null) (fun _ => rfl)
    (fun client => ?_)
  rw [meets_self_andThen]
  exact send_yields (.post sub body) (fun report => rfl)

theorem delete_performed (n : Node) (sub : String) :
    (delete sub).run.Meets n (fun t => (n.agenda (.delete sub)).Performed n (give .json t)) := by
  refine performed_lookup (v := fun reports => reports.headD .null) (fun _ => rfl)
    (fun client => ?_)
  rw [meets_self_andThen]
  exact send_yields (.delete sub) (fun report => rfl)

theorem addNio_performed (n : Node) (index : Nat) (spec : Json) :
    (addNio index spec).run.Meets n (fun t =>
      (n.agenda (.addNio index spec)).Performed n (give (fun nio => .nio (some nio)) t)) := by
  refine performed_whenCreated (fun _ => performed_whenAdapter fun _ => ?_)
  rw [meets_self_andThen]
  by_cases hbound : n.nios.contains index = true
  · rw [if_pos hbound, if_pos hbound]
    exact meets_andThen.mpr (performed_throw (g := fun nio => Outcome.nio (some nio)))
  · rw [if_neg hbound, if_neg hbound]
    cases Nio.ofSpec spec with
    | error cause => exact performed_throw (g := fun nio => Outcome.nio (some nio))
    | ok nio =>
      refine performed_lookup (v := fun _ => nio) (fun _ => rfl) (fun client => ?_)
      exact edit_yields (.bind index nio) (fun report => rfl) (fun m => meets_finish rfl)

theorem removeNio_performed (n : Node) (index : Nat) :
    (removeNio index).run.Meets n (fun t =>
      (n.agenda (.removeNio index)).Performed n (give (fun nio => .nio (some nio)) t)) := by
  refine performed_whenCreated (fun _ => ?_)
  rw [meets_self_andThen]
  cases n.nios.get? index with
  | none => exact performed_throw (g := fun nio => Outcome.nio (some nio))
  | some nio =>
    refine performed_lookup (v := fun _ => nio) (fun _ => rfl) (fun client => ?_)
    exact edit_yields (.unbind index) (fun report => rfl) (fun m => meets_finish rfl)

theorem startCapture_performed (n : Node) (index : Nat) (file : String) :
    (startCapture index file).run.Meets n (fun t =>
      (n.agenda (.startCapture index file)).Performed n (give .path t)) := by
  refine performed_whenCreated (fun _ => performed_whenAdapter fun _ => ?_)
  rw [meets_self_andThen]
  refine performed_lookup (v := fun _ => n.captureFile file) (fun _ => rfl) (fun client => ?_)
  exact meets_request (.startCapture index (n.captureFile file))
    (fun report => meets_finish rfl)

theorem stopCapture_performed (n : Node) (index : Nat) :
    (stopCapture index).run.Meets n (fun t =>
      (n.agenda (.stopCapture index)).Performed n (give (fun _ => .done) t)) := by
  refine performed_whenCreated (fun _ => performed_whenAdapter fun _ => ?_)
  refine performed_lookup (v := fun _ => ()) (fun _ => rfl) (fun client => ?_)
  rw [meets_self_andThen]
  exact meets_request (.stopCapture index) (fun report => meets_finish rfl)

end Single

/-- **Every operation of a node performs its agenda**, whatever it is answered. This is where the
operations as they are written and the agendas as they are meant come together: the modules about
single operations, about the whole life of a node and about what may be sent begin here, and none of
them unfolds an operation again. -/
theorem nodeOp_performed (n : Node) (step : NodeStep) :
    (Scenario.nodeOp step).run.Meets n ((n.agenda step).Performed n) := by
  cases step with
  | create => exact meets_map.mpr (create_performed n)
  | act a => exact meets_map.mpr (act_performed n a)
  | destroy => exact meets_map.mpr (destroy_performed n)
  | update changes => exact meets_map.mpr (update_performed n changes)
  | post sub body => exact meets_map.mpr (post_performed n sub body)
  | delete sub => exact meets_map.mpr (delete_performed n sub)
  | addNio index spec => exact meets_map.mpr (addNio_performed n index spec)
  | removeNio index => exact meets_map.mpr (removeNio_performed n index)
  | nio index => exact meets_map.mpr (meets_self.mpr rfl)
  | startCapture index file => exact meets_map.mpr (startCapture_performed n index file)
  | stopCapture index => exact meets_map.mpr (stopCapture_performed n index)
  | inspect => exact meets_map.mpr (meets_self.mpr rfl)

end Testbed.Node

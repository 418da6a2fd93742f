import Testbed.Proofs.Nio
import Testbed.Proofs.Node.Life
import Testbed.Proofs.Node.Paths

/-!
# Bindings and status are a replay of the confirmed requests

An engine that confirms a request has done what the request says. `Mirror.confirm` says what that
is for the bindings and the status of a node, from the method, the path and the body alone, and
`Mirror.replay` goes through the requests of an operation that were confirmed. The main result is
that a node never has other bindings or another status than the replay has (`life_tracks`): nothing
is taken over before it is confirmed, nothing that is confirmed is forgotten, and no report moves
either of them.

A caller's own requests below the node are left out. They could be any of the node's requests, and
the node takes no notice of them.
-/

namespace Testbed

open Node

/-- **What a replay follows**: the bindings and the status. All else of a node can be changed by
reports, and so it cannot be told from the requests alone. -/
structure Mirror where
  /-- The bindings, by adapter. -/
  nios : Dict Nat Nio
  /-- The status. -/
  status : NodeStatus

/-- The bindings and the status of a node. -/
def Node.mirror (n : Node) : Mirror := ⟨n.nios, n.status⟩

namespace Mirror

/-- The bindings and the status of a node that was just drawn up. Nothing was confirmed yet. -/
def start : Mirror := ⟨.empty, .pending⟩

/-- The statuses that requests below a node lead to. -/
def words : List (String × NodeStatus) :=
  [("start", .started), ("resume", .started), ("stop", .stopped), ("suspend", .suspended)]

/-- The status that a path stands for, if it stands for one. Other requests below the node leave the
status alone. -/
def statusAt? (n : Node) (path : String) : Option NodeStatus :=
  (words.find? (fun w => path = n.subPath w.1)).map (·.2)

/-- **What a confirmed request for a node says.** The request is read by its method, its path and
its body, without asking which operation sent it. A request that is about neither of the two leaves
both. -/
def confirm (n : Node) (m : Mirror) (r : Request) : Mirror :=
  match r.method with
  | .post =>
    if r.path = n.collectionPath then { m with status := .created }
    else
      match statusAt? n r.path, n.bindingAt? r.path, r.body.map Nio.decode with
      | some status, _, _ => { m with status }
      | none, some index, some (.ok nio) => { m with nios := m.nios.insert index nio }
      | _, _, _ => m
  | .delete =>
    if r.path = n.path then { nios := .empty, status := .deleted }
    else
      match n.bindingAt? r.path with
      | some index => { m with nios := m.nios.erase index }
      | none => m
  | .get | .put => m

end Mirror

/-- The request of a question, if it was confirmed. -/
def Node.Exchange.confirmed? (x : Node.Exchange) : Option Request :=
  match x with
  | ⟨_, .send call, some (.ok _)⟩ => some call.request
  | _ => none

/-- The requests of an operation that were confirmed, in order. -/
def Node.Episode.confirmed (e : Episode) : List Request :=
  e.record.exchanges.filterMap Node.Exchange.confirmed?

/-- **The replay of an operation**: its confirmed requests one after another. To destroy a node that
was never created takes no request. A request that was refused, or that was never answered, counts
for nothing. -/
def Mirror.replay (n : Node) (m : Mirror) (e : Episode) : Mirror :=
  match e.step, m.status with
  | .destroy, .pending => { m with status := .deleted }
  | _, _ => e.confirmed.foldl (confirm n) m

/-- **The replay agrees with the node after every operation**, from some bindings and status on. The
replay is never set right by the node: it goes on from what it had, so that a single request that
the node takes notice of and the replay does not would show from then on. -/
def Mirror.Tracks (n : Node) : Mirror → List Episode → Prop
  | _, [] => True
  | m, e :: rest => e.record.after.mirror = m.replay n e ∧ Tracks n (m.replay n e) rest

/-- Whether an operation is a caller's own request below the node. What such a request does to an
engine cannot be told from its path. -/
def NodeStep.isRaw : NodeStep → Bool
  | post .. | delete _ => true
  | _ => false

namespace Node

variable {n m : Node}

/-! ## What the stages say

A request is read by its method and path alone, without the operation that sent it. For every kind
of stage it is shown that this reading and the change that the operation makes agree. -/

theorem statusAt_subPath {sub : String} (h : FilePath.isAbsolute sub = false) :
    Mirror.statusAt? n (n.subPath sub) = (Mirror.words.find? (fun w => sub = w.1)).map (·.2) := by
  have hwords : ∀ w ∈ Mirror.words, FilePath.isAbsolute w.1 = false := by decide
  unfold Mirror.statusAt?
  rw [← List.head?_filter, ← List.head?_filter]
  congr 2
  refine List.filter_congr fun w hw => ?_
  rw [decide_eq_decide]
  exact subPath_inj h (hwords w hw)

theorem statusAt_adapterPath (index : Nat) (leaf : String) :
    Mirror.statusAt? n (n.adapterPath index leaf) = none := by
  have hwords : ∀ w ∈ Mirror.words, FilePath.isAbsolute w.1 = false
      ∧ w.1.toList.head? ≠ some 'a' := by decide
  unfold Mirror.statusAt?
  rw [Option.map_eq_none_iff, List.find?_eq_none]
  intro w hw heq
  obtain ⟨habsolute, hfirst⟩ := hwords w hw
  exact adapterPath_ne_subPath habsolute hfirst index leaf (of_decide_eq_true heq)

variable {mirror : Mirror} {body : Option Json}

/-- A request in the collection creates the node. -/
theorem confirm_post_collectionPath :
    mirror.confirm n (.post n.collectionPath body) = { mirror with status := .created } := by
  unfold Mirror.confirm Request.post
  dsimp only
  rw [if_pos rfl]

/-- Deleting the node clears the bindings. -/
theorem confirm_delete_path :
    mirror.confirm n (.delete n.path) = { nios := .empty, status := .deleted } := by
  unfold Mirror.confirm Request.delete
  dsimp only
  rw [if_pos rfl]

/-- A request elsewhere than in the collection is read off its path. -/
theorem confirm_post {path : String} (h : path ≠ n.collectionPath) :
    mirror.confirm n (.post path body) =
      match Mirror.statusAt? n path, n.bindingAt? path, body.map Nio.decode with
      | some status, _, _ => { mirror with status }
      | none, some index, some (.ok nio) => { mirror with nios := mirror.nios.insert index nio }
      | _, _, _ => mirror := by
  unfold Mirror.confirm Request.post
  dsimp only
  rw [if_neg h]

/-- A deletion of something else than the node is read off its path. -/
theorem confirm_delete {path : String} (h : path ≠ n.path) :
    mirror.confirm n (.delete path) =
      match n.bindingAt? path with
      | some index => { mirror with nios := mirror.nios.erase index }
      | none => mirror := by
  unfold Mirror.confirm Request.delete
  dsimp only
  rw [if_neg h]

/-- A request below the node that is about no adapter leads to the status that its path stands
for. -/
theorem confirm_post_subPath (sub : String) (h : FilePath.isAbsolute sub = false)
    (hfirst : sub.toList.head? ≠ some 'a') :
    mirror.confirm n (.post (n.subPath sub) body) =
      { mirror with
        status := ((Mirror.words.find? (fun w => sub = w.1)).map (·.2)).getD mirror.status } := by
  have hbinding : n.bindingAt? (n.subPath sub) = none :=
    bindingAt_eq_none fun index heq => adapterPath_ne_subPath h hfirst index "nio" heq.symm
  rw [confirm_post (subPath_ne_collectionPath sub), statusAt_subPath h, hbinding]
  cases (Mirror.words.find? (fun w => sub = w.1)).map (·.2) <;> rfl

/-- A request about an adapter that is not about its binding says nothing. -/
theorem confirm_post_adapterPath {leaf : String} (h : leaf.toList.getLast? = some 'e')
    (index : Nat) : mirror.confirm n (.post (n.adapterPath index leaf) body) = mirror := by
  rw [confirm_post (adapterPath_ne_collectionPath index leaf), statusAt_adapterPath,
    bindingAt_eq_none (adapterPath_ne_nio h index)]

/-- **Whether the request of a stage says what its confirmation does**: it is none of a caller's
own, and the NIO of a binding can be read from the body. The NIO of a stage went through the checks
of a description, and these make sure that it can be read back. -/
def Stage.Telling : Stage → Prop
  | bind _ nio => Nio.decode nio.toJson = .ok nio
  | post .. | delete _ => False
  | _ => True

/-- **A confirmation does what its request says.** One case for each kind of request; the paths are
told apart by what stands behind the node's own. -/
theorem confirm_mirror {stage : Stage} (h : stage.Telling) (report : Json) (n : Node) :
    (stage.confirm report n).mirror = n.mirror.confirm n (stage.request n) := by
  cases stage with
  | create =>
    -- the report may have any keys, but none of them is the bindings
    show Mirror.mk (n.merge report).nios .created
      = n.mirror.confirm n (.post n.collectionPath (some (.ofDict n.createBody)))
    rw [merge_nios, confirm_post_collectionPath]
    rfl
  | act a =>
    have habsolute : FilePath.isAbsolute a.verb.text = false := by cases a <;> rfl
    have hfirst : a.verb.text.toList.head? ≠ some 'a' := by cases a <;> decide
    show _ = n.mirror.confirm n (.post (n.subPath a.verb.text) none)
    rw [confirm_post_subPath a.verb.text habsolute hfirst]
    cases a <;> rfl
  | destroy =>
    show _ = n.mirror.confirm n (.delete n.path)
    rw [confirm_delete_path]
    rfl
  | bind index nio =>
    show _ = n.mirror.confirm n (.post (n.adapterPath index "nio") (some nio.toJson))
    rw [confirm_post (adapterPath_ne_collectionPath index "nio"), statusAt_adapterPath,
      bindingAt_adapterPath, Option.map_some, h]
    rfl
  | unbind index =>
    show _ = n.mirror.confirm n (.delete (n.adapterPath index "nio"))
    rw [confirm_delete (path_ne_adapterPath index "nio").symm, bindingAt_adapterPath]
    rfl
  | push keys =>
    show Mirror.mk ((n.applyKeys keys.entries).merge report).nios
      ((n.applyKeys keys.entries).merge report).status = _
    rw [merge_nios, merge_status, applyKeys_nios, applyKeys_status]
    rfl
  | rename key value =>
    show _ = n.mirror.confirm n (.post (n.subPath "rename") _)
    rw [confirm_post_subPath "rename" rfl (by decide)]
    rfl
  | resize count => rfl
  | startCapture index path =>
    show _ = n.mirror.confirm n (.post (n.adapterPath index "start_capture") _)
    rw [confirm_post_adapterPath rfl index]
    rfl
  | stopCapture index =>
    show _ = n.mirror.confirm n (.post (n.adapterPath index "stop_capture") _)
    rw [confirm_post_adapterPath rfl index]
    rfl
  | post sub body => exact h.elim
  | delete sub => exact h.elim

/-- What a request says depends on the identity of the node only. -/
theorem confirm_congr (h : m.identity = n.identity) : Mirror.confirm m = Mirror.confirm n := by
  funext mirror r
  unfold Mirror.confirm Mirror.statusAt? bindingAt? below?
  rw [collectionPath_congr h, path_congr h, funext (subPath_congr h)]

/-! ## Operations

An operation confirms some of its stages and stops. Stage by stage the mirror follows, so it makes
no difference where an operation stops or is given up. -/

/-- **What stages leave is the replay of those that were confirmed.** Stages that were refused or
dropped are neither among the confirmed exchanges nor among the reports, so that both sides pass
over them. -/
theorem Staged.mirror_eq {stages : List Stage} {log : List Exchange} {reports : List Json}
    {ending : Ending} (h : Staged n stages log reports ending m)
    (htelling : ∀ stage ∈ stages, stage.Telling) :
    m.mirror = (log.filterMap Exchange.confirmed?).foldl (Mirror.confirm n) n.mirror := by
  induction h with
  | finished | missing | unfound | refused | unanswered => rfl
  | found client _ ih => exact ih htelling
  | @confirmed n m stage rest log reports ending client report _ ih =>
    obtain ⟨hstage, hrest⟩ := List.forall_mem_cons.mp htelling
    rw [ih hrest, confirm_mirror hstage report n, confirm_congr (confirm_identity stage report n)]
    rfl

/-- What an agenda may bring is told by its requests. -/
def Agenda.Telling (n : Node) : Agenda → Prop
  | refuse _ => True
  | settle after _ => after = n
  | carryOut stages _ => ∀ stage ∈ stages, stage.Telling

theorem Agenda.Performed.mirror_eq {a : Agenda} {t : Record Outcome} (h : a.Performed n t)
    (htelling : a.Telling n) :
    t.after.mirror
      = (t.exchanges.filterMap Exchange.confirmed?).foldl (Mirror.confirm n) n.mirror := by
  cases a with
  | refuse e =>
    obtain rfl := h
    rfl
  | settle after outcome =>
    obtain rfl := h
    obtain rfl := htelling
    rfl
  | carryOut stages outcome =>
    obtain ⟨reports, ending, hs, -⟩ := h
    exact hs.mirror_eq htelling

/-- **Every operation says what it does**, raw requests and the destruction of a node that was never
created aside. -/
theorem Arises.telling {step : NodeStep} {a : Agenda} (ha : Arises n step a)
    (hraw : step.isRaw = false) (hpending : step = .destroy → n.status ≠ .pending) :
    a.Telling n := by
  have hsingle : ∀ stage : Stage, stage.Telling → ∀ stage' ∈ [stage], stage'.Telling :=
    fun _ h => List.forall_mem_singleton.mpr h
  cases ha with
  | refused => trivial
  | looked => exact rfl
  | buried hp => exact absurd hp (hpending rfl)
  | updated changes =>
    exact forall_mem_updateStages (fun _ => trivial) (fun _ _ => trivial) (fun _ => trivial)
      (fun _ => trivial) n changes
  | bound _ _ hspec => exact hsingle (.bind ..) (Nio.decode_toJson_of_ofSpec hspec)
  | created => exact hsingle .create trivial
  | acted a => exact hsingle (.act a) trivial
  | destroyed => exact hsingle .destroy trivial
  | unbound => exact hsingle (.unbind _) trivial
  | captureStarted => exact hsingle (.startCapture ..) trivial
  | captureStopped => exact hsingle (.stopCapture _) trivial
  | posted | deleted => cases hraw

/-! ## The life of a node

A life is a row of operations. The identity of the node stays, hence all its requests can be read by
the node as it was at the beginning. -/

/-- A node that was never created has no bindings. It is what makes the start of the mirror the
right one. -/
def Fresh (n : Node) : Prop := n.status = .pending → n.nios = .empty

theorem confirm_status_ne_pending (stage : Stage) (report : Json) (n : Node)
    (h : n.status ≠ .pending) : (stage.confirm report n).status ≠ .pending := by
  cases stage with
  | create => exact nofun
  | destroy => exact nofun
  | act a => cases a with
    | reload => exact h
    | _ => exact nofun
  | push keys =>
    show ((n.applyKeys keys.entries).merge report).status ≠ .pending
    rw [merge_status, applyKeys_status]
    exact h
  | _ => exact h

/-- What keeps a property keeps what follows from it. -/
theorem KeptBy.mono {P P' : Node → Prop} (hP : ∀ n, P n → P' n) {stages : List Stage}
    (h : KeptBy P n stages) : KeptBy P' n stages := by
  induction stages generalizing n with
  | nil => trivial
  | cons stage rest ih => exact fun report => ⟨hP _ (h report).1, ih (h report).2⟩

/-- **What holds of a node as long as it is pending** is kept by every agenda. Once it is created a
node is never pending again, so the property is asked for no longer. -/
theorem Arises.keeps_pending {P : Node → Prop} {step : NodeStep} {a : Agenda} (ha : Arises n step a)
    (h : n.status = .pending → P n) : a.Keeps (fun m => m.status = .pending → P m) n := by
  -- once a node is created, no confirmation makes it pending again
  have hcreated : n.status.isCreated = true → ∀ stages,
      KeptBy (fun m => m.status = .pending → P m) n stages := by
    intro hc stages
    have hne : n.status ≠ .pending := by
      intro hp
      rw [hp] at hc
      cases hc
    exact (keptBy_of_forall (fun stage _ report m => confirm_status_ne_pending stage report m)
      hne).mono fun m hm hp => absurd hp hm
  cases ha with
  | refused => trivial
  | looked => exact h
  -- a node that is pending is buried, created or left alone
  | buried => exact nofun
  | created => exact fun report => ⟨nofun, trivial⟩
  | posted | deleted => exact fun report => ⟨h, trivial⟩
  | acted _ hc | destroyed hc | updated _ hc | bound hc | unbound hc | captureStarted _ _ hc
  | captureStopped _ hc => exact hcreated hc _

theorem replay_destroy {e : Episode} (hstep : e.step = .destroy)
    (hpending : mirror.status = .pending) :
    mirror.replay n e = { mirror with status := .deleted } := by
  unfold Mirror.replay
  rw [hstep, hpending]

theorem replay_of_not_destroy {e : Episode}
    (h : ¬(e.step = .destroy ∧ mirror.status = .pending)) :
    mirror.replay n e = e.confirmed.foldl (Mirror.confirm n) mirror := by
  unfold Mirror.replay
  split
  · rename_i hstep hpending
    exact absurd ⟨hstep, hpending⟩ h
  · rfl

/-- **An operation leaves the node as its replay says.** The node that the paths are read against
may be another state of the node than the one at the beginning of the operation: only its identity
counts. -/
theorem perform_mirror (hid : m.identity = n.identity) (hfresh : m.Fresh) {turn : Turn}
    (hraw : turn.1.isRaw = false) :
    (m.perform turn).after.mirror = m.mirror.replay n ⟨m, turn.1, m.perform turn⟩ := by
  have hperformed := m.perform_performed turn
  -- only the destruction of a node that was never created takes no request
  by_cases hbury : turn.1 = .destroy ∧ m.status = .pending
  · obtain ⟨hstep, hpending⟩ := hbury
    have hagenda : m.agenda turn.1 = .settle m.buried .done := by
      rw [hstep]
      unfold agenda
      rw [hpending]
    rw [hagenda] at hperformed
    rw [replay_destroy hstep hpending, show (m.perform turn).after = m.buried by rw [hperformed]]
    show Mirror.mk .empty .deleted = Mirror.mk m.nios .deleted
    rw [hfresh hpending]
  · -- the replay reads the paths off the node as it was drawn up
    rw [replay_of_not_destroy hbury, ← confirm_congr hid]
    exact hperformed.mirror_eq
      ((m.agenda_arises turn.1).telling hraw fun hstep hpending => hbury ⟨hstep, hpending⟩)

/-- The identity is kept by every agenda. -/
theorem Arises.keeps_identity {step : NodeStep} {a : Agenda} (ha : Arises m step a)
    (h : m.identity = n.identity) : a.Keeps (fun m => m.identity = n.identity) m := by
  have hstages : ∀ stages, KeptBy (fun m => m.identity = n.identity) m stages := fun stages =>
    keptBy_of_forall (fun stage _ report m hm => (confirm_identity stage report m).trans hm) h
  cases ha with
  | refused => trivial
  | looked => exact h
  | buried => exact h
  | _ => exact hstages _

/-- The replay agrees with a node that has lived before, from its bindings and status on. -/
theorem life_tracks {turns : List Turn} (hid : m.identity = n.identity) (hfresh : m.Fresh)
    (hraw : ∀ turn ∈ turns, turn.1.isRaw = false) : m.mirror.Tracks n (m.life turns) := by
  induction turns generalizing m with
  | nil => trivial
  | cons turn rest ih =>
    obtain ⟨hturn, hrest⟩ := List.forall_mem_cons.mp hraw
    have hstep := perform_mirror hid hfresh hturn
    have harises := m.agenda_arises turn.1
    have hid' := (m.perform_performed turn).throughout hid (harises.keeps_identity hid)
    have hfresh' := (m.perform_performed turn).throughout hfresh
      (harises.keeps_pending (P := fun m => m.nios = .empty) hfresh)
    refine ⟨hstep, ?_⟩
    rw [← hstep]
    exact ih hid'.2 hfresh'.2 hrest

/-- **Bindings and status are a replay of the confirmed requests**: after every operation of a node,
whatever its engines answered and wherever an operation was given up.

Nothing is assumed of the engines. They may confirm what they did not do, report other bindings and
another status, refuse the second of two requests or leave one without an answer; the node is still
what its confirmed requests, taken in their order, make of a node that was drawn up. Only a caller's
own requests are excluded, since these may ask for anything and the node takes no notice of them. -/
theorem bindings_and_status_replayed (project : Uuid) (captureDir : OsPath) (engine : String)
    (spec : NodeSpec) (turns : List Turn) (hraw : ∀ turn ∈ turns, turn.1.isRaw = false) :
    let n := draft project captureDir engine spec
    Mirror.start.Tracks n (n.life turns) :=
  life_tracks rfl (fun _ => rfl) hraw

/-- An engine that is found and confirms every request with an empty report. -/
def obliging : Outside := fun _ question =>
  match question with
  | .engine _ => some (.ok (.supplied "engine"))
  | .send _ => some (.ok (.obj []))

/-- A node that is created, bound, started and destroyed. -/
theorem replayed_of_bound_and_destroyed :
    let turns : List Turn := [(.create, obliging), (.addNio 0 (Nio.sink).toJson, obliging),
      (.act .start, obliging), (.destroy, obliging)]
    let n := draft default "captures" "engine"
      { id := default, nodeType := .vpcs, name := "node", adapters := 1 }
    (∀ turn ∈ turns, turn.1.isRaw = false) ∧ Mirror.start.Tracks n (n.life turns) := by
  intro turns n
  have hraw : ∀ turn ∈ turns, turn.1.isRaw = false := by
    unfold turns
    simp [NodeStep.isRaw]
  exact ⟨hraw, bindings_and_status_replayed _ _ _ _ turns hraw⟩

end Node

end Testbed

import Testbed.Proofs.Project.ClaimLog

/-!
# Claims on identifiers

Calls that add nodes to a project and delete them run side by side, are answered anyhow, and are
given up anywhere. `claims_kept` says what the claims of the project are worth in all of this: an
identifier is claimed exactly while a call holds it, only that call asks an engine to create the
node, and a call that comes too late is refused and leaves no trace.

It is put together from the ledger, the chronicle and the protocol of the calls by
`Crew.run_invariant`.
-/

namespace Testbed.Controller

/-! ## Where the calls stand

Between two turns a call stands somewhere in its program. Its role says what it may still do there,
and whether it may have come to its end. -/

section Stands

variable {α : Type} {p : ProjectHandle} {pid id : Uuid} {g : Role}
  {stand : Crew.Stand Controller Call (fun _ => Answer) (Except ControlError α)}

/-- A call that has ended is in a role in which calls may end. -/
theorem mayEnd_of_ended (h : stand.Obeys (calling p pid id) (Ends pid id) g)
    (hended : stand.ended = true) : g.mayEnd = true := by
  cases stand with
  | live task =>
    cases task with
    | done result =>
      cases g with
      | lost | released | deleting => rfl
      | _ => cases h
    | step | ask => cases hended
  | asked => cases hended
  | abandoned =>
    obtain ⟨g₀, c, c', -, hend⟩ := h
    exact hend

theorem not_proceeds_released {c c' : Controller} {g' : Role} :
    ¬ Proceeds p id .released c c' g' := by
  rintro (_ | ⟨⟨⟩, _⟩ | _ | _ | _ | _ | ⟨⟨⟩, _⟩ | _ | _)

/-- **A call that has given up its claim has ended**: it could not even be abandoned any more. -/
theorem ended_of_released (h : stand.Obeys (calling p pid id) (Ends pid id) .released) :
    stand.ended = true := by
  cases stand with
  | live task =>
    cases task with
    | done result => rfl
    | step ready update next abandon =>
      obtain ⟨g', hquit, -⟩ := h.2 default trivial
      exact absurd hquit not_proceeds_released
    | ask question next abandon => exact h.1.elim
  | asked question next abandon => exact h.1.elim
  | abandoned => rfl

end Stands

/-! ## Calls side by side

Any number of calls run on one project, with turns in any order. The claims are read off the state,
and who holds one off the log and off where the calls stand. -/

section Calls

variable {ι : Type} {errands : ι → Errand}

/-- Calls on a project, side by side. -/
abbrev Calls (errands : ι → Errand) : Type :=
  Crew ι Controller Call (fun _ => Answer) (fun i => Except ControlError (errands i).Result)

/-- Calls on the project under a handle, before their first turns. They may be about different
identifiers or about the same one. -/
def calls (p : ProjectHandle) (errands : ι → Errand) (c : Controller) : Calls errands :=
  Crew.start c fun i => (errands i).task p

/-- **Whether a call holds an identifier**: it passed the reservation and has not ended. The two
conditions are read off the log and off the process of the call. -/
def Holds (p : ProjectHandle) (crew : Calls errands) (i : ι) (id : Uuid) : Prop :=
  Reserved p crew.log i id ∧ (crew.stand i).ended = false

/-- **What the claims of a project are worth** to the calls on it. The first field is about
requests, the second about the table of claims, and the last about the calls that come too late. -/
structure ClaimsKept (p : ProjectHandle) (pid : Uuid) (crew : Calls errands) : Prop where
  /-- While an engine is asked to create a node, the project has no node with its identifier, and
  the call that asks, and no other, holds it. -/
  requests : ∀ i id call, (crew.stand i).question? = some call → Node.Creates id call.request →
    (errands i).Adds id ∧ Holds p crew i id ∧ (crew.state.project p).nodes.contains id = false
      ∧ ∀ j, (errands j).Adds id → Holds p crew j id → j = i
  /-- The identifiers that are claimed are those that calls hold. -/
  claims : ∀ id, id ∈ (crew.state.project p).claimed
    ↔ ∃ i, (errands i).Adds id ∧ Holds p crew i id
  /-- A call that has not passed the reservation has asked nobody and left the project alone, and
  if it returns, it returns a conflict. -/
  losers : ∀ i id, (errands i).Adds id → ¬ Reserved p crew.log i id →
    (∀ happening, (i, happening) ∈ crew.log → Traceless p happening)
      ∧ ∀ result, (crew.stand i).result? = some result →
        result = .error (.conflict (.nodeExists id pid))

theorem ledger_start {p : ProjectHandle} {c : Controller} (h : (c.project p).claimed = []) :
    Ledger p (c.project p).id (fun i => (errands i).id) c (fun i => (errands i).role) := by
  have hholds (i : ι) : (errands i).role.holds = false := by
    cases errands i with
    | add engine spec | delete id => rfl
  have hnobody (i : ι) : ¬ (errands i).role.holds = true := Bool.eq_false_iff.mp (hholds i)
  refine ⟨rfl, fun i => ?_, fun id => ?_, fun i j _ hi => absurd hi (hnobody i), fun i hi => ?_⟩
  · cases errands i with
    | add engine spec | delete id => trivial
  · rw [h]
    exact iff_of_false List.not_mem_nil fun ⟨i, _, hi⟩ => hnobody i hi
  · exact absurd (Role.holds_of_creates hi) (hnobody i)

theorem chronicle_start {p : ProjectHandle} :
    Chronicle p errands [] (fun i => (errands i).role) where
  kind i := by
    cases errands i with
    | add engine spec | delete id => rfl
  reserved i := by
    refine iff_of_false ?_ fun ⟨_, _, hmem, _⟩ => List.not_mem_nil hmem
    cases errands i with
    | add engine spec | delete id => exact Bool.false_ne_true
  idle _ _ _ hmem := absurd hmem List.not_mem_nil

variable {p : ProjectHandle} {pid : Uuid} {crew : Calls errands} {role : ι → Role} {i : ι}

theorem holds_iff (hc : Chronicle p errands crew.log role)
    (hobeys : (crew.stand i).Obeys (calling p pid (errands i).id) (Ends pid (errands i).id)
      (role i)) :
    Holds p crew i (errands i).id ↔ (role i).holds = true := by
  unfold Holds
  rw [← hc.reserved i]
  constructor
  · rintro ⟨hreserved, hended⟩
    -- a call that had the claim and has not ended has it still
    obtain hholds | hreleased := Role.holds_or_released hreserved
    · exact hholds
    · rw [hreleased] at hobeys
      rw [ended_of_released hobeys] at hended
      cases hended
  · intro hholds
    refine ⟨Role.reserved_of_holds hholds, Bool.eq_false_iff.mpr fun hended => ?_⟩
    rw [Role.holds_of_mayEnd (mayEnd_of_ended hobeys hended)] at hholds
    cases hholds

/-- What is asked for is asked by a call that is creating a node, or one that deletes one. -/
theorem puts_of_question {call : Call} (hq : (crew.stand i).question? = some call)
    (hobeys : (crew.stand i).Obeys (calling p pid (errands i).id) (Ends pid (errands i).id)
      (role i)) : (calling p pid (errands i).id).puts (role i) call := by
  cases hstand : crew.stand i with
  | asked question next abandon =>
    rw [hstand] at hq hobeys
    cases hq
    exact hobeys.1
  | live | abandoned =>
    rw [hstand] at hq
    cases hq

/-- A call that asks an engine to create a node is creating it. -/
theorem creates_of_puts {id : Uuid} {call : Call} {g : Role}
    (h : (calling p pid id).puts g call) {id' : Uuid} (hcreates : Node.Creates id' call.request) :
    g.creates = true ∧ id = id' := by
  cases g with
  | creating h' => exact ⟨rfl, Node.Creates.unique h hcreates⟩
  | deleting =>
    have hdelete : call.request.method = .delete := h
    rw [hcreates.method] at hdelete
    cases hdelete
  | _ => cases h

/-- What a call that never had a claim returns. Only a call that lost can have ended without a
claim, and it says so. -/
theorem result_of_idle {α : Type} {id : Uuid} {g : Role} (hg : g.idle = true)
    {stand : Crew.Stand Controller Call (fun _ => Answer) (Except ControlError α)}
    (hobeys : stand.Obeys (calling p pid id) (Ends pid id) g) {result : Except ControlError α}
    (hresult : stand.result? = some result) :
    result = .error (.conflict (.nodeExists id pid)) := by
  unfold Crew.Stand.result? at hresult
  split at hresult
  · cases hresult
    cases g with
    | lost => exact hobeys
    | fresh | drafted | withdrawn => exact hobeys.elim
    | _ => cases hg
  · cases hresult

/-- The ledger, the chronicle and the places of the calls say what the claims are worth. -/
theorem claimsKept_of_ledger (hl : Ledger p pid (fun i => (errands i).id) crew.state role)
    (hc : Chronicle p errands crew.log role)
    (hobeys : ∀ i, (crew.stand i).Obeys (calling p pid (errands i).id) (Ends pid (errands i).id)
      (role i)) : ClaimsKept p pid crew where
  requests i id call hq hcall := by
    -- the request names the identifier that the call is about
    obtain ⟨hcreates, rfl⟩ := creates_of_puts (puts_of_question hq (hobeys i)) hcall
    have hholds := Role.holds_of_creates hcreates
    have hkind := (hc.kind i).symm.trans (Role.deletes_of_holds hholds)
    refine ⟨Errand.adds_id hkind, (holds_iff hc (hobeys i)).mpr hholds, hl.absent i hcreates, ?_⟩
    intro j hadds hj
    rw [← hadds.id_eq] at hj
    exact hl.exclusive j i hadds.id_eq ((holds_iff hc (hobeys j)).mp hj) hholds
  claims id := by
    refine (hl.claimed id).trans (exists_congr fun i => ?_)
    constructor
    · rintro ⟨rfl, hholds⟩
      have hkind := (hc.kind i).symm.trans (Role.deletes_of_holds hholds)
      exact ⟨Errand.adds_id hkind, (holds_iff hc (hobeys i)).mpr hholds⟩
    · rintro ⟨hadds, hholds⟩
      rw [← hadds.id_eq] at hholds
      exact ⟨hadds.id_eq, (holds_iff hc (hobeys i)).mp hholds⟩
  losers i id hadds hnot := by
    rw [← hadds.id_eq, ← hc.reserved i, Bool.not_eq_true] at hnot
    have hidle := Role.idle_of_reserved hnot ((hc.kind i).trans hadds.deletes)
    refine ⟨hc.idle i hidle, fun result hresult => ?_⟩
    rw [← hadds.id_eq]
    exact result_of_idle hidle (hobeys i) hresult

/-- **Claims are kept.** Any number of calls add nodes to a project and delete them, in any order of
their steps, whatever engines answer and wherever calls are given up. If no identifier was claimed
at the beginning, then at every moment an engine is asked to create a node only by the one call that
holds its identifier, and while the project has no such node; the claimed identifiers are those of
the calls that passed the reservation and have not ended; and a call that comes too late asks
nobody, leaves the project alone and returns a conflict.

The calls are any family, also an infinite one, of which a schedule lets finitely many take a turn.
A turn may be a step, an answer of any content or the abandonment of a call. The hypothesis is about
the beginning only: a claim whose holder is not among the calls would never be released. -/
theorem claims_kept [DecidableEq ι] (p : ProjectHandle) (errands : ι → Errand) (c : Controller)
    (h : (c.project p).claimed = []) (schedule : List (ι × Crew.Turn Call (fun _ => Answer))) :
    ClaimsKept p (c.project p).id ((calls p errands c).run schedule) := by
  have hstart : ∀ i, ((calls p errands c).stand i).Obeys (calling p (c.project p).id (errands i).id)
      (Ends (c.project p).id (errands i).id) (errands i).role :=
    fun i => Errand.task_obeys p (c.project p).id (errands i)
  obtain ⟨role, ⟨hl, hc⟩, hobeys⟩ := Crew.run_invariant
    (fun i => calling p (c.project p).id (errands i).id)
    (fun i => Ends (c.project p).id (errands i).id)
    (fun s log role =>
      Ledger p (c.project p).id (fun i => (errands i).id) s role ∧ Chronicle p errands log role)
    (fun _ _ _ hinv i => hinv.1.knows i)
    (fun _ _ _ hinv _ _ _ _ hhappens =>
      ⟨hinv.1.happens hhappens, hinv.2.happens hhappens⟩)
    ⟨ledger_start h, chronicle_start⟩ hstart schedule
  exact claimsKept_of_ledger hl hc hobeys

/-- Of two calls with one identifier, here taking their turns alternately, the later one gets the
conflict. -/
theorem later_call_refused :
    let spec : NodeSpec := { id := default, nodeType := .vpcs, name := "pc1" }
    let go : Crew.Turn Call (fun _ => Answer) := .go (fun _ => .ok .null)
    let crew := (calls 0 (fun _ : Bool => .add "local" spec) default).run
      [(true, go), (false, go), (true, go), (false, go)]
    ((default : Controller).project 0).claimed = [] ∧ ClaimsKept 0 default crew
      ∧ (crew.stand false).result? = some (.error (.conflict (.nodeExists default default))) :=
  ⟨rfl, claims_kept 0 _ default rfl _, rfl⟩

end Calls

end Testbed.Controller

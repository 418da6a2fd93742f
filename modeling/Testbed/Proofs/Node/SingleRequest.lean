import Testbed.Proofs.Node.StagedUpdate

/-!
# Operations of a single request

An update may get through some of its requests and be refused the next, so that it fails and still
leaves something behind. It is the only operation of which that is true. Every other one is done at
once or not at all: it sends one request or none, the node stays as it was for as long as a question
is open, and only success changes it.

Two things could spoil this, a change before the confirmation and a second request after it. Neither
has to be looked for in the operations. What an operation may do is carry out its stages, those
change the node by confirmations only, and each takes one request (`Staged.sent_length_le`); so all
that is left to see is that the agenda of every other operation has one stage at most
(`agenda_isShort`).
-/

namespace Testbed

/-- Whether an operation is an update, the one that may send several requests. Creating a node is
one request, whatever its description says. -/
def NodeStep.isUpdate : NodeStep → Bool
  | .update _ => true
  | _ => false

namespace Node

variable {n m : Node} {stages : List Stage} {log : List Exchange} {reports : List Json}
  {ending : Ending}

/-- Every stage takes one request at most. Lookups that fail and stages that were given up early
take none. -/
theorem Staged.sent_length_le (h : Staged n stages log reports ending m) :
    (sent log).length ≤ stages.length := by
  induction h with
  | finished => exact Nat.le_refl 0
  | found client _ ih => exact ih
  | missing | unfound => exact Nat.zero_le _
  | confirmed client report _ ih => exact Nat.succ_le_succ ih
  | refused | unanswered => exact Nat.succ_le_succ (Nat.zero_le _)

/-- A single stage leaves the node as it was while it is carried out, and afterwards too unless it
was confirmed. -/
theorem Staged.intact (h : Staged n stages log reports ending m) (hshort : stages.length ≤ 1) :
    (∀ x ∈ log, x.state = n) ∧ (ending ≠ some (.ok ()) → m = n) := by
  induction h with
  | finished => exact ⟨List.forall_mem_nil _, fun _ => rfl⟩
  | found client _ ih =>
    obtain ⟨hlog, hafter⟩ := ih hshort
    exact ⟨List.forall_mem_cons.mpr ⟨rfl, hlog⟩, hafter⟩
  | missing | unfound | refused | unanswered =>
    exact ⟨List.forall_mem_singleton.mpr rfl, fun _ => rfl⟩
  | @confirmed n m stage rest log reports ending client report hrest _ =>
    -- nothing comes after a single stage, so its confirmation is a success
    obtain rfl : rest = [] := List.eq_nil_of_length_eq_zero (Nat.le_zero.mp
      (Nat.le_of_succ_le_succ hshort))
    cases hrest
    exact ⟨List.forall_mem_singleton.mpr rfl, fun hending => absurd rfl hending⟩

/-- **An operation that is done at once or not at all**, from its record. There is no middle in
which the node would be something that it neither was nor will be. -/
structure Undivided (n : Node) (t : Record Outcome) : Prop where
  /-- It sends one request at most. -/
  single : (sent t.exchanges).length ≤ 1
  /-- The node is as it was wherever a question is open. -/
  waits : ∀ x ∈ t.exchanges, x.state = n
  /-- An error leaves the node as it was. -/
  failed : ∀ e, t.result = some (.error e) → t.after = n
  /-- So does giving the operation up. -/
  dropped : t.result = none → t.after = n

/-- An agenda that has one stage at most. -/
def Agenda.IsShort : Agenda → Prop
  | refuse _ | settle .. => True
  | carryOut stages _ => stages.length ≤ 1

/-- **Only updates have more than one stage.** An update has a stage for each of up to three
settings requests, and one more for every binding that it takes away. -/
theorem agenda_isShort {step : NodeStep} (h : step.isUpdate = false) (n : Node) :
    (n.agenda step).IsShort := by
  generalize hagenda : n.agenda step = agenda
  cases hagenda ▸ agenda_arises n step with
  | refused | looked | buried => trivial
  | updated => cases h
  | created | acted | destroyed | bound | unbound | captureStarted | captureStopped | posted
  | deleted => exact Nat.le_refl 1

/-- What has one stage at most is done at once or not at all. Between the beginning and the end of
one stage there is no state in which it is half done. -/
theorem Agenda.Performed.undivided {a : Agenda} {t : Record Outcome} (h : a.Performed n t)
    (hshort : a.IsShort) : Undivided n t := by
  cases a with
  | refuse e =>
    obtain rfl := h
    exact ⟨Nat.zero_le 1, List.forall_mem_nil _, fun _ _ => rfl, nofun⟩
  | settle after outcome =>
    obtain rfl := h
    exact ⟨Nat.zero_le 1, List.forall_mem_nil _, nofun, nofun⟩
  | carryOut stages outcome =>
    obtain ⟨reports, ending, hstaged, hresult⟩ := h
    obtain ⟨hwaits, hafter⟩ := hstaged.intact hshort
    refine ⟨Nat.le_trans hstaged.sent_length_le hshort, hwaits, fun e he => hafter ?_,
      fun hnone => hafter ?_⟩
    · rintro rfl
      cases hresult.symm.trans he
    · rintro rfl
      cases hresult.symm.trans hnone

/-- **Every operation but an update is done at once or not at all**, whatever it is answered.

This holds for every state of the node and every outside, also for one that gives no answer. A
caller of one of these operations who gets an error can therefore go on as if it had never been
called, as far as the node is concerned; what the engine has made of the request is another matter.
-/
theorem perform_undivided (n : Node) (step : NodeStep) (h : step.isUpdate = false)
    (outside : Outside) : Undivided n (n.perform (step, outside)) :=
  (n.perform_performed (step, outside)).undivided (agenda_isShort h n)

/-- Stopping a node, which the engine refuses. -/
theorem stop_undivided :
    let n : Node := { draft default "captures" "engine"
        { id := default, nodeType := .vpcs, name := "pc" } with status := .started }
    let t := n.perform (.act .stop,
      served (fun _ => .supplied "engine") fun _ => .error (.refused 409 "busy"))
    Undivided n t ∧ (sent t.exchanges).length = 1
      ∧ t.result = some (.error (.ofEngine (.refused 409 "busy"))) := by
  intro n t
  exact ⟨perform_undivided n (.act .stop) rfl _, rfl, rfl⟩

end Node

end Testbed

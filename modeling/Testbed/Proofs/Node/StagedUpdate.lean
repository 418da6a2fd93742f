import Testbed.Proofs.Node.Bindings

/-!
# Updates are staged

An update of a node that exists on its engine does what its stages say, in their order, and stops at
the first that the engine refuses. This is said against an engine that stays obtainable and answers
the requests by a sequence of answers (`served`), whatever they are: `update_staged` gives the
requests that were sent, the node that is left and the result, for every position at which the
sequence may have its first refusal.

Nothing has to be known about the node in between. The requests of an update name it by its
identity, which no confirmation changes, and the bindings beyond a number of adapters are the same
before the first request as when it is their turn.
-/

namespace Testbed.Node

open Process (Answered)

variable {n m : Node}

/-- The requests among exchanges. Lookups stay inside the program and are left out. -/
def sent (log : List Exchange) : List Request :=
  log.filterMap fun x =>
    match x.question with
    | .send call => some call.request
    | .engine _ => none

/-- **An engine that stays obtainable**: there is always a client, and the requests get the answers
of a sequence, one after another. Both sequences are arbitrary, and an answer may be a refusal. The
answer to a request is found by counting the requests before it, so that lookups in between do not
shift it. -/
def served (clients : Nat → Client) (answers : Nat → Answer) : Outside := fun log question =>
  match question with
  | .engine _ => some (.ok (clients log.length))
  | .send _ => some (answers (sent log).length)

section Served

variable {clients : Nat → Client} {answers : Nat → Answer}

/-- After a lookup, the answers are still to come. -/
theorem served_after_lookup (n : Node) (id : String) (client : Client) :
    (fun log => served clients answers (⟨n, .engine id, some (.ok client)⟩ :: log))
      = served (fun k => clients (k + 1)) answers := by
  funext log question
  cases question <;> rfl

/-- After a request, its answer is used up. -/
theorem served_after_request (n : Node) (call : Call) (report : Json) :
    (fun log => served clients answers (⟨n, .send call, some (.ok report)⟩ :: log))
      = served (fun k => clients (k + 1)) (fun k => answers (k + 1)) := by
  funext log question
  cases question <;> rfl

end Served

/-- A request that is not for the creation names the node by its identity only. -/
theorem request_congr {stage : Stage} (hstage : stage ≠ .create) (h : m.identity = n.identity) :
    stage.request m = stage.request n := by
  cases stage with
  | create => exact absurd rfl hstage
  | destroy => exact congrArg Request.delete (path_congr h)
  | push keys => exact congrArg (Request.put · _) (path_congr h)
  | resize count => exact congrArg (Request.put · _) (subPath_congr h _)
  | bind | startCapture | stopCapture => exact congrArg (Request.post · _) (adapterPath_congr h _ _)
  | unbind => exact congrArg Request.delete (adapterPath_congr h _ _)
  | act | rename | post => exact congrArg (Request.post · _) (subPath_congr h _)
  | delete => exact congrArg Request.delete (subPath_congr h _)

/-- **Stages that ended well were all requested**, each once and in order. A creation is left out
because it is the one request whose body says all of the node, and so depends on the confirmations
before it. -/
theorem Staged.sent_eq {stages : List Stage} {log : List Exchange} {reports : List Json}
    (h : Staged n stages log reports (some (.ok ())) m)
    (hcreate : ∀ stage ∈ stages, stage ≠ .create) : sent log = stages.map (·.request n) := by
  generalize hend : (some (.ok ()) : Ending) = ending at h
  induction h with
  | finished => rfl
  | found client _ ih => exact ih hcreate hend
  | missing | unfound | refused | unanswered => cases hend
  | @confirmed n m stage rest log reports ending client report _ ih =>
    obtain ⟨-, hcreate⟩ := List.forall_mem_cons.mp hcreate
    show stage.request n :: sent log = stage.request n :: _
    rw [ih hcreate hend]
    congr 1
    refine List.map_congr_left fun stage' hmem => ?_
    exact request_congr (hcreate stage' hmem) (confirm_identity stage report n)

/-- **How far stages get**: as far as the answers confirm them. The position of the first refusal
settles everything: how many requests there are, which reports the node has taken over, and the
ending. -/
structure Reaches (n : Node) (stages : List Stage) (answers : Nat → Answer) (log : List Exchange)
    (reports : List Json) (ending : Ending) : Prop where
  /-- The reports are the first answers. -/
  confirmed : ∀ k (hk : k < reports.length), answers k = .ok reports[k]
  /-- The requests are those of the confirmed stages and, if there is one, of the next. -/
  requests : sent log = (stages.take (reports.length + 1)).map (·.request n)
  /-- Either all stages are confirmed, or the next one is refused. -/
  ending :
    (reports.length = stages.length ∧ ending = some (.ok ()))
      ∨ ∃ e, reports.length < stages.length ∧ answers reports.length = .error e
          ∧ ending = some (.error (.ofEngine e))

theorem Staged.reaches {stages : List Stage} {log : List Exchange} {reports : List Json}
    {ending : Ending} (h : Staged n stages log reports ending m)
    (hcreate : ∀ stage ∈ stages, stage ≠ .create) {clients : Nat → Client} {answers : Nat → Answer}
    (hanswered : Answered (served clients answers) log) :
    Reaches n stages answers log reports ending := by
  induction h generalizing clients answers with
  | finished n => exact ⟨nofun, rfl, .inl ⟨rfl, rfl⟩⟩
  | found client _ ih =>
    obtain ⟨-, hrest⟩ := hanswered
    rw [served_after_lookup] at hrest
    obtain ⟨hconfirmed, hrequests, hending⟩ := ih hcreate hrest
    exact ⟨hconfirmed, hrequests, hending⟩
  | missing => cases hanswered.1
  | unfound => cases hanswered.1
  | unanswered => cases hanswered.1
  | refused n stage rest client e =>
    have hanswer : answers 0 = .error e := (Option.some.inj hanswered.1).symm
    exact ⟨nofun, rfl, .inr ⟨e, Nat.succ_pos _, hanswer, rfl⟩⟩
  | @confirmed n m stage rest log reports ending client report _ ih =>
    obtain ⟨hanswer, hrest⟩ := hanswered
    rw [served_after_request] at hrest
    obtain ⟨hstage, hcreate⟩ := List.forall_mem_cons.mp hcreate
    obtain ⟨hconfirmed, hrequests, hending⟩ := ih hcreate hrest
    refine ⟨fun k hk => ?_, ?_, ?_⟩
    · cases k with
      | zero => exact (Option.some.inj hanswer).symm
      | succ k => exact hconfirmed k (Nat.lt_of_succ_lt_succ hk)
    · show stage.request n :: sent log = stage.request n :: _
      rw [hrequests]
      congr 1
      refine List.map_congr_left fun stage' hmem => ?_
      exact request_congr (hcreate stage' (List.mem_of_mem_take hmem))
        (confirm_identity stage report n)
    · obtain ⟨hlength, hend⟩ | ⟨e, hlength, hrefused, hend⟩ := hending
      · exact .inl ⟨congrArg (· + 1) hlength, hend⟩
      · exact .inr ⟨e, Nat.succ_lt_succ hlength, hrefused, hend⟩

/-- Reports of the same answers are the same, as far as both go. What the engine answers is given,
so there is only one way to go. -/
theorem reports_eq {answers : Nat → Answer} {reports reports' : List Json}
    (h : ∀ k (hk : k < reports.length), answers k = .ok reports[k])
    (h' : ∀ k (hk : k < reports'.length), answers k = .ok reports'[k])
    (hlength : reports.length = reports'.length) : reports = reports' :=
  List.ext_getElem hlength fun k hk hk' => Except.ok.inj ((h k hk).symm.trans (h' k hk'))

/-- **An update that went in stages**, from its record and the answers to its requests. There are
three cases: some value cannot be used, all stages are confirmed, or one of them is the first to be
refused. An update with nothing that differs belongs to the second, with no stages at all. -/
structure UpdatedInStages (n : Node) (changes : Dict String Json) (answers : Nat → Answer)
    (t : Record Outcome) : Prop where
  /-- The first unusable value refuses the update before any request. -/
  refused : ∀ cause, changes.entries.findSome? (fun e => n.objection? e.1 e.2) = some cause →
    t = ⟨[], some (.error (.validation cause)), n⟩
  /-- If all stages are confirmed, their requests were sent in order, the keys of the stages are
  given back and the node has taken over every stage. -/
  completed : (∀ e ∈ changes.entries, n.objection? e.1 e.2 = none) →
    ∀ reports : List Json, reports.length = (n.updateStages changes).length →
      (∀ k (hk : k < reports.length), answers k = .ok reports[k]) →
      sent t.exchanges = (n.updateStages changes).map (·.request n)
        ∧ t.result = some (.ok (.keys ((n.updateStages changes).flatMap Stage.keys)))
        ∧ t.after = confirmAll n (n.updateStages changes) reports
  /-- If a stage is refused, its request was the last one, the refusal is the result and the node
  has taken over the stages before. -/
  stopped : (∀ e ∈ changes.entries, n.objection? e.1 e.2 = none) →
    ∀ (reports : List Json) (e : EngineError), reports.length < (n.updateStages changes).length →
      (∀ k (hk : k < reports.length), answers k = .ok reports[k]) →
      answers reports.length = .error e →
      sent t.exchanges
          = ((n.updateStages changes).take (reports.length + 1)).map (·.request n)
        ∧ t.result = some (.error (.ofEngine e))
        ∧ t.after = confirmAll n (n.updateStages changes) reports
  /-- What has to be unbound is the same when it is its turn as it was at the beginning. -/
  unbinds : ∀ reports count,
    (confirmAll n (n.settingStages changes) reports).boundFrom count = n.boundFrom count

/-- No update creates the node. -/
theorem ne_create_of_mem_updateStages (changes : Dict String Json) :
    ∀ stage ∈ n.updateStages changes, stage ≠ .create :=
  forall_mem_updateStages (fun _ => nofun) (fun _ _ => nofun) (fun _ => nofun) (fun _ => nofun)
    n changes

/-- What an update of a created node sets out to do. -/
theorem agenda_update (hcreated : n.status.isCreated = true) (changes : Dict String Json) :
    n.agenda (.update changes) =
      match changes.entries.findSome? (fun e => n.objection? e.1 e.2) with
      | some cause => .refuse (.validation cause)
      | none => .carryOut (n.updateStages changes)
          (fun _ => .keys ((n.updateStages changes).flatMap Stage.keys)) := if_pos hcreated

/-- An update without an unusable value gets as far as the answers confirm its stages. Reports and
ending are determined by the answers alone. -/
theorem update_reaches (hcreated : n.status.isCreated = true) {changes : Dict String Json}
    (hvalid : ∀ e ∈ changes.entries, n.objection? e.1 e.2 = none) (clients : Nat → Client)
    (answers : Nat → Answer) :
    let t := n.perform (.update changes, served clients answers)
    ∃ reports ending, Reaches n (n.updateStages changes) answers t.exchanges reports ending
      ∧ t.after = confirmAll n (n.updateStages changes) reports
      ∧ t.result = ending.map
          (Except.map fun _ => .keys ((n.updateStages changes).flatMap Stage.keys)) := by
  intro t
  have hperformed := n.perform_performed (.update changes, served clients answers)
  rw [agenda_update hcreated, List.findSome?_eq_none_iff.mpr hvalid] at hperformed
  obtain ⟨reports, ending, hstaged, hresult⟩ := hperformed
  exact ⟨reports, ending,
    hstaged.reaches (ne_create_of_mem_updateStages changes) (Process.transcript_answered _ _ n),
    hstaged.after_eq, hresult⟩

/-- **Updates are staged.** Whatever is asked for and whatever the engine answers, an update of a
created node is refused before its first request, or it sends the requests of its stages in their
order up to the first that the engine refuses. The node has then taken over exactly the stages
before that one: the reports of the confirmed stages determine what is left of it, and an update
that breaks off in the middle leaves no trace of what was still to come. -/
theorem update_staged (n : Node) (hcreated : n.status.isCreated = true)
    (changes : Dict String Json) (clients : Nat → Client) (answers : Nat → Answer) :
    UpdatedInStages n changes answers (n.perform (.update changes, served clients answers)) where
  refused := by
    intro cause hcause
    have hperformed := n.perform_performed (.update changes, served clients answers)
    rw [agenda_update hcreated, hcause] at hperformed
    exact hperformed
  completed := by
    intro hvalid reports hlength hreports
    obtain ⟨reports', ending, hreaches, hafter, hresult⟩ :=
      update_reaches hcreated hvalid clients answers
    obtain ⟨hlength', rfl⟩ | ⟨e, hlength', hrefused, -⟩ := hreaches.ending
    · obtain rfl := reports_eq hreports hreaches.confirmed (hlength.trans hlength'.symm)
      refine ⟨?_, hresult, hafter⟩
      rw [hreaches.requests, List.take_of_length_le (by omega)]
    · -- the answer that refused a stage would be one of those that confirmed them
      have hconfirmed := hreports reports'.length (by omega)
      rw [hrefused] at hconfirmed
      cases hconfirmed
  stopped := by
    intro hvalid reports e hlength hreports hrefused
    obtain ⟨reports', ending, hreaches, hafter, hresult⟩ :=
      update_reaches hcreated hvalid clients answers
    -- the answers settle how many stages were confirmed
    have hle : reports'.length ≤ reports.length := by
      refine Nat.le_of_not_lt fun hlt => ?_
      have hconfirmed := hreaches.confirmed reports.length hlt
      rw [hrefused] at hconfirmed
      cases hconfirmed
    obtain ⟨hlength', -⟩ | ⟨e', hlength', hrefused', rfl⟩ := hreaches.ending
    · omega
    · have hge : reports.length ≤ reports'.length := by
        refine Nat.le_of_not_lt fun hlt => ?_
        have hconfirmed := hreports reports'.length hlt
        rw [hrefused'] at hconfirmed
        cases hconfirmed
      obtain rfl := reports_eq hreports hreaches.confirmed (by omega)
      obtain rfl : e = e' := Except.error.inj (hrefused.symm.trans hrefused')
      exact ⟨hreaches.requests, hresult, hafter⟩
  unbinds := fun reports count => boundFrom_congr (settingStages_nios n changes reports) count

/-- A node with a binding beyond the number of adapters that it is asked to have: the generic update
is confirmed and unbinding is refused. -/
theorem update_staged_refused_unbinding :
    let n : Node := { draft default "captures" "engine"
        { id := default, nodeType := .vpcs, name := "old", adapters := 3 } with
      nios := Dict.empty.insert 2 .sink, status := .stopped }
    let changes := Dict.ofList [("adapters", Json.nat 1), ("name", .str "new")]
    let answers : Nat → Answer := fun k => if k = 0 then .ok .null else .error (.refused 409 "busy")
    n.status.isCreated = true
      ∧ UpdatedInStages n changes answers
        (n.perform (.update changes, served (fun _ => .supplied "engine") answers)) := by
  intro n changes answers
  exact ⟨rfl, update_staged n rfl changes _ answers⟩

end Testbed.Node

import Testbed.Proofs.Node.Stage

/-!
# Carrying out stages

What can happen when an operation carries out a list of stages: they are requested in order, each
for the node that the confirmations before it have made, and the first that the engine refuses ends
it. The engine is looked for before some of them, and the operation may be given up wherever it
waits.

`Staged` is that relation. It keeps the reports of the confirmed stages apart from the exchanges,
because they alone decide what the node has become: `Staged.after_eq` says that the node is the one
of the beginning with the confirmed stages applied, wherever it ended. `Staged.append` puts two
lists one after another, which is how an update is put together from its parts.
-/

namespace Testbed.Node

/-- A question of an operation with the node it was put for. -/
abbrev Exchange := Process.Exchange Node Question Question.Reply

/-- What answers the questions of an operation. -/
abbrev Outside := Process.Outside Node Question Question.Reply

/-- The record of an operation. -/
abbrev Record (α : Type) := Process.Transcript Node Question Question.Reply (Except ControlError α)

/-- How far stages were carried out: to their end, to an error, or to where they were given up.
Given up is not failed, and so there are three. -/
abbrev Ending := Option (Except ControlError Unit)

/-- **Stages carried out**: from the node at the beginning and the stages to the exchanges, the
reports of the confirmed stages, the ending and the node that is left. The relation has a
constructor for every way in which the next thing can go. It does not say which of them it is, so
that whatever follows from it holds for every engine and for every point at which the operation may
be dropped. -/
inductive Staged : Node → List Stage → List Exchange → List Json → Ending → Node → Prop
  /-- Nothing is left to request. -/
  | finished (n : Node) : Staged n [] [] [] (some (.ok ())) n
  /-- The engine is looked for and found. -/
  | found {n m : Node} {stage : Stage} {rest : List Stage} {log : List Exchange}
      {reports : List Json} {ending : Ending} (client : Client)
      (h : Staged n (stage :: rest) log reports ending m) :
      Staged n (stage :: rest) (⟨n, .engine n.engine, some (.ok client)⟩ :: log) reports ending m
  /-- The engine is looked for and not found. -/
  | missing (n : Node) (stage : Stage) (rest : List Stage) (e : RegistryError) :
      Staged n (stage :: rest) [⟨n, .engine n.engine, some (.error e)⟩] []
        (some (.error (engineMissing e))) n
  /-- It is given up while the engine is looked for. -/
  | unfound (n : Node) (stage : Stage) (rest : List Stage) :
      Staged n (stage :: rest) [⟨n, .engine n.engine, none⟩] [] none n
  /-- The engine confirms the next stage. -/
  | confirmed {n m : Node} {stage : Stage} {rest : List Stage} {log : List Exchange}
      {reports : List Json} {ending : Ending} (client : Client) (report : Json)
      (h : Staged (stage.confirm report n) rest log reports ending m) :
      Staged n (stage :: rest) (⟨n, .send ⟨client, stage.request n⟩, some (.ok report)⟩ :: log)
        (report :: reports) ending m
  /-- The engine refuses the next stage. -/
  | refused (n : Node) (stage : Stage) (rest : List Stage) (client : Client) (e : EngineError) :
      Staged n (stage :: rest) [⟨n, .send ⟨client, stage.request n⟩, some (.error e)⟩] []
        (some (.error (.ofEngine e))) n
  /-- It is given up while the next stage is under way. -/
  | unanswered (n : Node) (stage : Stage) (rest : List Stage) (client : Client) :
      Staged n (stage :: rest) [⟨n, .send ⟨client, stage.request n⟩, none⟩] [] none n

/-- The node after confirmations of the first stages of a list, one for each report. Stages without
a report are left out, as they were not confirmed. -/
def confirmAll : Node → List Stage → List Json → Node
  | n, stage :: stages, report :: reports => confirmAll (stage.confirm report n) stages reports
  | n, _, _ => n

namespace Staged

variable {n m : Node} {stages : List Stage} {log : List Exchange} {reports : List Json}
  {ending : Ending}

/-- **The node that is left has the confirmed stages applied, and nothing else.** So the ending says
nothing about the node that the reports do not say: of two operations that got the same
confirmations, one of which was then refused and the other given up, the nodes are equal. -/
theorem after_eq (h : Staged n stages log reports ending m) :
    m = confirmAll n stages reports := by
  induction h with
  | finished => rfl
  | found _ _ ih => exact ih
  | confirmed _ _ _ ih => exact ih
  | missing | unfound | refused | unanswered => rfl

/-- Stages that ended well are followed by more. The reports and the questions of both stand one
after the other. -/
theorem append {later : List Stage} {log' : List Exchange} {reports' : List Json} {k : Node}
    (h : Staged n stages log reports (some (.ok ())) m)
    (h' : Staged m later log' reports' ending k) :
    Staged n (stages ++ later) (log ++ log') (reports ++ reports') ending k := by
  -- the induction is on the earlier stages, whose ending has to be a variable
  generalize hend : (some (.ok ()) : Ending) = ending' at h
  induction h with
  | finished => exact h'
  | found client _ ih => exact .found client (ih h' hend)
  | confirmed client report _ ih => exact .confirmed client report (ih h' hend)
  | missing | unfound | refused | unanswered => cases hend

/-- Stages that did not end well are followed by none. So a list of stages may be extended without
looking at what is behind the failure. -/
theorem cut (later : List Stage) (h : Staged n stages log reports ending m)
    (hend : ending ≠ some (.ok ())) : Staged n (stages ++ later) log reports ending m := by
  induction h with
  | finished => exact absurd rfl hend
  | found client _ ih => exact .found client (ih hend)
  | confirmed client report _ ih => exact .confirmed client report (ih hend)
  | missing => exact .missing ..
  | unfound => exact .unfound ..
  | refused => exact .refused ..
  | unanswered => exact .unanswered ..

/-- **Stages that ended well began with the first one**: after lookups it was requested and
confirmed, and the others were carried out from there. Before a request there may be lookups of the
engine, and these are no requests. What is left of the stages starts at the node that the
confirmation has made. -/
theorem uncons {stage : Stage} (h : Staged n (stage :: stages) log reports (some (.ok ())) m) :
    ∃ lookups client report log' reports',
      log = lookups ++ ⟨n, .send ⟨client, stage.request n⟩, some (.ok report)⟩ :: log'
        ∧ (∀ x ∈ lookups, ∀ call, x.question ≠ .send call)
        ∧ Staged (stage.confirm report n) stages log' reports' (some (.ok ())) m := by
  generalize hall : stage :: stages = all at h
  generalize hend : (some (.ok ()) : Ending) = ending at h
  induction h with
  | finished => cases hall
  | @found n m _ _ log reports _ client _ ih =>
    obtain ⟨lookups, client', report, log', reports', rfl, hlookups, hrest⟩ := ih hall hend
    exact ⟨⟨n, .engine n.engine, some (.ok client)⟩ :: lookups, client', report, log', reports',
      rfl, List.forall_mem_cons.mpr ⟨nofun, hlookups⟩, hrest⟩
  | @confirmed n m _ _ log reports _ client report hrest _ =>
    cases hall
    cases hend
    exact ⟨[], client, report, log, reports, rfl, List.forall_mem_nil _, hrest⟩
  | missing | unfound | refused | unanswered => cases hend

/-- **Stages that ended well can be parted** anywhere. The exchanges are cut where the first part is
done, and the node in the middle is the one that the first part leaves. -/
theorem split {first later : List Stage}
    (h : Staged n (first ++ later) log reports (some (.ok ())) m) :
    ∃ k log' log'' reports' reports'', log = log' ++ log''
      ∧ Staged n first log' reports' (some (.ok ())) k
      ∧ Staged k later log'' reports'' (some (.ok ())) m := by
  generalize hall : first ++ later = all at h
  generalize hend : (some (.ok ()) : Ending) = ending at h
  induction h generalizing first with
  | finished n =>
    obtain ⟨rfl, rfl⟩ := List.append_eq_nil_iff.mp hall
    exact ⟨n, [], [], [], [], rfl, .finished n, .finished n⟩
  | @found n m _ _ log reports _ client h ih =>
    cases first with
    | nil =>
      obtain rfl := hall
      obtain rfl := hend
      exact ⟨n, [], _, [], _, rfl, .finished n, .found client h⟩
    | cons stage first =>
      obtain ⟨k, log', log'', reports', reports'', rfl, hfirst, hlater⟩ := ih hall hend
      exact ⟨k, _ :: log', log'', reports', reports'', rfl, .found client hfirst, hlater⟩
  | @confirmed n m _ _ log reports _ client report h ih =>
    cases first with
    | nil =>
      obtain rfl := hall
      obtain rfl := hend
      exact ⟨n, [], _, [], _, rfl, .finished n, .confirmed client report h⟩
    | cons stage first =>
      obtain ⟨rfl, hrest⟩ := List.cons.inj hall
      obtain ⟨k, log', log'', reports', reports'', rfl, hfirst, hlater⟩ := ih hrest hend
      exact ⟨k, _ :: log', log'', report :: reports', reports'', rfl,
        .confirmed client report hfirst, hlater⟩
  | missing | unfound | refused | unanswered => cases hend

end Staged

/-- A record of stages carried out, with a value that is made of the reports. The reports are those
of the confirmed stages; with an error or without an end there is no value. -/
def Yields {α : Type} (n : Node) (stages : List Stage) (value : List Json → α) (t : Record α) :
    Prop :=
  ∃ reports ending, Staged n stages t.exchanges reports ending t.after
    ∧ t.result = ending.map (Except.map fun _ => value reports)

/-- **A record of an operation that did what it set out to do.** A refusal and an operation that
needs no engine leave no exchanges at all; anything else is a list of stages carried out, with the
outcome that belongs to it. -/
def Agenda.Performed (n : Node) : Agenda → Record Outcome → Prop
  | refuse e, t => t = ⟨[], some (.error e), n⟩
  | settle after outcome, t => t = ⟨[], some (.ok outcome), after⟩
  | carryOut stages outcome, t => Yields n stages outcome t

end Testbed.Node

import Testbed.Proofs.Process.Transcript
import Testbed.Registry.Operations

/-!
# Operations one after another

An operation of the registry as data, so that a list of them is a course of events and a family of
them a set of calls. The process of an operation is its `task`.

An operation that has the registry to itself asks nothing and waits for nobody, so it comes down to
what it replies and what it leaves behind. `Operation.outcome` writes this down without processes,
and `Operation.task_settles` says that it is what the process does. Courses of operations (`after`)
are run as processes nevertheless, and `outcome` is what a proof about them works with
(`alone_task`).
-/

namespace Testbed.Registry

/-- **What is asked of the registry.** They are all that callers can do to it. -/
inductive Operation where
  /-- To register an engine. -/
  | register (record : EngineRecord)
  /-- To register an engine that is reached through a supplied client. -/
  | registerWith (record : EngineRecord) (name : String)
  /-- To forget an engine. -/
  | unregister (id : String)
  /-- To give out the client of an engine. -/
  | client (id : String)
  /-- To drop the client of an engine. -/
  | disconnect (id : String)
  /-- To drop every client. -/
  | disconnectAll
  /-- To change how long answers are waited for. -/
  | setTimeout (timeout : Duration)

/-- What an operation gives back: a client if it was asked for one. Success without a client is
`none` inside. -/
abbrev Reply := Except RegistryError (Option Client)

/-- The reply of an operation that is asked for no client. Nothing is said but that it succeeded. -/
def Reply.ofUnit (result : Except RegistryError Unit) : Reply := result.map fun _ => none

/-- The reply of an operation that is asked for a client. A client is always there if it succeeded.
-/
def Reply.ofClient (result : Except RegistryError Client) : Reply := result.map some

/-- **The process of an operation.** The questions that it might ask are of any kind, as it asks
none. -/
def Operation.task {Q : Type} {R : Q → Type} : Operation → Process Registry Q R Reply
  | register record => return .ofUnit (← Registry.register record)
  | registerWith record name => return .ofUnit (← Registry.registerWith record name)
  | unregister id => return .ofUnit (← Registry.unregister id)
  | client id => return .ofClient (← Registry.client id)
  | disconnect id => return .ofUnit (.ok (← Registry.disconnect id))
  | disconnectAll => return .ofUnit (.ok (← Registry.disconnectAll))
  | setTimeout timeout => return .ofUnit (.ok (← Registry.setTimeout timeout))

/-! ## An operation that has the registry to itself

While nobody holds the registry, an operation runs through without waiting, and what it gives and
leaves can be written down as a function. Each operation has its equation, by the cases that it
distinguishes. -/

section Settles

variable {Q α : Type} {R : Q → Type} {r r' : Registry} {record : EngineRecord} {id : String}

theorem exclusively_settles {p : Process Registry Q R α} {a : α} (h : r.held = false)
    (hp : p.Settles { r with held := true } a r') : (exclusively p).Settles r a r'.release := by
  refine (Process.settles_whenReady _ (by rw [h]; rfl)).andThen ?_
  refine (hp.onAbandon release).andThen ?_
  exact ((Process.settles_change _ r').onAbandon release).andThen (Process.settles_pure a _)

theorem inspect_settles (f : Registry → α) (h : r.held = false) :
    (inspect f : Process Registry Q R α).Settles r (f r) r :=
  Process.settles_whenReady _ (by rw [h]; rfl)

/-- A process that changes the registry once while it holds it. The function must not look at who
holds the registry, which all of those used here do not. -/
theorem exclusively_settles_of {p : Process Registry Q R α} {a : α} {f : Registry → Registry}
    (h : r.held = false) (hf : ∀ held, f { r with held } = { f r with held })
    (hp : p.Settles { r with held := true } a (f { r with held := true })) :
    (exclusively p).Settles r a (f r) := by
  have hfree : f r = release (f { r with held := true }) := by
    rw [hf true]
    show f r = { f r with held := false }
    rw [← hf false, ← h]
  rw [hfree]
  exact exclusively_settles h hp

/-- Marking an engine does not depend on who holds the registry. The two can be done in either
order. -/
theorem mark_setHeld (r : Registry) (id : String) (status : EngineStatus) (held : Bool) :
    ({ r with held }.mark id status) = { r.mark id status with held } := by
  unfold mark
  have hentry : Registry.entry? { r with held } id = r.entry? id := rfl
  rw [hentry]
  cases r.entry? id with
  | none => rfl
  | some e => rfl

/-- Connecting an engine does not depend on who holds the registry. Its result is the same as well.
-/
theorem connect_setHeld (held : Bool) : Registry.connect { r with held } id
    = ((r.connect id).1, { (r.connect id).2 with held }) := by
  unfold connect
  have hentry : Registry.entry? { r with held } id = r.entry? id := rfl
  rw [hentry]
  cases r.entry? id with
  | none => rfl
  | some e =>
    dsimp only
    cases r.clients.get? id with
    | some client => rfl
    | none =>
      dsimp only
      cases e.supplied with
      | some name => exact congrArg (Prod.mk _) (mark_setHeld (r.putClient id _) id _ held)
      | none =>
        dsimp only
        have htimeout : Registry.timeout { r with held } = r.timeout := rfl
        rw [htimeout]
        cases Endpoint.ofRecord e.record r.timeout with
        | error fault => rfl
        | ok endpoint =>
          let built : Registry := { r with built := r.built + 1 }
          exact congrArg (Prod.mk _) (mark_setHeld (built.putClient id _) id _ held)

theorem held_connect (r : Registry) (id : String) : (r.connect id).2.held = r.held :=
  congrArg (fun outcome => outcome.2.held) (connect_setHeld r.held)

/-- Registering an engine whose address another one has is refused. Nothing is changed, and the
owner is named. -/
theorem register_refused {owner : String} (h : r.held = false)
    (howner : r.addressOwner? record = some owner) :
    (register record : Process Registry Q R _).Settles r
      (.error (.addressTaken owner record.address)) r := by
  have howner' : Registry.addressOwner? { r with held := true } record = some owner := howner
  refine exclusively_settles_of (f := id) h (fun _ => rfl)
    (.andThen (Process.settles_atomically _ _) ?_)
  dsimp only
  rw [howner']
  exact Process.settles_pure _ _

/-- Registering an engine whose address nobody else has. It is put in the table, and that is all. -/
theorem register_accepted (h : r.held = false) (howner : r.addressOwner? record = none) :
    (register record : Process Registry Q R _).Settles r (.ok ()) (r.putRecord record) := by
  have howner' : Registry.addressOwner? { r with held := true } record = none := howner
  refine exclusively_settles_of (f := (·.putRecord record)) h (fun _ => rfl)
    (.andThen (Process.settles_atomically _ _) ?_)
  dsimp only
  rw [howner']
  exact (Process.settles_change _ _).andThen (Process.settles_pure _ _)

/-- Registering an engine with a client is refused alike. The client that was supplied is not kept.
-/
theorem registerWith_refused {name owner : String} (h : r.held = false)
    (howner : r.addressOwner? record = some owner) :
    (registerWith record name : Process Registry Q R _).Settles r
      (.error (.addressTaken owner record.address)) r := by
  have howner' : Registry.addressOwner? { r with held := true } record = some owner := howner
  refine exclusively_settles_of (f := id) h (fun _ => rfl)
    (.andThen (Process.settles_atomically _ _) ?_)
  dsimp only
  rw [howner']
  exact Process.settles_pure _ _

/-- Registering an engine with a client, at an address that nobody else has. Entry and client are
written in two steps, between which nobody holds the registry but this operation. -/
theorem registerWith_accepted {name : String} (h : r.held = false)
    (howner : r.addressOwner? record = none) :
    (registerWith record name : Process Registry Q R _).Settles r (.ok ())
      ((r.putSupplied record name).putClient record.id (.supplied name)) := by
  have howner' : Registry.addressOwner? { r with held := true } record = none := howner
  refine exclusively_settles_of
    (f := fun r => (r.putSupplied record name).putClient record.id (.supplied name)) h
    (fun _ => rfl) (.andThen (Process.settles_atomically _ _) ?_)
  dsimp only
  rw [howner']
  exact (Process.settles_change _ _).andThen
    ((Process.settles_change _ _).andThen (Process.settles_pure _ _))

/-- Forgetting an engine. Its client goes with it. -/
theorem unregister_known (h : r.held = false) (hknown : (r.entry? id).isSome = true) :
    (unregister id : Process Registry Q R _).Settles r (.ok ())
      ((r.dropEntry id).dropClient id) := by
  refine exclusively_settles_of (f := fun r => (r.dropEntry id).dropClient id) h (fun _ => rfl)
    (.andThen (Process.settles_atomically _ _) ?_)
  show Process.Settles (if (r.entry? id).isSome = true then _ else _) _ _ _
  rw [if_pos hknown]
  exact (Process.settles_change _ _).andThen
    ((Process.settles_change _ _).andThen (Process.settles_pure _ _))

/-- Forgetting an engine that is not there fails. The registry is as it was. -/
theorem unregister_unknown (h : r.held = false) (hunknown : ¬ (r.entry? id).isSome = true) :
    (unregister id : Process Registry Q R _).Settles r (.error (.unknown id)) r := by
  refine exclusively_settles_of (f := fun r => r) h (fun _ => rfl)
    (.andThen (Process.settles_atomically _ _) ?_)
  show Process.Settles (if (r.entry? id).isSome = true then _ else _) _ _ _
  rw [if_neg hunknown]
  exact Process.settles_pure _ _

/-- A client that is in use is given out. Whoever holds the registry does not matter for that. -/
theorem client_found {client : Client} (hclient : r.clients.get? id = some client) :
    (Registry.client id : Process Registry Q R _).Settles r (.ok client) r := by
  refine .andThen (Process.settles_atomically _ _) ?_
  dsimp only
  rw [hclient]
  exact Process.settles_pure _ _

/-- An engine without a client is connected. This may fail, and then the registry is as it was. -/
theorem client_connected (h : r.held = false) (hclient : r.clients.get? id = none) :
    (Registry.client id : Process Registry Q R _).Settles r (r.connect id).1 (r.connect id).2 := by
  refine .andThen (Process.settles_atomically _ _) ?_
  dsimp only
  rw [hclient]
  refine exclusively_settles_of (f := fun r => (r.connect id).2) h
    (fun held => congrArg Prod.snd (connect_setHeld held)) ?_
  have hfirst : (r.connect id).1 = (Registry.connect { r with held := true } id).1 :=
    (congrArg Prod.fst (connect_setHeld true)).symm
  rw [hfirst]
  exact Process.settles_atomically _ _

theorem disconnect_settles (h : r.held = false) :
    (disconnect id : Process Registry Q R _).Settles r () (r.disconnectOne id) :=
  exclusively_settles_of (f := (·.disconnectOne id)) h
    (mark_setHeld (r.dropClient id) id _) (Process.settles_change _ _)

theorem disconnectAll_settles (h : r.held = false) :
    (disconnectAll : Process Registry Q R _).Settles r () r.disconnectEvery :=
  exclusively_settles_of (f := disconnectEvery) h (fun _ => rfl) (Process.settles_change _ _)

/-- Setting the time-out that is set already. No client is dropped. -/
theorem setTimeout_same {timeout : Duration} (hsame : r.timeoutMs = millisOf timeout) :
    (setTimeout timeout : Process Registry Q R _).Settles r () r := by
  have htimed : { r with timeoutMs := millisOf timeout } = r := by rw [← hsame]
  refine .andThen (Process.settles_atomically _ r) ?_
  show Process.Settles (if r.timeoutMs = millisOf timeout then _ else _) _ _ _
  rw [if_pos hsame, htimed]
  exact Process.settles_pure _ _

/-- Setting another time-out. The built clients are dropped with it, so none of them has the old
one. -/
theorem setTimeout_other {timeout : Duration} (h : r.held = false)
    (hother : r.timeoutMs ≠ millisOf timeout) :
    (setTimeout timeout : Process Registry Q R _).Settles r ()
      (dropBuilt { r with timeoutMs := millisOf timeout }) := by
  refine .andThen (Process.settles_atomically _ r) ?_
  show Process.Settles (if r.timeoutMs = millisOf timeout then _ else _) _ _ _
  rw [if_neg hother]
  exact exclusively_settles_of (r := { r with timeoutMs := millisOf timeout }) (f := dropBuilt) h
    (fun _ => rfl) (Process.settles_change _ _)

end Settles

namespace Operation

/-- **What an operation replies and leaves behind** if it has the registry to itself. An operation
is refused for two reasons only: another engine has the address, or the engine is not known. And a
client is not given if none can be built. -/
def outcome (r : Registry) : Operation → Reply × Registry
  | register record =>
    match r.addressOwner? record with
    | some owner => (.error (.addressTaken owner record.address), r)
    | none => (.ok none, r.putRecord record)
  | registerWith record name =>
    match r.addressOwner? record with
    | some owner => (.error (.addressTaken owner record.address), r)
    | none => (.ok none, (r.putSupplied record name).putClient record.id (.supplied name))
  | unregister id =>
    if (r.entry? id).isSome then (.ok none, (r.dropEntry id).dropClient id)
    else (.error (.unknown id), r)
  | client id =>
    match r.clients.get? id with
    | some found => (.ok (some found), r)
    | none => (.ofClient (r.connect id).1, (r.connect id).2)
  | disconnect id => (.ok none, r.disconnectOne id)
  | disconnectAll => (.ok none, r.disconnectEvery)
  | setTimeout timeout =>
    if r.timeoutMs = millisOf timeout then (.ok none, r)
    else (.ok none, dropBuilt { r with timeoutMs := millisOf timeout })

/-- **An operation that has the registry to itself comes to its outcome.** One case for each
operation, with the registry being taken and given back around its changes. -/
theorem task_settles {Q : Type} {R : Q → Type} {r : Registry} (h : r.held = false)
    (o : Operation) :
    (o.task : Process Registry Q R Reply).Settles r (o.outcome r).1 (o.outcome r).2 := by
  cases o with
  | register record =>
    unfold outcome
    dsimp only
    cases howner : r.addressOwner? record with
    | some owner => exact (register_refused h howner).andThen (Process.settles_pure _ _)
    | none => exact (register_accepted h howner).andThen (Process.settles_pure _ _)
  | registerWith record name =>
    unfold outcome
    dsimp only
    cases howner : r.addressOwner? record with
    | some owner => exact (registerWith_refused h howner).andThen (Process.settles_pure _ _)
    | none => exact (registerWith_accepted h howner).andThen (Process.settles_pure _ _)
  | unregister id =>
    unfold outcome
    dsimp only
    by_cases hknown : (r.entry? id).isSome = true
    · rw [if_pos hknown]
      exact (unregister_known h hknown).andThen (Process.settles_pure _ _)
    · rw [if_neg hknown]
      exact (unregister_unknown h hknown).andThen (Process.settles_pure _ _)
  | client id =>
    unfold outcome
    dsimp only
    cases hclient : r.clients.get? id with
    | some client => exact (client_found hclient).andThen (Process.settles_pure _ _)
    | none => exact (client_connected h hclient).andThen (Process.settles_pure _ _)
  | disconnect id => exact (disconnect_settles h).andThen (Process.settles_pure _ _)
  | disconnectAll => exact (disconnectAll_settles h).andThen (Process.settles_pure _ _)
  | setTimeout timeout =>
    unfold outcome
    dsimp only
    by_cases hsame : r.timeoutMs = millisOf timeout
    · rw [if_pos hsame]
      exact (setTimeout_same hsame).andThen (Process.settles_pure _ _)
    · rw [if_neg hsame]
      exact (setTimeout_other h hsame).andThen (Process.settles_pure _ _)

end Operation

/-! ## Courses of operations

Operations one after another, each of which has the registry to itself. What they leave is the
composition of their outcomes. -/

/-- **What a process gives and leaves behind** if it has the registry to itself. It has nobody to
ask. -/
def alone {α : Type} (p : Process Registry Empty (fun _ => Empty) α) (r : Registry) :
    Option α × Registry :=
  let (result, after, _) := p.complete (fun question (_ : Unit) => question.elim) r ()
  (result, after)

/-- **The registry after operations**, one after another. Each operation is begun when the one
before it has ended, so it has the registry to itself. -/
def after (r : Registry) (course : List Operation) : Registry :=
  course.foldl (fun r o => (alone o.task r).2) r

section Alone

variable {α : Type} {r r' : Registry}

theorem alone_of_settles {p : Process Registry Empty (fun _ => Empty) α} {a : α}
    (h : p.Settles r a r') : alone p r = (some a, r') := by
  unfold alone
  rw [Process.complete_eq_transcript, h.transcript]

/-- An operation that has the registry to itself replies, and leaves its outcome. It never has to
wait. -/
theorem alone_task (h : r.held = false) (o : Operation) :
    alone o.task r = (some (o.outcome r).1, (o.outcome r).2) :=
  alone_of_settles (o.task_settles h)

theorem after_concat (course : List Operation) (o : Operation) :
    r.after (course ++ [o]) = (alone o.task (r.after course)).2 :=
  List.foldl_append ..

end Alone

end Testbed.Registry

import Testbed.Proofs.Registry.Order

/-!
# What a course of operations does to an engine

A course of operations is a list of them, performed one after another. Between two of them the
registry is *idle*: nobody holds it, and it is in order (`Idle.after`). An operation that has the
registry to itself is a crew of one call, so this needs no look at the operations.

What an operation does to one engine is seen in the engine's entry, its client and the time-out.
`Operation.fares` says what these three are after the operation, and it is how an invariant that is
about one engine is kept by a course.

Most operations concern one engine or none. Those that drop the clients of all engines, or of all
that have built ones, do the same to each of them, and so it is enough to look at one engine at a
time: what an operation does to the others need not be known.
-/

namespace Testbed.Registry

open Operation (Acts)

namespace Idle

variable {r : Registry}

/-- **An operation leaves the registry idle.** Whoever has the registry to himself gives it back in
the end, and adds no second row. -/
theorem outcome (h : Idle r) (o : Operation) : Idle (o.outcome r).2 := by
  have hmoves : ∀ g r r' g', (∃ log, Ordered (fun _ : Unit => o) r log fun _ => g) →
      Acts o g r r' g' → ∃ log, Ordered (fun _ : Unit => o) r' log fun _ => g' := by
    rintro g r r' g' ⟨log, hordered⟩ hact
    have hacts := hordered.acts (i := ()) hact
    have hphase : Function.update (fun _ : Unit => g) () g' = fun _ => g' :=
      funext fun _ => Function.update_self ..
    rw [hphase] at hacts
    exact ⟨_, hacts⟩
  obtain ⟨_, ⟨log, hordered⟩, rfl⟩ := o.task_follows.of_settles _ (fun _ _ _ => trivial) hmoves
    ⟨[], h.ordered fun _ => o⟩ (o.task_settles h.free)
  refine hordered.idle ?_
  -- a call that has ended does not hold the registry
  by_contra hheld
  obtain ⟨_, ⟨⟩⟩ := hordered.custody.held.mp ((Bool.not_eq_false _).mp hheld)

/-- The registry after one more operation. The guard that it waits for is open. -/
theorem alone_task (h : Idle r) (o : Operation) : (alone o.task r).2 = (o.outcome r).2 := by
  rw [Registry.alone_task h.free]

/-- **A course leaves the registry idle.** The proof is by induction on the course. -/
theorem after (h : Idle r) (course : List Operation) : Idle (r.after course) := by
  induction course using List.reverseRecOn with
  | nil => exact h
  | append_singleton course o ih =>
    rw [after_concat, ih.alone_task]
    exact ih.outcome o

end Idle

/-! ## One engine

What an operation does to a single engine, whatever else is registered. It is enough to know what is
found of it: its record, its status, what was supplied, and the client in use. -/

/-- **What is found of an engine**: its entry, its client and the time-out for it. Apart from the
addresses of others and the serial number of the next client, nothing else in the registry has any
influence on what an operation does to the engine. -/
structure Found (r : Registry) (id : String) (entry : Option RegistryEntry)
    (client : Option Client) (timeoutMs : Nat) : Prop where
  /-- The entry. -/
  entry : r.entry? id = entry
  /-- The client in use. -/
  client : r.clients.get? id = client
  /-- The time-out. -/
  timeoutMs : r.timeoutMs = timeoutMs

/-- **How an engine fares at an operation.** The first case is also that of an operation that is
refused, and of one that finds its work done. It excludes that the engine is registered with the
record that it has, which is the one operation that changes the entry of an engine and leaves its
client. -/
inductive Fares (id : String) (r r' : Registry) : Operation → Prop
  /-- The operation does not concern it. -/
  | rests {o : Operation} (hother : ∀ record, o = .register record → r.record? id ≠ some record)
      (h : Found r' id (r.entry? id) (r.clients.get? id) r.timeoutMs) : Fares id r r' o
  /-- It is registered. -/
  | registers {record : EngineRecord} (hid : record.id = id)
      (h : Found r' id (some ⟨record, .registered, none⟩)
        (if (r.record? id).any (· ≠ record) then none else r.clients.get? id) r.timeoutMs) :
      Fares id r r' (.register record)
  /-- It is registered with a client. -/
  | supplies {record : EngineRecord} {name : String} (hid : record.id = id)
      (h : Found r' id (some ⟨record, .connected, some name⟩) (some (.supplied name))
        r.timeoutMs) : Fares id r r' (.registerWith record name)
  /-- It is forgotten. -/
  | leaves (h : Found r' id none none r.timeoutMs) : Fares id r r' (.unregister id)
  /-- It is connected. -/
  | connects {e : RegistryEntry} {client : Client} (hentry : r.entry? id = some e)
      (hnone : r.clients.get? id = none) (hasks : e.Asks r.timeout client)
      (h : Found r' id (some { e with status := .connected }) (some client) r.timeoutMs) :
      Fares id r r' (.client id)
  /-- Its client is dropped. -/
  | parts {o : Operation} (ho : o = .disconnect id ∨ o = .disconnectAll)
      (h : Found r' id ((r.entry? id).map ({ · with status := .disconnected })) none
        r.timeoutMs) : Fares id r r' o
  /-- The time-out is changed. -/
  | retimes {timeout : Duration}
      (h : Found r' id ((r.entry? id).map fun e =>
          if e.supplied.isNone ∧ r.isConnected id then { e with status := .registered } else e)
        (if r.usesBuilt id then none else r.clients.get? id) (millisOf timeout)) :
      Fares id r r' (.setTimeout timeout)

section Fares

variable {r : Registry} {id : String}

/-- An engine can be registered with the record that it has. Nobody else has its address in a
registry in order. -/
theorem addressOwner?_self (h : Idle r) {record : EngineRecord}
    (hrow : r.record? id = some record) :
    r.addressOwner? record = none := by
  refine (addressOwner?_eq_none_iff r record h.orderly).mpr ?_
  rintro ⟨id', old, hold, hne, haddress⟩
  obtain rfl := h.orderly.keyed id record hrow
  exact hne (h.orderly.distinct id' record.id old record hold hrow haddress)

/-- Connecting another engine does not concern this one, and connecting this one is a matter of its
entry. -/
theorem fares_connect (r : Registry) (id id' : String) :
    Fares id r (r.connect id').2 (.client id') := by
  obtain ⟨hsame, -⟩ | ⟨e, client, built, hentry, hnone, hok, heq⟩ := connect_cases r id'
  · rw [hsame]
    exact .rests (by rintro _ ⟨⟩) ⟨rfl, rfl, rfl⟩
  · have hentries := entry?_equipped r id' client built
    have hclients := clients_equipped r id' client built
    rw [← heq] at hentries hclients
    by_cases hid : id = id'
    · subst hid
      refine .connects hentry hnone ((alike_connect_iff hentry hnone client).mp (by rw [hok]; rfl))
        ⟨?_, ?_, ?_⟩
      · rw [hentries, Function.update_self, hentry]
        rfl
      · rw [hclients, Dict.get_insert_self]
      · rw [heq, timeoutMs_equipped]
    · refine .rests (by rintro _ ⟨⟩) ⟨?_, ?_, ?_⟩
      · rw [hentries, Function.update_of_ne hid]
      · rw [hclients, Dict.get_insert_ne _ _ hid]
      · rw [heq, timeoutMs_equipped]

/-- **How an engine fares at an operation** that has the registry to itself. There is one case for
each kind of operation, and the engine may be the one that it is about or another one. -/
theorem Operation.fares (h : Idle r) (o : Operation) (id : String) :
    Fares id r (o.outcome r).2 o := by
  cases o with
  | register record =>
    unfold outcome
    dsimp only
    cases howner : r.addressOwner? record with
    | some owner =>
      refine .rests ?_ ⟨rfl, rfl, rfl⟩
      rintro _ ⟨⟩ hrow
      rw [addressOwner?_self h hrow] at howner
      cases howner
    | none =>
      dsimp only
      by_cases hid : id = record.id
      · subst hid
        refine .registers rfl ⟨?_, ?_, rfl⟩
        · rw [entry?_putRecord, Function.update_self]
        · rw [clients_putRecord]
          split
          · rw [Function.update_self]
          · rfl
      · refine .rests ?_ ⟨?_, ?_, rfl⟩
        · rintro _ ⟨⟩ hrow
          exact hid (h.orderly.keyed id record hrow).symm
        · rw [entry?_putRecord, Function.update_of_ne hid]
        · rw [clients_putRecord]
          split
          · rw [Function.update_of_ne hid]
          · rfl
  | registerWith record name =>
    unfold outcome
    dsimp only
    cases howner : r.addressOwner? record with
    | some owner => exact .rests (by rintro _ ⟨⟩) ⟨rfl, rfl, rfl⟩
    | none =>
      dsimp only
      by_cases hid : id = record.id
      · subst hid
        refine .supplies rfl ⟨?_, ?_, rfl⟩
        · exact (congrFun (entry?_putSupplied r record name) record.id).trans
            (Function.update_self ..)
        · rw [clients_putClient, Function.update_self]
      · refine .rests (by rintro _ ⟨⟩) ⟨?_, ?_, rfl⟩
        · exact (congrFun (entry?_putSupplied r record name) id).trans
            (Function.update_of_ne hid ..)
        · rw [clients_putClient, Function.update_of_ne hid]
          rfl
  | unregister id' =>
    unfold outcome
    dsimp only
    split
    · by_cases hid : id = id'
      · subst hid
        refine .leaves ⟨?_, ?_, rfl⟩
        · exact (congrFun (entry?_dropEntry r id) id).trans (Function.update_self ..)
        · rw [clients_dropClient, Function.update_self]
      · refine .rests (by rintro _ ⟨⟩) ⟨?_, ?_, rfl⟩
        · exact (congrFun (entry?_dropEntry r id') id).trans (Function.update_of_ne hid ..)
        · rw [clients_dropClient, Function.update_of_ne hid]
          rfl
    · exact .rests (by rintro _ ⟨⟩) ⟨rfl, rfl, rfl⟩
  | client id' =>
    unfold outcome
    dsimp only
    split
    · exact .rests (by rintro _ ⟨⟩) ⟨rfl, rfl, rfl⟩
    · exact fares_connect r id id'
  | disconnect id' =>
    by_cases hid : id = id'
    · subst hid
      refine .parts (.inl rfl) ⟨?_, ?_, timeoutMs_disconnectOne r id⟩
      · exact (congrFun (entry?_disconnectOne r id) id).trans (Function.update_self ..)
      · exact (congrFun (clients_disconnectOne r id) id).trans (Function.update_self ..)
    · refine .rests (by rintro _ ⟨⟩) ⟨?_, ?_, timeoutMs_disconnectOne r id'⟩
      · exact (congrFun (entry?_disconnectOne r id') id).trans (Function.update_of_ne hid ..)
      · exact (congrFun (clients_disconnectOne r id') id).trans (Function.update_of_ne hid ..)
  | disconnectAll => exact .parts (.inr rfl) ⟨entry?_disconnectEvery r id, rfl, rfl⟩
  | setTimeout timeout =>
    unfold outcome
    dsimp only
    split
    · exact .rests (by rintro _ ⟨⟩) ⟨rfl, rfl, rfl⟩
    · exact .retimes ⟨entry?_dropBuilt _ id, clients_dropBuilt _ id, rfl⟩

end Fares

end Testbed.Registry

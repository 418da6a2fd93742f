import Testbed.Proofs.Registry.Calls
import Testbed.Proofs.Registry.Table

/-!
# The registry is kept in order

The registry has two dictionaries, and an operation writes to them one after the other. In between,
an engine can have an entry and not yet its client, or a client and no entry any more. That nobody
gets to see more of it than that a client is missing is due to the lock: between its two changes an
operation holds the registry, so whenever nobody holds it the dictionaries agree (`kept_in_order`).

That no two engines have one address is due to the lock as well, because a registration looks at the
addresses first and writes later. The invariant remembers the look: a call that was cleared still
has its address free (`Ordered.free`).

An operation that fails has no part in this. Failing is settled before the first change is made, so
a call that has failed has not touched anything, whoever else was at work.
-/

namespace Testbed.Registry

open Operation (Acts)

section Steps

variable {o : Operation} {g g' : Phase} {r r' : Registry}

/-- **What a step does to the table**: nothing, or it enters the record of a call that was cleared,
or it takes the row out that a call was to forget. Marking an engine or connecting it writes to an
entry, too, but not to its record. -/
theorem Operation.Acts.table (h : Acts o g r r' g') :
    r'.record? = r.record?
      ∨ (∃ record, o.record? = some record ∧ g = .cleared
          ∧ r'.record? = Function.update r.record? record.id (some record))
      ∨ ∃ id, o = .unregister id ∧ g' = .halfway
          ∧ r'.record? = Function.update r.record? id none := by
  cases h with
  | registers => exact .inr (.inl ⟨_, rfl, rfl, record?_putRecord _ _⟩)
  | supplies => exact .inr (.inl ⟨_, rfl, rfl, record?_putSupplied _ _ _⟩)
  | forgets => exact .inr (.inr ⟨_, rfl, rfl, record?_dropEntry _ _⟩)
  | connects => exact .inl (record?_connect _ _)
  | disconnects => exact .inl (record?_disconnectOne _ _)
  | disconnectsEvery => exact .inl (record?_disconnectEvery _)
  | renews => exact .inl (record?_dropBuilt _)
  | _ => exact .inl rfl

/-- **The client that an engine has after a step** is the one it had before, or it had none and is
connected, or the client comes with its registration. A client is put in use at two steps only, and
both belong to calls that hold the registry. -/
theorem Operation.Acts.client_cases (h : Acts o g r r' g') {id : String} {client : Client}
    (hclient : r'.clients.get? id = some client) :
    r.clients.get? id = some client
      ∨ (o = .client id ∧ r.clients.get? id = none ∧ (r.connect id).1 = .ok client
          ∧ r' = (r.connect id).2)
      ∨ ∃ record name, o = .registerWith record name ∧ g = .halfway ∧ record.id = id
          ∧ r'.record? = r.record? := by
  cases h with
  | registers =>
    rw [clients_putRecord] at hclient
    split at hclient
    · exact .inl (some_of_update_none hclient)
    · exact .inl hclient
  | @equips _ record name =>
    by_cases heq : record.id = id
    · exact .inr (.inr ⟨record, name, rfl, rfl, heq, rfl⟩)
    · rw [clients_putClient, Function.update_of_ne (Ne.symm heq)] at hclient
      exact .inl hclient
  | drops =>
    rw [clients_dropClient] at hclient
    exact .inl (some_of_update_none hclient)
  | @connects _ id' =>
    obtain ⟨hsame, -⟩ | ⟨e, found, built, -, hnone, hok, heq⟩ := connect_cases r id'
    · rw [hsame] at hclient
      exact .inl hclient
    · rw [heq, clients_equipped] at hclient
      by_cases hid : id = id'
      · subst hid
        rw [Dict.get_insert_self] at hclient
        cases hclient
        exact .inr (.inl ⟨rfl, hnone, hok, rfl⟩)
      · rw [Dict.get_insert_ne _ _ hid] at hclient
        exact .inl hclient
  | disconnects =>
    rw [clients_disconnectOne] at hclient
    exact .inl (some_of_update_none hclient)
  | disconnectsEvery => cases hclient
  | renews =>
    rw [clients_dropBuilt] at hclient
    split at hclient
    · cases hclient
    · exact .inl hclient
  | _ => exact .inl hclient

/-- **An engine that has a client after a step had one before**, or is known, or the step puts a
supplied client in use. -/
theorem Operation.Acts.connected (h : Acts o g r r' g') {id : String}
    (hid : r'.isConnected id = true) :
    r.isConnected id = true ∨ (r'.record? id).isSome = true
      ∨ ∃ record name, o = .registerWith record name ∧ g = .halfway ∧ record.id = id
          ∧ r'.record? = r.record? := by
  obtain ⟨client, hclient⟩ := isConnected_iff.mp hid
  obtain hbefore | ⟨-, hnone, -, rfl⟩ | hsupplied := h.client_cases hclient
  · exact .inl (isConnected_iff.mpr ⟨client, hbefore⟩)
  · obtain ⟨hsame, -⟩ | ⟨e, -, -, hentry, -⟩ := connect_cases r id
    · rw [hsame, hnone] at hclient
      cases hclient
    · rw [record?_connect, record?_eq_comp, Function.comp_apply, hentry]
      exact .inr (.inl rfl)
  · exact .inr (.inr hsupplied)

/-- A call that is cleared has just looked at the registry. So what it has seen is still true. -/
theorem Operation.Acts.of_cleared (h : Acts o g r r' .cleared) :
    r' = r ∧ ∀ record, o.record? = some record → r.addressOwner? record = none := by
  cases h with
  | clears hrecord howner =>
    refine ⟨rfl, fun record' hrecord' => ?_⟩
    rw [hrecord] at hrecord'
    cases hrecord'
    exact howner
  | finds => exact ⟨rfl, by rintro _ ⟨⟩⟩

/-- An engine whose supplied client is to follow is known. The entry was written in the step before.
-/
theorem Operation.Acts.of_supplied {record : EngineRecord} {name : String}
    (h : Acts (.registerWith record name) g r r' .halfway) :
    (r'.record? record.id).isSome = true := by
  cases h with
  | supplies =>
    rw [record?_putSupplied, Function.update_self]
    rfl

/-- A call that has forgotten an engine drops its client. It has dropped it by then. -/
theorem Operation.Acts.of_forgotten {id : String} (h : Acts (.unregister id) .halfway r r' g') :
    r'.clients.get? id = none := by
  cases h with
  | drops => rw [clients_dropClient, Function.update_self]

end Steps

section Calls

variable {ι : Type} {ops : ι → Operation} {r r' : Registry} {log : List (ι × Happening)}
  {phase : ι → Phase} {i : ι} {g' : Phase}

/-- **A registry in order that nobody holds.** Between two operations the registry is like this.
Nothing is said of the clients' records or of their time-outs. -/
structure Idle (r : Registry) : Prop where
  /-- Nobody holds the registry. -/
  free : r.held = false
  /-- Every engine has one row and one address. -/
  orderly : Table.Orderly r.record?
  /-- An engine that has a client is known. -/
  known : ∀ id, r.isConnected id = true → (r.record? id).isSome = true

theorem Idle.new (timeout : Duration) : Idle (new timeout) :=
  ⟨rfl, .empty, by rintro _ ⟨⟩⟩

/-- **The invariant of calls on the registry.** The fields `free`, `entered` and `known` are about
calls in the middle of their work. They hold of one call at most, since each of the phases is one in
which the registry is held; what others do in the meantime spares entries and clients, and so keeps
them. -/
structure Ordered (ops : ι → Operation) (r : Registry) (log : List (ι × Happening))
    (phase : ι → Phase) : Prop where
  /-- It is known who holds the registry. -/
  custody : Custody r phase
  /-- Every engine has one row and one address. -/
  orderly : Table.Orderly r.record?
  /-- The address of a record that was cleared is free. -/
  free : ∀ i record, (ops i).record? = some record → phase i = .cleared →
    ¬ Table.Occupied r.record? record
  /-- An engine that waits for its supplied client is known. -/
  entered : ∀ i record name, ops i = .registerWith record name → phase i = .halfway →
    (r.record? record.id).isSome = true
  /-- An engine that has a client is known, or is being forgotten. -/
  known : ∀ id, r.isConnected id = true →
    (r.record? id).isSome = true ∨ ∃ i, ops i = .unregister id ∧ phase i = .halfway
  /-- A call that is blank has touched no entry and no client. -/
  blank : ∀ i, (phase i).blank = true → ∀ s s', (i, .moved s s') ∈ log → Spares s s'

/-- Calls that have done nothing yet find the registry in order. The invariant on runs begins with
it. -/
theorem Idle.ordered (h : Idle r) (ops : ι → Operation) : Ordered ops r [] fun _ => .fresh where
  custody := by
    refine ⟨iff_of_false ?_ (by rintro ⟨_, ⟨⟩⟩), by rintro _ _ ⟨⟩⟩
    rw [h.free]
    exact Bool.false_ne_true
  orderly := h.orderly
  free := by rintro _ _ _ ⟨⟩
  entered := by rintro _ _ _ _ ⟨⟩
  known id hid := .inl (h.known id hid)
  blank := by rintro _ _ _ _ ⟨⟩

/-- While one call holds the registry, the others spare it. It is custody, from the point of view of
the others. -/
theorem Custody.spares (h : Custody r phase) (hact : (ops i).Acts (phase i) r r' g') {j : ι}
    (hji : j ≠ i) (hj : (phase j).holds = true) : Spares r r' := by
  refine hact.spares ?_
  by_contra hi
  exact hji (h.alone j i hj ((Bool.not_eq_false _).mp hi))

namespace Ordered

/-- Every engine keeps its one row and its one address. Only a call that has been cleared adds a
row, and then nobody else has the address. -/
theorem orderly_acts (h : Ordered ops r log phase) (hact : (ops i).Acts (phase i) r r' g') :
    Table.Orderly r'.record? := by
  obtain hsame | ⟨record, hrecord, hcleared, hinsert⟩ | ⟨id, -, -, herase⟩ := hact.table
  · rw [hsame]
    exact h.orderly
  · rw [hinsert]
    exact h.orderly.insert (h.free i record hrecord hcleared)
  · rw [herase]
    exact h.orderly.erase id

/-- An engine that has a client is known after a step, or is being forgotten. A call that is
forgetting an engine is the one exception, and it is named. -/
theorem known_acts [DecidableEq ι] (h : Ordered ops r log phase)
    (hact : (ops i).Acts (phase i) r r' g') {id : String} (hid : r'.isConnected id = true) :
    (r'.record? id).isSome = true
      ∨ ∃ j, ops j = .unregister id ∧ Function.update phase i g' j = .halfway := by
  obtain hbefore | hknown | ⟨record, name, ho, hhalf, rfl, hsame⟩ := hact.connected hid
  · obtain hknown | ⟨j, ho, hhalf⟩ := h.known id hbefore
    · obtain hsame | ⟨record, -, -, hinsert⟩ | ⟨id', ho, hg', herase⟩ := hact.table
      · rw [hsame]
        exact .inl hknown
      · rw [hinsert, Function.update_apply]
        split
        · exact .inl rfl
        · exact .inl hknown
      · by_cases heq : id = id'
        · subst heq
          exact .inr ⟨i, ho, by rw [Function.update_self, hg']⟩
        · rw [herase, Function.update_of_ne heq]
          exact .inl hknown
    · by_cases hji : j = i
      · -- it is this call that forgets the engine, and now it has dropped the client
        subst hji
        rw [ho, hhalf] at hact
        rw [isConnected_eq_false_iff.mpr hact.of_forgotten] at hid
        cases hid
      · exact .inr ⟨j, ho, by rw [Function.update_of_ne hji, hhalf]⟩
  · exact .inl hknown
  · rw [hsame]
    exact .inl (h.entered i record name ho hhalf)

/-- To a call that has just taken the registry, an engine that has a client is known. Nobody else
can be in the middle of forgetting, as nobody else holds the registry. -/
theorem known_of_inside (h : Ordered ops r log phase) (hi : phase i = .inside) {id : String}
    (hid : r.isConnected id = true) : (r.record? id).isSome = true := by
  obtain hknown | ⟨j, -, hhalf⟩ := h.known id hid
  · exact hknown
  · -- a call that is forgetting an engine holds the registry as well, so it is the same one
    obtain rfl := h.custody.alone j i (by rw [hhalf]; rfl) (by rw [hi]; rfl)
    rw [hi] at hhalf
    cases hhalf

/-- **Every step keeps the invariant.** Its four parts are kept one by one. -/
theorem acts [DecidableEq ι] (h : Ordered ops r log phase)
    (hact : (ops i).Acts (phase i) r r' g') :
    Ordered ops r' (log ++ [(i, .moved r r')]) (Function.update phase i g') where
  custody := h.custody.acts hact
  orderly := h.orderly_acts hact
  free := by
    refine (Function.forall_update_iff phase fun j g => ∀ record, (ops j).record? = some record →
      g = .cleared → ¬ Table.Occupied r'.record? record).mpr ⟨?_, fun j hji record hrecord hj => ?_⟩
    · rintro record hrecord rfl
      obtain ⟨rfl, howner⟩ := hact.of_cleared
      exact (addressOwner?_eq_none_iff r' record h.orderly).mp (howner record hrecord)
    · rw [(h.custody.spares hact hji (by rw [hj]; rfl)).record?]
      exact h.free j record hrecord hj
  entered := by
    refine (Function.forall_update_iff phase fun j g => ∀ record name,
      ops j = .registerWith record name → g = .halfway →
        (r'.record? record.id).isSome = true).mpr ⟨?_, fun j hji record name ho hj => ?_⟩
    · rintro record name ho rfl
      rw [ho] at hact
      exact hact.of_supplied
    · rw [(h.custody.spares hact hji (by rw [hj]; rfl)).record?]
      exact h.entered j record name ho hj
  known _ := h.known_acts hact
  blank := by
    refine (Function.forall_update_iff phase fun j g => g.blank = true → ∀ s s',
      (j, .moved s s') ∈ log ++ [(i, .moved r r')] → Spares s s').mpr
        ⟨fun hblank s s' hmem => ?_, fun j hji hblank s s' hmem => ?_⟩
    · obtain ⟨hbefore, hspares⟩ := hact.blank hblank
      obtain hmem | hmem := List.mem_append.mp hmem
      · exact h.blank i hbefore s s' hmem
      · cases List.mem_singleton.mp hmem
        exact hspares
    · obtain hmem | hmem := List.mem_append.mp hmem
      · exact h.blank j hblank s s' hmem
      · cases List.mem_singleton.mp hmem
        exact absurd rfl hji

/-- While nobody holds the registry, nothing is half done. -/
theorem idle (h : Ordered ops r log phase) (hfree : r.held = false) : Idle r where
  free := hfree
  orderly := h.orderly
  known id hid := by
    obtain hknown | ⟨i, -, hhalf⟩ := h.known id hid
    · exact hknown
    · -- a call that is forgetting an engine holds the registry
      rw [h.custody.held.mpr ⟨i, by rw [hhalf]; rfl⟩] at hfree
      cases hfree

end Ordered

/-- **What calls on the registry leave in order.** The first two are about moments at which nobody
holds the registry. At others an engine may have a client and no entry, when it is being forgotten.
-/
structure InOrder (crew : Crew ι Registry Empty (fun _ => Empty) (fun _ => Reply)) : Prop where
  /-- While nobody holds the registry, no two engines have one address. -/
  distinct : crew.state.held = false → ∀ id id' record record',
    crew.state.record? id = some record → crew.state.record? id' = some record' →
      record.address = record'.address → id = id'
  /-- While nobody holds the registry, an engine that has a client is registered. -/
  known : crew.state.held = false → ∀ id, crew.state.isConnected id = true →
    (crew.state.record? id).isSome = true
  /-- A call that has failed has left every entry and every client as it was, at each of its
  steps. -/
  failed : ∀ i e, (crew.stand i).result? = some (.error e) →
    ∀ s s', (i, .moved s s') ∈ crew.log → s'.entries = s.entries ∧ s'.clients = s.clients

/-- **The registry is kept in order.** Any number of calls register engines, with and without
clients, forget them, look for clients, drop them and change the time-out, in any order of their
steps. At every moment at which nobody holds the registry no two engines have one address and every
engine that has a client is registered; and a call that has failed – because the address of its
record was taken, say – has changed no entry and no client. -/
theorem kept_in_order [DecidableEq ι] (timeout : Duration) (ops : ι → Operation)
    (turns : List ι) : InOrder (calls timeout ops turns) := by
  obtain ⟨phase, h, hfollows⟩ := calls_keep timeout ops turns (Ordered ops)
    ((Idle.new timeout).ordered ops) fun _ _ _ h _ _ _ hact => h.acts hact
  refine ⟨fun _ => h.orderly.distinct, fun hfree => (h.idle hfree).known,
    fun i e hresult s s' hmem => ?_⟩
  have hblank : (phase i).blank = true := by
    rw [finished_of_result (hfollows i) hresult]
    rfl
  obtain ⟨hentries, hclients⟩ := h.blank i hblank s s' hmem
  exact ⟨hentries, hclients⟩

/-- Of two engines with one address, the one that comes second is refused. -/
example :
    let ops : Bool → Operation := fun second =>
      .register (if second then { localEngine with id := "twin" } else localEngine)
    let crew := calls ⟨30, 0⟩ ops [false, false, true, false, false, true, true, true]
    (crew.stand true).result? = some (.error (.addressTaken "local" localEngine.address)) := by
  decide +kernel

end Calls

end Testbed.Registry

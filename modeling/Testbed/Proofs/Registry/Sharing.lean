import Testbed.Proofs.Registry.Order

/-!
# Calls share the clients that are built

A call that looks for a client does so twice: quickly, without holding the registry, and once more
when it holds it, because another call may have connected the engine in the meantime. So an engine
that has a client is not given a second one, and calls that look for it are given the same until
somebody drops it.

A new time-out is set without holding the registry, and the clients that were built for the old one
are dropped later. In between, one can be in use that has the old time-out, and one can be built
that has the new one. A call that changes the time-out is *overdue* during this period, and the
invariant `Sharing` is that either there is such a call or every client in use has the time-out that
is set. A call that finds the time-out set already does not wait for the one that set it, which is
why the statement is about all calls that change it.

Connecting an engine reads the time-out and puts the client in use in one step. A change of the
time-out that comes in between is one that comes after the step: the client has the old time-out
then, and the call that made the change has yet to drop it.

All of this is about an engine that is never registered with a client (`Sharing.supplied`).
-/

namespace Testbed

/-- A client was built to wait for answers this long. A supplied client waits as long as it likes.
-/
def Client.BuiltFor (timeout : Duration) : Client → Prop
  | supplied _ => False
  | built _ endpoint => endpoint.timeout = timeout

theorem Endpoint.timeout_ofRecord {record : EngineRecord} {timeout : Duration}
    {endpoint : Endpoint} (h : ofRecord record timeout = .ok endpoint) :
    endpoint.timeout = timeout := by
  unfold ofRecord at h
  split at h
  · cases h
  · split at h
    · cases h
    · cases h
      rfl

/-- An entry without a supplied client asks for one that is built. The time-out is the one that is
set. -/
theorem RegistryEntry.Asks.builtFor {e : RegistryEntry} {timeout : Duration} {client : Client}
    (h : e.Asks timeout client) (hnone : e.supplied = none) : client.BuiltFor timeout := by
  unfold Asks at h
  rw [hnone] at h
  obtain ⟨_, _, hendpoint, rfl⟩ := h
  exact Endpoint.timeout_ofRecord hendpoint

namespace Registry

open Operation (Acts)
open Crew (Begun Between LastTurn)

/-- The name of the client that came with an engine's registration. An engine that is not registered
has none, just as one that was registered without. -/
def supplied? (r : Registry) (id : String) : Option String := (r.entry? id).bind (·.supplied)

/-- The operations that register an engine or forget it. Others write statuses at most. -/
def Operation.Rewrites (id : String) : Operation → Prop
  | register record | registerWith record _ => record.id = id
  | unregister id' => id' = id
  | _ => False

instance (id : String) : DecidablePred (Operation.Rewrites id)
  | .register record | .registerWith record _ => inferInstanceAs (Decidable (record.id = id))
  | .unregister id' => inferInstanceAs (Decidable (id' = id))
  | .client _ | .disconnect _ | .disconnectAll | .setTimeout _ => inferInstanceAs (Decidable False)

section Changes

variable {r r' : Registry} {id : String}

theorem supplied?_eq_none_iff :
    r.supplied? id = none ↔ ∀ e, r.entry? id = some e → e.supplied = none :=
  Option.bind_eq_none_iff

/-- The supplied clients after one entry was written. The entries of other engines are as they were.
-/
theorem supplied?_update {id' : String} {entry : Option RegistryEntry}
    (hentry : r'.entry? = Function.update r.entry? id' entry) :
    r'.supplied? id = if id = id' then entry.bind (·.supplied) else r.supplied? id := by
  unfold supplied?
  rw [hentry, Function.update_apply]
  split
  · rfl
  · rfl

/-- Changes of entries that keep the supplied clients. Marking is such a change. -/
theorem supplied?_of_map {f : RegistryEntry → RegistryEntry}
    (hentry : r'.entry? id = (r.entry? id).map f) (hf : ∀ e, (f e).supplied = e.supplied) :
    r'.supplied? id = r.supplied? id := by
  unfold supplied?
  rw [hentry, Option.bind_map]
  exact congrArg _ (funext hf)

/-- A status is not a supplied client. It is the case of one entry. -/
theorem supplied?_of_update {status : EngineStatus} {id' : String}
    (hentry : r'.entry? = Function.update r.entry? id'
      ((r.entry? id').map ({ · with status }))) : r'.supplied? id = r.supplied? id := by
  by_cases hid : id = id'
  · subst hid
    refine supplied?_of_map (f := ({ · with status })) ?_ fun _ => rfl
    rw [hentry, Function.update_self]
  · unfold supplied?
    rw [hentry, Function.update_of_ne hid]

theorem supplied?_connect (id' : String) : (r.connect id').2.supplied? id = r.supplied? id := by
  obtain ⟨hsame, -⟩ | ⟨e, client, built, -, -, -, heq⟩ := connect_cases r id'
  · rw [hsame]
  · rw [heq]
    exact supplied?_of_update (entry?_equipped r id' client built)

theorem timeoutMs_connect (id' : String) : (r.connect id').2.timeoutMs = r.timeoutMs := by
  obtain ⟨hsame, -⟩ | ⟨e, client, built, -, -, -, heq⟩ := connect_cases r id'
  · rw [hsame]
  · rw [heq]
    exact timeoutMs_equipped r id' client built

/-- **Connecting an engine that is known if it has a client** gives the client that it has then. It
is in use afterwards, whether it was before or not. -/
theorem clients_connect_iff (hknown : r.isConnected id = true → (r.record? id).isSome = true)
    {client : Client} :
    (r.connect id).2.clients.get? id = some client ↔ (r.connect id).1 = .ok client := by
  obtain ⟨hsame, hgives⟩ | ⟨e, found, built, -, -, hok, heq⟩ := connect_cases r id
  · rw [hsame]
    refine ⟨fun hclient => ?_, hgives client⟩
    obtain ⟨e, hentry⟩ := exists_entry_of_known (hknown (isConnected_iff.mpr ⟨client, hclient⟩))
    exact connect_of_client (by rw [hentry]; rfl) hclient
  · rw [heq, hok, clients_equipped, Dict.get_insert_self]
    exact ⟨by rintro ⟨⟩; rfl, by rintro ⟨⟩; rfl⟩

/-- A client that an engine is connected by has the time-out that is set. Only supplied clients and
those in use can have another. -/
theorem builtFor_of_connect {client : Client} (hsupplied : r.supplied? id = none)
    (hnone : r.clients.get? id = none) (hok : (r.connect id).1 = .ok client) :
    client.BuiltFor r.timeout := by
  obtain ⟨-, hgives⟩ | ⟨e, -, -, hentry, -⟩ := connect_cases r id
  · rw [hgives client hok] at hnone
    cases hnone
  · refine ((alike_connect_iff hentry hnone client).mp ?_).builtFor
      (supplied?_eq_none_iff.mp hsupplied e hentry)
    rw [hok]
    exact rfl

end Changes

section Steps

variable {o : Operation} {g g' : Phase} {r r' : Registry} {id : String}

/-- Only a call that is to change the time-out changes it. It does so before it waits for the
registry. -/
theorem Operation.Acts.timeoutMs (h : Acts o g r r' g') :
    r'.timeoutMs = r.timeoutMs ∨ ∃ timeout, o = .setTimeout timeout ∧ g' = .waiting := by
  cases h with
  | connects => exact .inl (timeoutMs_connect _)
  | disconnects => exact .inl (timeoutMs_disconnectOne _ _)
  | swaps => exact .inr ⟨_, rfl, rfl⟩
  | _ => exact .inl rfl

/-- **Who writes an engine's entry anew.** The supplied client of an engine changes at no other step
than that of a call that registers the engine or forgets it, and an engine that has one after such a
step is registered with it. All other steps that write to the entry of an engine change its status.
-/
theorem Operation.Acts.supplied?_cases (h : Acts o g r r' g') (id : String) :
    r'.supplied? id = r.supplied? id
      ∨ o.Rewrites id ∧ ∀ name, r'.supplied? id = some name →
          ∃ record, o = .registerWith record name := by
  cases h with
  | @registers _ record =>
    rw [supplied?_update (entry?_putRecord r record)]
    split
    · rename_i hid
      exact .inr ⟨hid.symm, by rintro _ ⟨⟩⟩
    · exact .inl rfl
  | @supplies _ record name =>
    rw [supplied?_update (entry?_putSupplied r record name)]
    split
    · rename_i hid
      refine .inr ⟨hid.symm, ?_⟩
      rintro _ ⟨⟩
      exact ⟨record, rfl⟩
    · exact .inl rfl
  | @forgets _ id' =>
    rw [supplied?_update (entry?_dropEntry r id')]
    split
    · rename_i hid
      exact .inr ⟨hid.symm, by rintro _ ⟨⟩⟩
    · exact .inl rfl
  | connects => exact .inl (supplied?_connect _)
  | disconnects => exact .inl (supplied?_of_update (entry?_disconnectOne _ _))
  | disconnectsEvery => exact .inl (supplied?_of_map (entry?_disconnectEvery _ id) fun _ => rfl)
  | renews =>
    refine .inl (supplied?_of_map (entry?_dropBuilt _ id) fun e => ?_)
    split
    · rfl
    · rfl
  | _ => exact .inl rfl

/-- An engine that is not registered with a client has none that was supplied. Others may register
it without one, or forget it. -/
theorem Operation.Acts.supplied? (h : Acts o g r r' g')
    (hown : ∀ record name, o = .registerWith record name → record.id ≠ id)
    (hsupplied : r.supplied? id = none) : r'.supplied? id = none := by
  obtain hsame | ⟨hrewrites, hregistered⟩ := h.supplied?_cases id
  · rw [hsame, hsupplied]
  · refine Option.eq_none_iff_forall_ne_some.mpr fun name hname => ?_
    obtain ⟨record, rfl⟩ := hregistered name hname
    exact hown record name rfl hrewrites

/-- **A client is built for an engine that has none.** The count of built clients goes up at no
other step, so it tells how many clients were built. -/
theorem Operation.Acts.built (h : Acts o g r r' g') :
    r'.built = r.built
      ∨ ∃ id, o = .client id ∧ r.isConnected id = false ∧ r'.isConnected id = true := by
  cases h with
  | @connects _ id =>
    obtain ⟨hsame, -⟩ | ⟨e, client, built, -, hnone, -, heq⟩ := connect_cases r id
    · rw [hsame]
      exact .inl rfl
    · refine .inr ⟨id, rfl, isConnected_eq_false_iff.mpr hnone, ?_⟩
      rw [heq]
      exact isConnected_iff.mpr ⟨client, by rw [clients_equipped, Dict.get_insert_self]⟩
  | disconnects =>
    unfold disconnectOne
    rw [mark_eq]
    exact .inl rfl
  | _ => exact .inl rfl

/-- **A client stays in use until it is dropped**, if the engine is not registered with another one.
In particular no second look for the client replaces it. -/
theorem Operation.Acts.steady (h : Acts o g r r' g')
    (hown : ∀ record name, o = .registerWith record name → record.id ≠ id) {client : Client}
    (hclient : r.clients.get? id = some client) (hid : r'.isConnected id = true) :
    r'.clients.get? id = some client := by
  obtain ⟨found, hfound⟩ := isConnected_iff.mp hid
  obtain hbefore | ⟨-, hnone, -⟩ | ⟨record, name, ho, -, hrecord, -⟩ := h.client_cases hfound
  · rw [hfound, ← hbefore, hclient]
  · rw [hclient] at hnone
    cases hnone
  · exact absurd hrecord (hown record name ho)

end Steps

section Calls

variable {ι : Type} {ops : ι → Operation} {id : String} {r r' : Registry}
  {log : List (ι × Happening)} {phase : ι → Phase} {i : ι} {g' : Phase}

/-- A call has changed the time-out and not yet dropped the clients that were built before. In this
span a client with the old time-out may be in use. -/
def Overdue (ops : ι → Operation) (phase : ι → Phase) : Prop :=
  ∃ i timeout, ops i = .setTimeout timeout ∧ (phase i = .waiting ∨ phase i = .inside)

/-- **The invariant of calls that share the client of an engine.** The fields are of two kinds. Some
are about the state as it is, and others about all steps in the log, as the statement is about what
happened between two of them. -/
structure Sharing (ops : ι → Operation) (id : String) (r : Registry) (log : List (ι × Happening))
    (phase : ι → Phase) : Prop where
  /-- The registry is in order. -/
  ordered : Ordered ops r log phase
  /-- Who has done something has had a turn. -/
  begun : ∀ i, phase i ≠ .fresh → Begun i log
  /-- The engine is not registered with a client. -/
  supplied : r.supplied? id = none
  /-- The engine's client has the time-out that is set, unless a call is overdue. -/
  current : (∀ client, r.clients.get? id = some client → client.BuiltFor r.timeout)
    ∨ Overdue ops phase
  /-- At every step, the engine's client stays in use or is dropped. -/
  steady : ∀ i s s', (i, .moved s s') ∈ log → ∀ client, s.clients.get? id = some client →
    s'.isConnected id = true → s'.clients.get? id = some client
  /-- A client was built only for an engine without one. -/
  single : ∀ i s s', (i, .moved s s') ∈ log → s'.built = s.built
    ∨ ∃ id, ops i = .client id ∧ s.isConnected id = false ∧ s'.isConnected id = true
  /-- A call that has looked for the client while it holds the registry gives the one in use. -/
  served : ∀ i reply, ops i = .client id → phase i = .served reply →
    ∀ client, r.clients.get? id = some client ↔ reply = .ok (some client)
  /-- A call that has ended gave the client that was in use at its last turn. -/
  ended : ∀ i reply, ops i = .client id → phase i = .finished reply → ∀ s s' later,
    LastTurn i (.moved s s') later log → s'.clients = s.clients
      ∧ ∀ client, s.clients.get? id = some client ↔ reply = .ok (some client)

namespace Sharing

/-- A call that drops the clients that were built drops that of the engine. Nothing was supplied for
it, so it can only have a built one. -/
theorem clients_dropBuilt_eq_none (h : Sharing ops id r log phase) (hi : phase i = .inside) :
    r.dropBuilt.clients.get? id = none := by
  rw [clients_dropBuilt]
  by_cases hid : r.isConnected id = true
  · obtain ⟨e, hentry⟩ := exists_entry_of_known (h.ordered.known_of_inside hi hid)
    exact if_pos (usesBuilt_iff.mpr ⟨e, hentry, supplied?_eq_none_iff.mp h.supplied e hentry⟩)
  · rw [isConnected_eq_false_iff.mp ((Bool.not_eq_true _).mp hid), ite_self]

/-- **The engine's client has the time-out that is set after a step**, or a call is overdue. A call
that swaps the time-out becomes overdue at this step, and ceases to be when it has dropped the
clients; and then the engine has none. -/
theorem current_acts [DecidableEq ι] (h : Sharing ops id r log phase)
    (hown : ∀ i record name, ops i = .registerWith record name → record.id ≠ id)
    (hact : (ops i).Acts (phase i) r r' g') :
    (∀ client, r'.clients.get? id = some client → client.BuiltFor r'.timeout)
      ∨ Overdue ops (Function.update phase i g') := by
  obtain htimeout | ⟨timeout, ho, rfl⟩ := hact.timeoutMs
  · obtain hcurrent | ⟨j, timeout, ho, hj⟩ := h.current
    · -- the client is the one before, or it is built now
      refine .inl fun client hclient => ?_
      have hsame : r'.timeout = r.timeout := congrArg Duration.ofMillis htimeout
      rw [hsame]
      obtain hbefore | ⟨-, hnone, hok, -⟩ | ⟨record, name, ho, -, hrecord, -⟩ :=
        hact.client_cases hclient
      · exact hcurrent client hbefore
      · exact builtFor_of_connect h.supplied hnone hok
      · exact absurd hrecord (hown i record name ho)
    · by_cases hji : j = i
      · subst hji
        rw [ho] at hact
        obtain hwaiting | hinside := hj
        · rw [hwaiting] at hact
          cases hact with
          | takes => exact .inr ⟨j, timeout, ho, .inr (Function.update_self ..)⟩
        · rw [hinside] at hact
          cases hact with
          | renews =>
            -- now the clients that were built before are dropped
            refine .inl fun client hclient => ?_
            rw [h.clients_dropBuilt_eq_none hinside] at hclient
            cases hclient
          | refuses hrecord | clears hrecord => cases hrecord
      · refine .inr ⟨j, timeout, ho, ?_⟩
        rw [Function.update_of_ne hji]
        exact hj
  · exact .inr ⟨i, timeout, ho, .inl (Function.update_self ..)⟩

/-- What a call that has looked for the client gives remains the client in use. The registry is held
until it has been given. -/
theorem served_acts [DecidableEq ι] (h : Sharing ops id r log phase)
    (hact : (ops i).Acts (phase i) r r' g') :
    ∀ j reply, ops j = .client id → Function.update phase i g' j = .served reply →
      ∀ client, r'.clients.get? id = some client ↔ reply = .ok (some client) := by
  refine (Function.forall_update_iff phase fun j g => ∀ reply, ops j = .client id →
    g = .served reply → ∀ client, r'.clients.get? id = some client
      ↔ reply = .ok (some client)).mpr ⟨?_, fun j hji reply ho hj => ?_⟩
  · rintro reply ho rfl client
    rw [ho] at hact
    generalize hg : phase i = g at hact
    cases hact with
    | refuses hrecord => cases hrecord
    | connects =>
      rw [clients_connect_iff (h.ordered.known_of_inside hg)]
      cases (r.connect id).1 with
      | error e => exact ⟨by rintro ⟨⟩, by rintro ⟨⟩⟩
      | ok found => exact ⟨by rintro ⟨⟩; rfl, by rintro ⟨⟩; rfl⟩
  · rw [(h.ordered.custody.spares hact hji (by rw [hj]; rfl)).clients]
    exact h.served j reply ho hj

/-- A call that ends gives the client in use. Giving the registry back changes no client. -/
theorem ends (h : Sharing ops id r log phase) {reply : Reply} (ho : ops i = .client id)
    (hact : (ops i).Acts (phase i) r r' (.finished reply)) :
    r'.clients = r.clients ∧ ∀ client, r.clients.get? id = some client ↔ reply = .ok (some client)
    := by
  rw [ho] at hact
  generalize hg : phase i = g at hact
  cases hact with
  | releases => exact ⟨rfl, h.served i reply ho hg⟩
  | spots hfound =>
    rw [hfound]
    exact ⟨rfl, fun client => ⟨by rintro ⟨⟩; rfl, by rintro ⟨⟩; rfl⟩⟩

/-- **Every step keeps the invariant.** The conditions on custody and order are kept by themselves.
-/
theorem acts [DecidableEq ι] (h : Sharing ops id r log phase)
    (hown : ∀ i record name, ops i = .registerWith record name → record.id ≠ id)
    (hact : (ops i).Acts (phase i) r r' g') :
    Sharing ops id r' (log ++ [(i, .moved r r')]) (Function.update phase i g') where
  ordered := h.ordered.acts hact
  begun := begun_update h.begun
  supplied := hact.supplied? (hown i) h.supplied
  current := h.current_acts hown hact
  steady j s s' hmem client hclient hid := by
    obtain hmem | hmem := List.mem_append.mp hmem
    · exact h.steady j s s' hmem client hclient hid
    · cases List.mem_singleton.mp hmem
      exact hact.steady (hown i) hclient hid
  single j s s' hmem := by
    obtain hmem | hmem := List.mem_append.mp hmem
    · exact h.single j s s' hmem
    · cases List.mem_singleton.mp hmem
      exact hact.built
  served := h.served_acts hact
  ended := by
    refine (Function.forall_update_iff phase fun j g => ∀ reply, ops j = .client id →
      g = .finished reply → ∀ s s' later,
        LastTurn j (.moved s s') later (log ++ [(i, .moved r r')]) → s'.clients = s.clients
          ∧ ∀ client, s.clients.get? id = some client ↔ reply = .ok (some client)).mpr
        ⟨?_, fun j hji reply ho hj s s' later hlast => ?_⟩
    · rintro reply ho rfl s s' later hlast
      obtain ⟨heq, -⟩ | ⟨hne, -⟩ := Crew.lastTurn_append.mp hlast
      · cases heq
        exact h.ends ho hact
      · exact absurd rfl hne
    · obtain ⟨heq, -⟩ | ⟨-, rest, -, hlast⟩ := Crew.lastTurn_append.mp hlast
      · cases heq
        exact absurd rfl hji
      · exact h.ended j reply ho hj s s' rest hlast

/-- A new registry has no clients to share. And nobody has done anything. -/
theorem start (timeout : Duration) : Sharing ops id (new timeout) [] fun _ => .fresh where
  ordered := (Idle.new timeout).ordered ops
  begun _ hi := absurd rfl hi
  supplied := rfl
  current := .inl (by rintro _ ⟨⟩)
  steady := by rintro _ _ _ ⟨⟩
  single := by rintro _ _ _ ⟨⟩
  served := by rintro _ _ _ ⟨⟩
  ended := by rintro _ _ _ ⟨⟩

/-- Nobody is overdue if no call that changes the time-out is under way. A call that is overdue has
begun and not ended. -/
theorem not_overdue {crew : Crew ι Registry Empty (fun _ => Empty) (fun _ => Reply)}
    (h : Sharing ops id crew.state crew.log phase)
    (hfollows : ∀ i, (crew.stand i).Follows (ops i).dialogue
      (fun g reply => g = .finished reply) (phase i))
    (hidle : ∀ i timeout, ops i = .setTimeout timeout → ¬ crew.UnderWay i) :
    ¬ Overdue ops phase := by
  rintro ⟨i, timeout, ho, hi⟩
  refine hidle i timeout ho ⟨h.begun i fun hfresh => ?_, ?_⟩
  · simp [hfresh] at hi
  · by_contra hended
    obtain ⟨reply, -, hfinished⟩ := (hfollows i).of_ended ((Bool.not_eq_false _).mp hended)
    simp [hfinished] at hi

/-- **Two calls that end one after the other give the same client**, if nobody drops it in between.
From the end of the first call to the end of the second, the engine has a client all the time, and
it is the same by `steady`. -/
theorem same {between : List (ι × Happening)} {i j : ι} {reply : Reply} {client : Client}
    {r₀ : Registry} (h : Sharing ops id r log phase) (hchained : Crew.Chained r₀ log r)
    (hmoved : ∀ x ∈ log, ∃ s s', x.2 = .moved s s') (hi : ops i = .client id)
    (hj : ops j = .client id) (hbetween : Between i j between log)
    (hkept : ∀ x ∈ between, ¬ x.2.Ceases (·.isConnected id = true))
    (hfirst : phase i = .finished (.ok (some client))) (hsecond : phase j = .finished reply) :
    reply = .ok (some client) := by
  obtain ⟨x, y, later, hlast, hlater⟩ := hbetween
  have ⟨⟨before, hcut⟩, _⟩ := hlast
  subst hcut
  obtain ⟨s, s', rfl⟩ := hmoved (i, x) (by simp)
  obtain ⟨t, t', rfl⟩ := hmoved (j, y) (by simp)
  obtain ⟨hsame, hgiven⟩ := h.ended i _ hi hfirst s s' _ hlast
  obtain ⟨-, hfound⟩ := h.ended j _ hj hsecond t t' _ (hlast.second hlater)
  refine (hfound client).mp ?_
  refine hchained.middle.of_not_ceases (P := fun r => r.clients.get? id = some client) ?_ ?_
  · rw [hsame]
    exact (hgiven client).mpr rfl
  · rintro ⟨k, happening⟩ hx ⟨a, b, hleads, ha, hb⟩
    have hmem : (k, happening)
        ∈ before ++ (i, .moved s s') :: (between ++ (j, .moved t t') :: later) := by
      simp [hx]
    obtain ⟨a', b', rfl⟩ := hmoved _ hmem
    obtain ⟨rfl, rfl⟩ := hleads
    refine hkept _ hx ⟨_, _, ⟨rfl, rfl⟩, isConnected_iff.mpr ⟨client, ha⟩, fun hid => hb ?_⟩
    exact h.steady k _ _ hmem client ha hid

end Sharing

/-- **What calls share**, of one engine. In the first field a call is meant by "under way" that has
had a turn and has not ended. -/
structure Shared (ops : ι → Operation) (id : String)
    (crew : Crew ι Registry Empty (fun _ => Empty) (fun _ => Reply)) : Prop where
  /-- While no call that changes the time-out is under way, the client in use was built for the
  time-out that is set. -/
  current : (∀ i timeout, ops i = .setTimeout timeout → ¬ crew.UnderWay i) →
    ∀ client, crew.state.clients.get? id = some client → client.BuiltFor crew.state.timeout
  /-- Clients are built only for engines that have none, and put in use at once. -/
  single : ∀ i s s', (i, .moved s s') ∈ crew.log → s'.built = s.built
    ∨ ∃ id, ops i = .client id ∧ s.isConnected id = false ∧ s'.isConnected id = true
  /-- If a call has given a client, a call that ends later gives the same one, unless the engine's
  client was dropped between the two ends. -/
  same : ∀ i j between client, ops i = .client id → ops j = .client id →
    Between i j between crew.log → (∀ x ∈ between, ¬ x.2.Ceases (·.isConnected id = true)) →
      (crew.stand i).result? = some (.ok (some client)) → (crew.stand j).ended = true →
        (crew.stand j).result? = some (.ok (some client))

/-- **Calls share the clients that are built.** Any number of calls register engines, forget them,
look for clients, drop them and change the time-out, in any order of their steps. Of an engine that
none of them registers with a client, the client in use has the time-out that is set whenever no
call that changes the time-out is under way; no client is built while one is in use; and two calls
that look for it give the same one, unless it was dropped in between. Nothing is assumed about the
order in which the calls get the registry, or about how long a call waits for it. -/
theorem clients_shared [DecidableEq ι] (timeout : Duration) (ops : ι → Operation) (id : String)
    (hown : ∀ i record name, ops i = .registerWith record name → record.id ≠ id)
    (turns : List ι) : Shared ops id (calls timeout ops turns) := by
  obtain ⟨phase, h, hfollows⟩ := calls_keep timeout ops turns (Sharing ops id) (.start timeout)
    fun _ _ _ h _ _ _ hact => h.acts hown hact
  refine ⟨fun hidle => h.current.resolve_right (h.not_overdue hfollows hidle), h.single, ?_⟩
  intro i j between client hi hj hbetween hkept hresult hended
  obtain ⟨reply, hreply, hsecond⟩ := (hfollows j).of_ended hended
  rw [hreply, h.same calls_chained calls_moved hi hj hbetween hkept
    (finished_of_result (hfollows i) hresult) hsecond]

/-- Two calls look for the client of an engine before it has one. The first one connects the engine,
and the second one, which was too late for that, gives the client of the first. Then the time-out is
changed, and a third one gives a client that is built anew. -/
theorem connected_once :
    let ops : Fin 5 → Operation := fun i =>
      if i = 0 then .register localEngine
      else if i = 3 then .setTimeout ⟨60, 0⟩
      else .client "local"
    let turns : List (Fin 5) := [0, 0, 0, 0, 1, 2, 1, 1, 1, 2, 2, 2, 3, 3, 3, 3, 4, 4, 4, 4]
    let crew := calls ⟨30, 0⟩ ops turns
    (∀ i record name, ops i = .registerWith record name → record.id ≠ "local")
      ∧ Shared ops "local" crew
      ∧ (crew.stand 1).result? = (crew.stand 2).result?
      ∧ (crew.stand 1).result? ≠ (crew.stand 4).result?
      ∧ (∀ i, (crew.stand i).result?.any (·.toBool) = true)
      ∧ crew.state.isConnected "local" = true := by
  intro ops turns crew
  have hown : ∀ i record name, ops i = .registerWith record name → record.id ≠ "local" := by
    intro i record name hi
    match i, hi with
    | 0, hi | 1, hi | 2, hi | 3, hi | 4, hi => cases hi
  refine ⟨hown, clients_shared ⟨30, 0⟩ ops "local" hown turns, ?_⟩
  decide +kernel

end Calls

end Registry

end Testbed

import Testbed.Proofs.Registry.Sharing

/-!
# Clients that were supplied

A client that comes with the registration of its engine is kept in two places. The entry has it
until the engine is registered again or forgotten. Among the clients in use it is one like any
other: whoever drops clients drops it as well, and whoever looks for it later puts it back from the
entry. So an engine is reached through its supplied client as long as the entry has it and no other
one is in use, and this is what every step keeps (`Supplied.acts`), whether or not the client is in
use.

A change of the time-out drops clients too, but goes by the entries: it leaves the client of an
engine whose entry has one where it is, and the status with it (`Acts.elsewhere`).

What a call gives it has found at one of its steps, and a call that begins after the registration
has ended takes all of its steps after it. This is why the statement is about calls that begin
later, in whatever order they and all others have their turns.
-/

namespace Testbed.Registry

open Operation (Acts)
open Crew (Begun Chained LastTurn)

/-- **An engine is reached through the client that came with its registration.** It may be in use or
not. If it is not, the next look for a client puts it in use. -/
structure Supplied (r : Registry) (id name : String) : Prop where
  /-- The entry has the client. -/
  entry : r.supplied? id = some name
  /-- No other one is in use. -/
  client : ∀ client, r.clients.get? id = some client → client = .supplied name

/-- The operations that are about other engines, or about the time-out. Dropping every client is not
among them. -/
def Operation.Elsewhere (id : String) : Operation → Prop
  | register record | registerWith record _ => record.id ≠ id
  | unregister id' | client id' | disconnect id' => id' ≠ id
  | disconnectAll => False
  | setTimeout _ => True

/-- The reply of a call that has come to one. It may not have given the registry back by then. -/
def Phase.reply? : Phase → Option Reply
  | served reply | finished reply => some reply
  | _ => none

namespace Supplied

variable {r : Registry} {id name : String}

theorem exists_entry (h : r.Supplied id name) :
    ∃ e, r.entry? id = some e ∧ e.supplied = some name :=
  Option.bind_eq_some_iff.mp h.entry

/-- Connecting the engine gives the supplied client, in use or not. If it is not in use it is put in
use by that. -/
theorem connect (h : r.Supplied id name) : (r.connect id).1 = .ok (.supplied name) := by
  obtain ⟨e, hentry, hsupplied⟩ := h.exists_entry
  cases hclient : r.clients.get? id with
  | some client =>
    rw [connect_of_client (by rw [hentry]; rfl) hclient, h.client client hclient]
  | none =>
    unfold Registry.connect
    rw [hentry, hclient]
    dsimp only
    rw [hsupplied]

/-- A call that looks for the client while nobody holds the registry is given it. It does not even
have to take the registry if it is in use. -/
theorem alone_client (h : r.Supplied id name) (hfree : r.held = false) :
    (alone (Registry.client id) r).1 = some (.ok (.supplied name)) := by
  cases hclient : r.clients.get? id with
  | some client => rw [alone_of_settles (client_found hclient), h.client client hclient]
  | none => rw [alone_of_settles (client_connected hfree hclient), h.connect]

end Supplied

section Steps

variable {o : Operation} {g g' : Phase} {r r' : Registry} {id name : String}
  {record : EngineRecord}

theorem Spares.supplied? (h : Spares r r') : r'.supplied? id = r.supplied? id := by
  unfold Registry.supplied?
  rw [h.entry?]

/-- **An engine stays reached through its supplied client** at every step, unless a call that
registers it again or forgets it changes something. Dropping the client keeps it, because the entry
keeps the client; connecting keeps it, because it takes the client from the entry. -/
theorem Supplied.acts (h : r.Supplied id name) (hact : Acts o g r r' g')
    (hspares : o.Rewrites id → Spares r r') : r'.Supplied id name where
  entry := by
    obtain hsame | ⟨hrewrites, -⟩ := hact.supplied?_cases id
    · rw [hsame, h.entry]
    · rw [(hspares hrewrites).supplied?, h.entry]
  client client hclient := by
    obtain hbefore | ⟨-, -, hok, -⟩ | ⟨record, _, rfl, -, hid, -⟩ := hact.client_cases hclient
    · exact h.client client hbefore
    · rw [h.connect] at hok
      cases hok
      rfl
    · rw [(hspares hid).clients] at hclient
      exact h.client client hclient

/-- **Calls about other engines, and those that change the time-out, leave an engine with a supplied
client alone.** -/
theorem Operation.Acts.elsewhere (h : Acts o g r r' g') (hid : o.Elsewhere id)
    (hsupplied : r.Supplied id name) :
    r'.entry? id = r.entry? id ∧ r'.clients.get? id = r.clients.get? id := by
  cases h with
  | registers =>
    rw [entry?_putRecord, clients_putRecord, Function.update_of_ne hid.symm]
    refine ⟨rfl, ?_⟩
    split
    · rw [Function.update_of_ne hid.symm]
    · rfl
  | supplies =>
    rw [entry?_putSupplied, Function.update_of_ne hid.symm]
    exact ⟨rfl, rfl⟩
  | equips =>
    rw [clients_putClient, Function.update_of_ne hid.symm]
    exact ⟨rfl, rfl⟩
  | forgets =>
    rw [entry?_dropEntry, Function.update_of_ne hid.symm]
    exact ⟨rfl, rfl⟩
  | drops =>
    rw [clients_dropClient, Function.update_of_ne hid.symm]
    exact ⟨rfl, rfl⟩
  | @connects _ id' =>
    obtain ⟨hsame, -⟩ | ⟨e, client, built, -, -, -, heq⟩ := connect_cases r id'
    · rw [hsame]
      exact ⟨rfl, rfl⟩
    · rw [heq, entry?_equipped, clients_equipped, Function.update_of_ne hid.symm,
        Dict.get_insert_ne _ _ hid.symm]
      exact ⟨rfl, rfl⟩
  | disconnects =>
    rw [entry?_disconnectOne, clients_disconnectOne, Function.update_of_ne hid.symm,
      Function.update_of_ne hid.symm]
    exact ⟨rfl, rfl⟩
  | disconnectsEvery => exact hid.elim
  | renews =>
    -- the entry says that its client was not built
    obtain ⟨e, hentry, hclient⟩ := hsupplied.exists_entry
    rw [entry?_dropBuilt, clients_dropBuilt, usesBuilt_of_entry hentry, hentry, Option.map_some,
      hclient]
    exact ⟨rfl, rfl⟩
  | _ => exact ⟨rfl, rfl⟩

/-- The first change of a call that registers an engine with a client. Its entry has the name from
then on. -/
theorem Operation.Acts.of_halfway (h : Acts (.registerWith record name) g r r' .halfway) :
    r'.supplied? record.id = some name := by
  cases h with
  | supplies => rw [supplied?_update (entry?_putSupplied r record name), if_pos rfl]; rfl

/-- The second change of a call that registers an engine with a client. After it the engine has
entry and client. -/
theorem Operation.Acts.of_equipped
    (h : Acts (.registerWith record name) g r r' (.served (.ok none)))
    (hentered : g = .halfway → r.supplied? record.id = some name) :
    r'.Supplied record.id name := by
  cases h with
  | equips =>
    refine ⟨hentered rfl, fun client hclient => ?_⟩
    rw [clients_putClient, Function.update_self] at hclient
    cases hclient
    rfl

/-- The step at which a call that looks for a client comes to its reply. Either it had one, or it
has looked. -/
theorem Operation.Acts.of_replied {reply : Reply} (h : Acts (.client id) g r r' g')
    (hreply : g'.reply? = some reply) :
    g.reply? = some reply
      ∨ ∀ name, r.Supplied id name → reply = .ok (some (.supplied name)) := by
  cases h with
  | takes | lacks => cases hreply
  | releases => exact .inl hreply
  | refuses hrecord | clears hrecord => cases hrecord
  | @spots _ _ found hfound =>
    cases hreply
    exact .inr fun name hsupplied => by rw [hsupplied.client found hfound]
  | connects =>
    cases hreply
    exact .inr fun name hsupplied => by rw [hsupplied.connect]; rfl

end Steps

section Calls

variable {ι : Type} {ops : ι → Operation} {r r' : Registry} {log : List (ι × Happening)}
  {phase : ι → Phase} {i : ι} {g' : Phase}

/-- **The invariant of calls that supply clients and look for them.** The fields `entered`,
`equipped` and `ended` follow a registration from its first change to its end, and `found` is about
the calls that look for a client. -/
structure Supplying (ops : ι → Operation) (r : Registry) (log : List (ι × Happening))
    (phase : ι → Phase) : Prop where
  /-- It is known who holds the registry. -/
  custody : Custody r phase
  /-- Who has done something has had a turn. -/
  begun : ∀ i, phase i ≠ .fresh → Begun i log
  /-- The entry of an engine that waits for its supplied client has it already. -/
  entered : ∀ i record name, ops i = .registerWith record name → phase i = .halfway →
    r.supplied? record.id = some name
  /-- An engine that was registered with a client is reached through it, while the call still holds
  the registry. -/
  equipped : ∀ i record name, ops i = .registerWith record name →
    phase i = .served (.ok none) → r.Supplied record.id name
  /-- It was when the call ended. -/
  ended : ∀ i record name, ops i = .registerWith record name → phase i = .finished (.ok none) →
    ∀ s s' later, LastTurn i (.moved s s') later log → s'.Supplied record.id name
  /-- What a call gives it has found at one of its steps. -/
  found : ∀ i id reply, ops i = .client id → (phase i).reply? = some reply →
    ∃ s s', (i, .moved s s') ∈ log
      ∧ ∀ name, s.Supplied id name → reply = .ok (some (.supplied name))

namespace Supplying

/-- Calls that have done nothing. Everything that is asked of calls that have gone further is void.
-/
theorem start (timeout : Duration) (ops : ι → Operation) :
    Supplying ops (new timeout) [] fun _ => .fresh where
  custody := ((Idle.new timeout).ordered ops).custody
  begun _ hi := absurd rfl hi
  entered := by rintro _ _ _ _ ⟨⟩
  equipped := by rintro _ _ _ _ ⟨⟩
  ended := by rintro _ _ _ _ ⟨⟩
  found := by rintro _ _ _ _ ⟨⟩

/-- **Every step keeps the invariant.** The conditions are on each call by itself, at the phase that
it is in. -/
theorem acts [DecidableEq ι] (h : Supplying ops r log phase)
    (hact : (ops i).Acts (phase i) r r' g') :
    Supplying ops r' (log ++ [(i, .moved r r')]) (Function.update phase i g') where
  custody := h.custody.acts hact
  begun := begun_update h.begun
  entered := by
    refine (Function.forall_update_iff phase fun j g => ∀ record name,
      ops j = .registerWith record name → g = .halfway →
        r'.supplied? record.id = some name).mpr ⟨?_, fun j hji record name ho hj => ?_⟩
    · rintro record name ho rfl
      rw [ho] at hact
      exact hact.of_halfway
    · rw [(h.custody.spares hact hji (by rw [hj]; rfl)).supplied?]
      exact h.entered j record name ho hj
  equipped := by
    refine (Function.forall_update_iff phase fun j g => ∀ record name,
      ops j = .registerWith record name → g = .served (.ok none) →
        r'.Supplied record.id name).mpr ⟨?_, fun j hji record name ho hj => ?_⟩
    · rintro record name ho rfl
      rw [ho] at hact
      exact hact.of_equipped (h.entered i record name ho)
    · have hspares := h.custody.spares hact hji (by rw [hj]; rfl)
      exact (h.equipped j record name ho hj).acts hact fun _ => hspares
  ended := by
    refine (Function.forall_update_iff phase fun j g => ∀ record name,
      ops j = .registerWith record name → g = .finished (.ok none) → ∀ s s' later,
        LastTurn j (.moved s s') later (log ++ [(i, .moved r r')]) →
          s'.Supplied record.id name).mpr ⟨?_, fun j hji record name ho hj s s' later hlast => ?_⟩
    · rintro record name ho rfl s s' later hlast
      obtain ⟨heq, -⟩ | ⟨hne, -⟩ := Crew.lastTurn_append.mp hlast
      · cases heq
        rw [ho] at hact
        generalize hg : phase i = g at hact
        cases hact with
        | releases =>
          obtain ⟨hentry, hclient⟩ := h.equipped i record name ho hg
          exact ⟨hentry, hclient⟩
      · exact absurd rfl hne
    · obtain ⟨heq, -⟩ | ⟨-, rest, -, hlast⟩ := Crew.lastTurn_append.mp hlast
      · cases heq
        exact absurd rfl hji
      · exact h.ended j record name ho hj s s' rest hlast
  found := by
    refine (Function.forall_update_iff phase fun j g => ∀ id reply, ops j = .client id →
      g.reply? = some reply → ∃ s s', (j, .moved s s') ∈ log ++ [(i, .moved r r')]
        ∧ ∀ name, s.Supplied id name → reply = .ok (some (.supplied name))).mpr
        ⟨fun id reply ho hreply => ?_, fun j _ id reply ho hreply => ?_⟩
    · rw [ho] at hact
      obtain hbefore | hgives := hact.of_replied hreply
      · obtain ⟨s, s', hmem, hgives⟩ := h.found i id reply ho hbefore
        exact ⟨s, s', List.mem_append_left _ hmem, hgives⟩
      · exact ⟨r, r', List.mem_append_right _ List.mem_cons_self, hgives⟩
    · obtain ⟨s, s', hmem, hgives⟩ := h.found j id reply ho hreply
      exact ⟨s, s', List.mem_append_left _ hmem, hgives⟩

/-- Whoever holds the registry is under way. So if nobody is, nobody holds it. -/
theorem exists_underWay {crew : Crew ι Registry Empty (fun _ => Empty) (fun _ => Reply)}
    (h : Supplying ops crew.state crew.log phase)
    (hfollows : ∀ i, (crew.stand i).Follows (ops i).dialogue
      (fun g reply => g = .finished reply) (phase i))
    (hheld : crew.state.held = true) : ∃ i, crew.UnderWay i := by
  obtain ⟨i, hholds⟩ := h.custody.held.mp hheld
  refine ⟨i, h.begun i fun hfresh => ?_, ?_⟩
  · rw [hfresh] at hholds
    cases hholds
  · by_contra hended
    obtain ⟨reply, -, hfinished⟩ := (hfollows i).of_ended ((Bool.not_eq_false _).mp hended)
    rw [hfinished] at hholds
    cases hholds

end Supplying

/-- An engine does not cease to be reached through its supplied client, as long as nobody changes
its registration. -/
theorem Supplied.not_ceases {later : List (ι × Happening)} {id name : String}
    (hacted : ∀ x ∈ later, ∃ s s' g g', x.2 = .moved s s' ∧ (ops x.1).Acts g s s' g')
    (hkept : ∀ i s s', (ops i).Rewrites id → (i, .moved s s') ∈ later → Spares s s') :
    ∀ x ∈ later, ¬ x.2.Ceases (·.Supplied id name) := by
  rintro ⟨i, happening⟩ hx hceases
  obtain ⟨s, s', _, _, rfl, hact⟩ := hacted _ hx
  obtain ⟨hs, hs'⟩ := Crew.Happening.ceases_moved_iff.mp hceases
  exact hs' (hs.acts hact fun hrewrites => hkept i s s' hrewrites hx)

/-- **What holds of an engine since it was registered with a client.** The four are what a caller
who has supplied a client can rely on. The second and the third go together: whenever all calls that
have begun are over, a further one is given the client. -/
structure Lasting (ops : ι → Operation) (id name : String) (before later : List (ι × Happening))
    (crew : Crew ι Registry Empty (fun _ => Empty) (fun _ => Reply)) : Prop where
  /-- A call that looks for its client and did not begin before gives the supplied one. -/
  given : ∀ i reply, ops i = .client id → ¬ Begun i before →
    (crew.stand i).result? = some reply → reply = .ok (some (.supplied name))
  /-- While nobody holds the registry, a call that looks for the client is given the supplied
  one. -/
  ready : crew.state.held = false →
    (alone (Registry.client id) crew.state).1 = some (.ok (.supplied name))
  /-- Nobody holds the registry once every call that has begun has ended. -/
  free : (∀ i, ¬ crew.UnderWay i) → crew.state.held = false
  /-- Calls about other engines and calls that change the time-out leave its client and its status
  alone, at each of their steps. -/
  aside : ∀ i s s', (ops i).Elsewhere id → (i, .moved s s') ∈ later →
    s'.clients.get? id = s.clients.get? id ∧ s'.status? id = s.status? id

/-- **A supplied client lasts.** Any number of calls register engines, with and without clients,
forget them, look for clients, drop them and change the time-out, in any order of their steps. Once
an engine has been registered with a client, and as long as nobody registers it again or forgets it
– as long as no call that is to do so has changed anything – every call that looks for its client
gives the supplied one, no matter how often it is dropped in between; and neither calls about other
engines nor a change of the time-out drop it or change the engine's status. A call that is to
register the engine again or to forget it may be under way. As long as it has changed nothing, or if
it fails, it does not count. -/
theorem supplied_client_lasts [DecidableEq ι] (timeout : Duration) (ops : ι → Operation)
    (turns : List ι) {record : EngineRecord} {name : String} {happening : Happening}
    {before later : List (ι × Happening)} (ho : ops i = .registerWith record name)
    (hresult : ((calls timeout ops turns).stand i).result? = some (.ok none))
    (hlog : (calls timeout ops turns).log = before ++ (i, happening) :: later)
    (hlast : ∀ x ∈ later, x.1 ≠ i)
    (hkept : ∀ j s s', (ops j).Rewrites record.id → (j, .moved s s') ∈ later → Spares s s') :
    Lasting ops record.id name before later (calls timeout ops turns) := by
  obtain ⟨phase, h, hfollows⟩ := calls_keep timeout ops turns (Supplying ops) (.start timeout ops)
    fun _ _ _ h _ _ _ hact => h.acts hact
  have hchained : Chained _ _ (calls timeout ops turns).state := calls_chained
  have hacted : ∀ x ∈ (calls timeout ops turns).log, ∃ s s' g g', x.2 = .moved s s'
    ∧ (ops x.1).Acts g s s' g' := calls_acted
  have hended := h.ended i record name ho (finished_of_result (hfollows i) hresult)
  have hfound := h.found
  rw [hlog] at hchained hacted hended hfound
  obtain ⟨-, hcut⟩ := List.forall_mem_append.mp hacted
  obtain ⟨⟨s, _, _, _, rfl, -⟩, hsteps⟩ := List.forall_mem_cons.mp hcut
  obtain ⟨_, -, s', ⟨-, rfl⟩, hlater⟩ := Crew.chained_append.mp hchained
  -- the engine is reached through the client when the call ends, and at all steps from then on
  have hsupplied : s'.Supplied record.id name := hended s s' later ⟨⟨before, rfl⟩, hlast⟩
  have hsteady : ∀ x ∈ later, ¬ x.2.Ceases (·.Supplied record.id name) :=
    Supplied.not_ceases hsteps hkept
  refine ⟨fun j reply hj hbegun hreply => ?_, fun hfree => ?_, fun hidle => ?_,
    fun j t t' helse hmem => ?_⟩
  · obtain ⟨t, t', hmem, hgives⟩ :=
      hfound j _ reply hj (by rw [finished_of_result (hfollows j) hreply]; rfl)
    obtain hbefore | hmem := List.mem_append.mp hmem
    · exact absurd ⟨_, hbefore, rfl⟩ hbegun
    · obtain heq | hmem := List.mem_cons.mp hmem
      · cases heq
        rw [ho] at hj
        cases hj
      · exact hgives name (hlater.holds_before hsupplied hsteady hmem)
  · exact (hlater.of_not_ceases hsupplied hsteady).alone_client hfree
  · by_contra hheld
    obtain ⟨j, hj⟩ := h.exists_underWay hfollows ((Bool.not_eq_false _).mp hheld)
    exact hidle j hj
  · obtain ⟨_, _, _, _, heq, hact⟩ := hsteps _ hmem
    cases heq
    obtain ⟨hentry, hclients⟩ :=
      hact.elsewhere helse (hlater.holds_before hsupplied hsteady hmem)
    exact ⟨hclients, congrArg (Option.map _) hentry⟩

/-- An engine is registered with a client. The time-out is changed, the client is dropped, another
engine is registered, and the client is looked for: it is the supplied one. Then every client is
dropped, and it would still be given. -/
theorem supplied_client_given_again :
    let far : EngineRecord := { localEngine with id := "far", port := 4000 }
    let ops : Fin 6 → Operation := fun i =>
      if i = 0 then .registerWith localEngine "m"
      else if i = 1 then .setTimeout ⟨60, 0⟩
      else if i = 2 then .disconnect "local"
      else if i = 3 then .register far
      else if i = 4 then .client "local"
      else .disconnectAll
    let turns : List (Fin 6) :=
      [0, 1, 0, 0, 0, 0, 1, 1, 1, 2, 3, 2, 2, 3, 3, 3, 3, 4, 4, 4, 4, 5, 5, 5]
    let before := (calls ⟨30, 0⟩ ops turns).log.take 5
    let later := (calls ⟨30, 0⟩ ops turns).log.drop 6
    ((calls ⟨30, 0⟩ ops turns).stand 0).result? = some (.ok none)
      ∧ (∃ happening, (calls ⟨30, 0⟩ ops turns).log = before ++ (0, happening) :: later)
      ∧ (∀ x ∈ later, x.1 ≠ 0)
      ∧ (∀ i s s', (ops i).Rewrites "local" → (i, .moved s s') ∈ later → Spares s s')
      ∧ Lasting ops "local" "m" before later (calls ⟨30, 0⟩ ops turns)
      ∧ ¬ Begun 4 before
      ∧ ((calls ⟨30, 0⟩ ops turns).stand 4).result? = some (.ok (some (.supplied "m")))
      ∧ (calls ⟨30, 0⟩ ops turns).state.isConnected "local" = false
      ∧ (alone (Registry.client "local") (calls ⟨30, 0⟩ ops turns).state).1
        = some (.ok (.supplied "m")) := by
  intro far ops turns before later
  have hcut : ∀ log : List (Fin 6 × Happening), (log[5]?).map Prod.fst = some 0 →
      ∃ happening, log = log.take 5 ++ (0, happening) :: log.drop 6 := fun log hfirst => by
    obtain ⟨⟨_, happening⟩, hget, rfl⟩ := Option.map_eq_some_iff.mp hfirst
    obtain ⟨hlength, hget⟩ := List.getElem?_eq_some_iff.mp hget
    refine ⟨happening, ?_⟩
    rw [← hget, ← List.drop_eq_getElem_cons hlength, List.take_append_drop]
  obtain ⟨happening, hlog⟩ := hcut (calls ⟨30, 0⟩ ops turns).log (by decide +kernel)
  have hresult : ((calls ⟨30, 0⟩ ops turns).stand 0).result? = some (.ok none) := by
    decide +kernel
  have hlast : ∀ x ∈ later, x.1 ≠ 0 := by decide +kernel
  have hothers : ∀ x ∈ later, ¬ (ops x.1).Rewrites "local" := by decide +kernel
  have hkept : ∀ i s s', (ops i).Rewrites "local" → (i, .moved s s') ∈ later → Spares s s' :=
    fun i s s' hrewrites hmem => absurd hrewrites (hothers _ hmem)
  have hlasting : Lasting ops "local" "m" before later (calls ⟨30, 0⟩ ops turns) :=
    supplied_client_lasts ⟨30, 0⟩ ops turns rfl hresult hlog hlast hkept
  have hbegun : ∀ x ∈ before, x.1 ≠ 4 := by decide +kernel
  have hfree : (calls ⟨30, 0⟩ ops turns).state.held = false := by decide +kernel
  exact ⟨hresult, ⟨happening, hlog⟩, hlast, hkept, hlasting, fun ⟨x, hx, heq⟩ => hbegun x hx heq,
    by decide +kernel, by decide +kernel, hlasting.ready hfree⟩

end Calls

end Testbed.Registry

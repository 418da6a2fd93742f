import Testbed.Proofs.Registry.Lookup

/-!
# How engines are reached

A client that the registry builds carries a serial number, and which number it is depends on what
else the registry had to build before. Two clients that differ in the number only lead to the same
engine in the same way: they are the same *anonymously*.

What looking for the client of an engine gives (`reach`) is not changed anonymously by anybody's
looking: a client that was built stays in use, and before that it would have been built in the same
way. `Grown` is what becomes of a registry in which engines are looked for and which is otherwise
left alone; `Grown.connect` is the step.

The way to an engine is what operations on nodes depend on, and they run side by side. So it is
important that it does not depend on who looks first: an operation finds the same engine in the same
way whether it connects it or another operation has done so.
-/

namespace Testbed

/-- A client without its serial number. Supplied clients have none. -/
def Client.anonymous : Client → Client
  | supplied name => supplied name
  | built _ endpoint => built 0 endpoint

/-- The client that an entry asks for: the one that was supplied with it, or one that is built from
its record for the current time-out. -/
def RegistryEntry.Asks (e : RegistryEntry) (timeout : Duration) (client : Client) : Prop :=
  match e.supplied with
  | some name => client = .supplied name
  | none => ∃ serial endpoint, Endpoint.ofRecord e.record timeout = .ok endpoint
      ∧ client = .built serial endpoint

/-- A request without the serial number of its client. Which of two equal clients it goes through is
of no importance to an engine. -/
def Call.anonymous (call : Call) : Call := { call with client := call.client.anonymous }

namespace Registry

/-- Two look-ups for a client give the same anonymously. Errors have to be the same. -/
def Alike (found found' : Except RegistryError Client) : Prop :=
  found.map Client.anonymous = found'.map Client.anonymous

/-- **What looking for the client of an engine gives.** It is a function of the registry and changes
nothing, unlike the look-up itself. -/
def reach (r : Registry) (id : String) : Except RegistryError Client :=
  match r.clients.get? id with
  | some client => .ok client
  | none => (r.connect id).1

section Connect

variable {r r' : Registry} {id : String}

theorem reach_of_client {client : Client} (h : r.clients.get? id = some client) :
    r.reach id = .ok client := by
  unfold reach
  rw [h]

theorem reach_of_none (h : r.clients.get? id = none) : r.reach id = (r.connect id).1 := by
  unfold reach
  rw [h]

/-- Where an engine has no client, connecting it depends on its entry and the time-out only, up to
the serial number. -/
theorem connect_alike (hentry : r'.entry? id = r.entry? id) (htimeout : r'.timeoutMs = r.timeoutMs)
    (hclient : r.clients.get? id = none) (hclient' : r'.clients.get? id = none) :
    Alike (r'.connect id).1 (r.connect id).1 := by
  unfold connect timeout
  rw [hentry, hclient, hclient', htimeout]
  cases r.entry? id with
  | none => rfl
  | some e =>
    dsimp only
    cases e.supplied with
    | some name => rfl
    | none =>
      dsimp only
      cases Endpoint.ofRecord e.record (.ofMillis r.timeoutMs) with
      | error fault => rfl
      | ok endpoint => rfl

/-- **A registry in which a client was put in use.** The entry of the engine itself changes as well,
in its status. -/
structure Equips (r : Registry) (id : String) (client : Client) (r' : Registry) : Prop where
  /-- The engine had no client. -/
  missing : r.clients.get? id = none
  /-- The engine is known. -/
  known : (r'.entry? id).isSome = true
  /-- The other entries stay. -/
  entries : ∀ id', id' ≠ id → r'.entry? id' = r.entry? id'
  /-- The engine has the client now. -/
  clients : r'.clients = r.clients.insert id client
  /-- The time-out stays. -/
  timeoutMs : r'.timeoutMs = r.timeoutMs

/-- The registry with a client put in use for an engine. The number of clients that have been built
is given, as it may have grown. -/
def equipped (r : Registry) (id : String) (client : Client) (built : Nat) : Registry :=
  ({ r with built }.putClient id client).mark id .connected

theorem entry?_equipped (r : Registry) (id : String) (client : Client) (built : Nat) :
    entry? (r.equipped id client built)
      = Function.update r.entry? id ((r.entry? id).map ({ · with status := .connected })) := by
  unfold equipped
  exact entry?_mark _ id .connected

theorem clients_equipped (r : Registry) (id : String) (client : Client) (built : Nat) :
    (r.equipped id client built).clients = r.clients.insert id client := by
  unfold equipped
  exact clients_mark _ id .connected

theorem timeoutMs_equipped (r : Registry) (id : String) (client : Client) (built : Nat) :
    (r.equipped id client built).timeoutMs = r.timeoutMs := by
  unfold equipped
  rw [mark_eq]
  rfl

/-- A known engine that has no client can be equipped with one. Nothing else of the registry is
touched. -/
theorem equips_equipped {e : RegistryEntry} (hentry : r.entry? id = some e)
    (hnone : r.clients.get? id = none) (client : Client) (built : Nat) :
    Equips r id client (r.equipped id client built) := by
  have hentries := entry?_equipped r id client built
  refine ⟨hnone, ?_, fun id' hne => ?_, clients_equipped r id client built,
    timeoutMs_equipped r id client built⟩
  · rw [hentries, Function.update_self, hentry]
    rfl
  · rw [hentries, Function.update_of_ne hne]

/-- **Connecting an engine** leaves the registry as it is, and gives the client in use if any, or
puts the client in use that it gives, for a known engine that had none. Connecting changes nothing
if the engine is not known, has a client, or cannot be reached because its record gives no endpoint.
-/
theorem connect_cases (r : Registry) (id : String) :
    (r.connect id).2 = r
        ∧ (∀ client, (r.connect id).1 = .ok client → r.clients.get? id = some client)
      ∨ ∃ e client built, r.entry? id = some e ∧ r.clients.get? id = none
        ∧ (r.connect id).1 = .ok client ∧ (r.connect id).2 = r.equipped id client built := by
  unfold connect
  cases r.entry? id with
  | none => exact .inl ⟨rfl, by rintro _ ⟨⟩⟩
  | some e =>
    cases r.clients.get? id with
    | some client =>
      refine .inl ⟨rfl, ?_⟩
      rintro _ ⟨⟩
      rfl
    | none =>
      dsimp only
      cases e.supplied with
      | some name => exact .inr ⟨e, .supplied name, r.built, rfl, rfl, rfl, rfl⟩
      | none =>
        dsimp only
        cases Endpoint.ofRecord e.record r.timeout with
        | error fault => exact .inl ⟨rfl, by rintro _ ⟨⟩⟩
        | ok endpoint => exact .inr ⟨e, .built r.built endpoint, r.built + 1, rfl, rfl, rfl, rfl⟩

/-- **A known engine without a client is given the client that its entry asks for**, up to the
serial number. So what is given depends on the entry and on the time-out, and on nothing that has
happened before. -/
theorem alike_connect_iff {e : RegistryEntry} (hentry : r.entry? id = some e)
    (hnone : r.clients.get? id = none) (client : Client) :
    Alike (.ok client) (r.connect id).1 ↔ e.Asks r.timeout client := by
  unfold connect RegistryEntry.Asks Alike
  rw [hentry, hnone]
  dsimp only
  cases e.supplied with
  | some name =>
    refine ⟨fun h => ?_, by rintro rfl; rfl⟩
    cases client with
    | supplied name' =>
      cases h
      rfl
    | built serial endpoint => cases h
  | none =>
    dsimp only
    cases Endpoint.ofRecord e.record r.timeout with
    | error fault => exact ⟨by rintro ⟨⟩, by rintro ⟨_, _, ⟨⟩, -⟩⟩
    | ok endpoint =>
      refine ⟨fun h => ?_, by rintro ⟨serial, _, ⟨⟩, rfl⟩; rfl⟩
      cases client with
      | supplied name => cases h
      | built serial endpoint' =>
        cases h
        exact ⟨serial, endpoint, rfl, rfl⟩

/-- An engine that is known and has a client is connected by it. The registry is as before. -/
theorem connect_of_client {client : Client} (hknown : (r.entry? id).isSome = true)
    (hclient : r.clients.get? id = some client) : (r.connect id).1 = .ok client := by
  obtain ⟨e, hentry⟩ := Option.isSome_iff_exists.mp hknown
  unfold connect
  rw [hentry, hclient]

/-- **Putting a client in use that connecting gives changes nobody's way to an engine.** For the
engine itself, the client in use is now the one that connecting has given; for the others, only the
count of built clients has changed. -/
theorem Equips.reach_alike {client : Client} (h : Equips r id client r')
    (hok : (r.connect id).1 = .ok client) (id' : String) : Alike (r'.reach id') (r.reach id') := by
  by_cases hid : id' = id
  · subst hid
    have hclient : r'.clients.get? id' = some client := by
      rw [h.clients, Dict.get_insert_self]
    rw [reach_of_client hclient, reach_of_none h.missing, hok]
    exact rfl
  · have hclient : r'.clients.get? id' = r.clients.get? id' := by
      rw [h.clients, Dict.get_insert_ne _ _ hid]
    cases hsome : r.clients.get? id' with
    | some client' =>
      rw [hsome] at hclient
      rw [reach_of_client hclient, reach_of_client hsome]
      exact rfl
    | none =>
      rw [hsome] at hclient
      rw [reach_of_none hclient, reach_of_none hsome]
      exact connect_alike (h.entries id' hid) h.timeoutMs hsome hclient

end Connect

/-! ## Registries in which engines are looked for

While nodes are at work, clients are built and nothing else happens to the registry. What an engine
is reached by does not change by that, so each node can be compared with itself alone. -/

/-- **What has become of a registry** in which engines were looked for, and which was otherwise left
alone. Two registries that have grown from one may have connected engines in different orders, and
still agree on the way to every engine. -/
structure Grown (r₀ r : Registry) : Prop where
  /-- Engines are reached as before. -/
  reach : ∀ id, Alike (r.reach id) (r₀.reach id)
  /-- Clients stay in use. -/
  kept : ∀ id, r.clients.get? id = none → r₀.clients.get? id = none
  /-- Clients were put in use for known engines. -/
  known : ∀ id, r₀.clients.get? id = none → (r.clients.get? id).isSome = true →
    (r.entry? id).isSome = true

namespace Grown

variable {r₀ r : Registry} {id : String}

theorem refl (r : Registry) : Grown r r :=
  ⟨fun _ => rfl, fun _ h => h, fun id hnone hsome => by rw [hnone] at hsome; cases hsome⟩

/-- Taking the registry and giving it back is of no matter. Who holds it is not compared. -/
theorem setHeld (h : Grown r₀ r) (held : Bool) : Grown r₀ { r with held } where
  reach id := by
    refine Eq.trans ?_ (h.reach id)
    by_cases hclient : r.clients.get? id = none
    · rw [reach_of_none hclient, reach_of_none (r := { r with held }) hclient]
      exact connect_alike rfl rfl hclient hclient
    · obtain ⟨client, hclient⟩ := Option.ne_none_iff_exists'.mp hclient
      rw [reach_of_client hclient, reach_of_client (r := { r with held }) hclient]
  kept := h.kept
  known := h.known

/-- **An engine that had no client is reached by connecting it**, however late. What it is connected
by is told by its entry and by the time-out, which are as they were. -/
theorem connect_alike (h : Grown r₀ r) (hnone : r₀.clients.get? id = none) :
    Alike (r.connect id).1 (r₀.reach id) := by
  cases hclient : r.clients.get? id with
  | none =>
    rw [← reach_of_none hclient]
    exact h.reach id
  | some client =>
    rw [connect_of_client (h.known id hnone (by rw [hclient]; rfl)) hclient,
      ← reach_of_client hclient]
    exact h.reach id

/-- Connecting an engine is to look for it. So a look is repeated as often as one likes. -/
theorem connect (h : Grown r₀ r) (id : String) : Grown r₀ (r.connect id).2 := by
  obtain ⟨hsame, -⟩ | ⟨e, client, built, hentry, hnone, hok, heq⟩ := connect_cases r id
  · rw [hsame]
    exact h
  have hequips := equips_equipped hentry hnone client built
  rw [← heq] at hequips
  refine ⟨fun id' => (hequips.reach_alike hok id').trans (h.reach id'), fun id' hnone => ?_,
    fun id' hnone hsome => ?_⟩
  · rw [hequips.clients, Dict.get_insert] at hnone
    split at hnone
    · cases hnone
    · exact h.kept id' hnone
  · by_cases hid : id' = id
    · rw [hid]
      exact hequips.known
    · rw [hequips.entries id' hid]
      rw [hequips.clients, Dict.get_insert_ne _ _ hid] at hsome
      exact h.known id' hnone hsome

end Grown

/-- An engine on this host. It asks for no credentials. -/
def localEngine : EngineRecord :=
  { id := "local", protocol := "http", host := "127.0.0.1", port := EngineRecord.defaultPort }

/-- A registry with one engine, which is reached through a supplied client. The client is in use. -/
def lab : Registry :=
  let record : EngineRecord :=
    { id := "local", protocol := "http", host := "127.0.0.1", port := EngineRecord.defaultPort }
  ((Registry.new ⟨30, 0⟩).putSupplied record "m").putClient "local" (.supplied "m")

end Registry

end Testbed

import Mathlib.Logic.Function.Basic
import Testbed.Proofs.Dict
import Testbed.Registry.Basic

/-!
# What is found in the registry after a change

The registry keeps its entries in one dictionary and the clients in use in another, and an operation
writes to both. What it has done to an engine is told by two look-ups, `entry?` and `clients.get?`,
and these are given here for every change, as functions of the identifier. Nothing else about a
change is needed afterwards: no later proof opens one.

Both look-ups are functions of the identifier, so a change at one identifier is `Function.update`,
and what is found under the others is settled by its lemmas.
-/

namespace Testbed.Registry

variable (r : Registry) (id : String) (record : EngineRecord)

/-- A record is found where an entry is. So facts on entries give facts on records. -/
theorem record?_eq_comp : r.record? = Option.map RegistryEntry.record ∘ r.entry? := rfl

/-- An engine that is known has an entry. It has the record that was found. -/
theorem exists_entry_of_known {r : Registry} {id : String} (h : (r.record? id).isSome = true) :
    ∃ e, r.entry? id = some e :=
  Option.isSome_iff_exists.mp (Option.isSome_map.symm.trans h)

/-- What is found after a removal was found before. So a removal creates nothing. -/
theorem some_of_update_none {ν : Type} {find : String → Option ν} {id id' : String} {v : ν}
    (h : Function.update find id none id' = some v) : find id' = some v := by
  rw [Function.update_apply] at h
  split at h
  · cases h
  · exact h

/-! ## Entries

What is found under an identifier after each change, as an equation between functions. No later
proof looks into the dictionary of entries. -/

theorem entry?_putRecord : entry? (r.putRecord record)
    = Function.update r.entry? record.id (some ⟨record, .registered, none⟩) :=
  Dict.get_insert_eq_update _ _ _

theorem entry?_putSupplied (name : String) : entry? (r.putSupplied record name)
    = Function.update r.entry? record.id (some ⟨record, .connected, some name⟩) :=
  Dict.get_insert_eq_update _ _ _

theorem entry?_dropEntry : entry? (r.dropEntry id) = Function.update r.entry? id none :=
  Dict.get_erase_eq_update _ _

/-- Marking an engine that is not there does nothing. In all other cases the status is the only
thing that changes. -/
theorem entry?_mark (status : EngineStatus) : entry? (r.mark id status)
    = Function.update r.entry? id ((r.entry? id).map ({ · with status })) := by
  unfold mark
  cases hentry : r.entry? id with
  | none =>
    have hself := Function.update_eq_self id r.entry?
    rw [hentry] at hself
    exact hself.symm
  | some e => exact Dict.get_insert_eq_update _ _ _

/-- Marking an engine changes nothing but entries. The clients, the time-out and the count are as
they were. -/
theorem mark_eq (status : EngineStatus) :
    r.mark id status = { r with entries := (r.mark id status).entries } := by
  unfold mark
  split
  · rfl
  · rfl

theorem clients_mark (status : EngineStatus) : (r.mark id status).clients = r.clients := by
  rw [mark_eq]

theorem entry?_disconnectOne : entry? (r.disconnectOne id)
    = Function.update r.entry? id ((r.entry? id).map ({ · with status := .disconnected })) :=
  entry?_mark (r.dropClient id) id .disconnected

theorem held_disconnectOne : (r.disconnectOne id).held = r.held := by
  unfold disconnectOne
  rw [mark_eq]
  rfl

theorem timeoutMs_disconnectOne : (r.disconnectOne id).timeoutMs = r.timeoutMs := by
  unfold disconnectOne
  rw [mark_eq]
  rfl

theorem entry?_disconnectEvery :
    r.disconnectEvery.entry? id = (r.entry? id).map ({ · with status := .disconnected }) :=
  Dict.get_mapValues _ _ _

theorem entry?_dropBuilt : r.dropBuilt.entry? id = (r.entry? id).map fun e =>
    if e.supplied.isNone ∧ r.isConnected id then { e with status := .registered } else e :=
  Dict.get_mapValues _ _ _

/-! ## Clients in use

The same for clients. Here two operations look at an entry before they change a client, which is
where entries and clients are kept together or are not. -/

/-- A registration drops a client that was built for another record. With the record that it had
before, the client stays. -/
theorem clients_putRecord : (r.putRecord record).clients.get?
    = if (r.record? record.id).any (· ≠ record) then Function.update r.clients.get? record.id none
      else r.clients.get? := by
  unfold putRecord
  dsimp only
  split
  · exact Dict.get_erase_eq_update _ _
  · rfl

theorem clients_putClient (client : Client) : (r.putClient id client).clients.get?
    = Function.update r.clients.get? id (some client) :=
  Dict.get_insert_eq_update _ _ _

theorem clients_dropClient : (r.dropClient id).clients.get?
    = Function.update r.clients.get? id none :=
  Dict.get_erase_eq_update _ _

theorem clients_disconnectOne : (r.disconnectOne id).clients.get?
    = Function.update r.clients.get? id none := by
  unfold disconnectOne
  rw [clients_mark]
  exact clients_dropClient r id

theorem clients_dropBuilt : r.dropBuilt.clients.get? id
    = if r.usesBuilt id then none else r.clients.get? id := by
  refine (Dict.get_filter_key r.clients (fun id => !r.usesBuilt id) id).trans ?_
  cases r.usesBuilt id with
  | true => rfl
  | false => rfl

/-- An engine has a client if one is found. The status of the entry is not asked. -/
theorem isConnected_iff {r : Registry} {id : String} :
    r.isConnected id = true ↔ ∃ client, r.clients.get? id = some client :=
  Option.isSome_iff_exists

theorem isConnected_eq_false_iff {r : Registry} {id : String} :
    r.isConnected id = false ↔ r.clients.get? id = none :=
  Option.isSome_eq_false_iff.trans Option.isNone_iff_eq_none

/-- Whether an engine uses a built client is a matter of its entry. Whether there is a client at all
does not come into it. -/
theorem usesBuilt_of_entry {r : Registry} {id : String} {e : RegistryEntry}
    (hentry : r.entry? id = some e) : r.usesBuilt id = e.supplied.isNone := by
  unfold usesBuilt
  rw [hentry]

/-- An engine uses a built client if no client came with its registration. An engine that is not
registered does not. -/
theorem usesBuilt_iff {r : Registry} {id : String} :
    r.usesBuilt id = true ↔ ∃ e, r.entry? id = some e ∧ e.supplied = none := by
  cases hentry : r.entry? id with
  | none =>
    unfold usesBuilt
    rw [hentry]
    exact ⟨by rintro ⟨⟩, by rintro ⟨e, ⟨⟩, -⟩⟩
  | some e =>
    rw [usesBuilt_of_entry hentry, Option.isNone_iff_eq_none]
    exact ⟨fun h => ⟨e, rfl, h⟩, by rintro ⟨_, ⟨⟩, h⟩; exact h⟩

end Testbed.Registry

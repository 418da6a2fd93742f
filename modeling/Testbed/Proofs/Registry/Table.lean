import Testbed.Proofs.Registry.Lookup
import Testbed.Proofs.Registry.Operation
import Testbed.Proofs.Registry.Reach

/-!
# The table of engines

Of everything the registry knows, the settings decide about the records only. A `Table` is what a
look-up of records sees; statuses, clients and the time-out do not occur in it. Every operation of
the registry leaves the table alone, or writes a single row of it (`record?_putRecord`,
`unregister_settles`), and that is all that is said of them here.

A table is *orderly* if a record is found under its own identifier and no two engines have one
address. Registering keeps it so, which is what the look for another owner of the address is for.

Tables are functions and not dictionaries, so a row is written by `Function.update` and several rows
are taken out by a condition on the identifier. The order of the rows, which a dictionary has, is
not needed until the records are listed.
-/

namespace Testbed.Registry

/-- **What a look-up of records sees.** A row that is not there is `none`. Status and client are not
part of it. -/
abbrev Table := String → Option EngineRecord

/-- **A table in which every engine has one row and one address.** A record has its identifier in
it, and the first condition ties it to the row. -/
structure Table.Orderly (t : Table) : Prop where
  /-- A record is found under its own identifier. -/
  keyed : ∀ id record, t id = some record → record.id = id
  /-- No two engines have one address. -/
  distinct : ∀ id id' record record', t id = some record → t id' = some record' →
    record.address = record'.address → id = id'

/-- Another engine than the record's has the record's address. A row of the record's own is no
obstacle. -/
def Table.Occupied (t : Table) (record : EngineRecord) : Prop :=
  ∃ id old, t id = some old ∧ id ≠ record.id ∧ old.address = record.address

namespace Table.Orderly

variable {t : Table} {record : EngineRecord}

theorem empty : Table.Orderly (fun _ => none) :=
  ⟨by rintro _ _ ⟨⟩, by rintro _ _ _ _ ⟨⟩⟩

/-- Rows can be taken out. Fewer rows have fewer conflicts. -/
theorem filter (h : t.Orderly) (keep : String → Prop) [DecidablePred keep] :
    Table.Orderly (fun id => if keep id then t id else none) where
  keyed id record hrow := h.keyed id record (by
    split at hrow
    · exact hrow
    · cases hrow)
  distinct id id' record record' hrow hrow' := by
    split at hrow
    · split at hrow'
      · exact h.distinct id id' record record' hrow hrow'
      · cases hrow'
    · cases hrow

/-- A row can be taken out. It is the case of one row. -/
theorem erase (h : t.Orderly) (id : String) : Table.Orderly (Function.update t id none) := by
  have hfilter : Function.update t id none = fun id' => if id' ≠ id then t id' else none := by
    funext id'
    rw [Function.update_apply, ite_not]
  rw [hfilter]
  exact h.filter _

/-- A record can be put in whose address nobody else has. A row that was there under the identifier
is replaced. -/
theorem insert (h : t.Orderly) (hfree : ¬ t.Occupied record) :
    Table.Orderly (Function.update t record.id (some record)) where
  keyed := by
    refine (Function.forall_update_iff t
      (fun id row => ∀ r, row = some r → r.id = id)).mpr ⟨?_, fun id _ => h.keyed id⟩
    rintro _ ⟨⟩
    rfl
  distinct id id' r r' hr hr' haddress := by
    by_cases hid : id = record.id
    · by_cases hid' : id' = record.id
      · rw [hid, hid']
      · subst hid
        rw [Function.update_self] at hr
        rw [Function.update_of_ne hid'] at hr'
        cases hr
        exact absurd ⟨id', r', hr', hid', haddress.symm⟩ hfree
    · rw [Function.update_of_ne hid] at hr
      by_cases hid' : id' = record.id
      · subst hid'
        rw [Function.update_self] at hr'
        cases hr'
        exact absurd ⟨id, r, hr, hid, haddress⟩ hfree
      · rw [Function.update_of_ne hid'] at hr'
        exact h.distinct id id' r r' hr hr' haddress

end Table.Orderly

/-! ## The table after a change

Each change of the registry, as a change of the table. Most of them leave the table alone, since
statuses and clients are not seen in it. -/

section Changes

variable (r : Registry) (id : String) (record : EngineRecord)

theorem record?_putRecord :
    (r.putRecord record).record? = Function.update r.record? record.id (some record) := by
  rw [record?_eq_comp, entry?_putRecord, Function.comp_update]
  rfl

theorem record?_putSupplied (name : String) :
    (r.putSupplied record name).record? = Function.update r.record? record.id (some record) := by
  rw [record?_eq_comp, entry?_putSupplied, Function.comp_update]
  rfl

theorem record?_dropEntry : (r.dropEntry id).record? = Function.update r.record? id none := by
  rw [record?_eq_comp, entry?_dropEntry, Function.comp_update]
  rfl

/-- Changes of the entries one by one that keep the records. Marking and disconnecting are of this
kind. -/
theorem record?_eq_of_map {r r' : Registry} (f : String → RegistryEntry → RegistryEntry)
    (hentry : ∀ id, r'.entry? id = (r.entry? id).map (f id))
    (hf : ∀ id e, (f id e).record = e.record) : r'.record? = r.record? := by
  funext id
  rw [record?_eq_comp, Function.comp_apply, hentry, Option.map_map]
  exact congrArg (Option.map · _) (funext (hf id))

/-- A status is not seen in the table. It is a change of one entry. -/
theorem record?_mark (status : EngineStatus) : (r.mark id status).record? = r.record? := by
  rw [record?_eq_comp, entry?_mark, Function.comp_update, Option.map_map]
  exact Function.update_eq_self id r.record?

theorem record?_connect : (r.connect id).2.record? = r.record? := by
  obtain ⟨hsame, -⟩ | ⟨e, client, built, -, -, -, heq⟩ := connect_cases r id
  · rw [hsame]
  · rw [heq]
    unfold equipped
    exact record?_mark _ id .connected

theorem record?_disconnectOne : (r.disconnectOne id).record? = r.record? :=
  record?_mark (r.dropClient id) id .disconnected

theorem record?_disconnectEvery : r.disconnectEvery.record? = r.record? :=
  record?_eq_of_map (fun _ e => { e with status := .disconnected })
    (entry?_disconnectEvery r) fun _ _ => rfl

theorem record?_dropBuilt : r.dropBuilt.record? = r.record? := by
  refine record?_eq_of_map _ (entry?_dropBuilt r) fun id e => ?_
  split
  · rfl
  · rfl

/-- The owner of an address is looked for among the other rows. The registry's search and the
condition on the table are the same, if there is only one row for each engine. -/
theorem addressOwner?_eq_none_iff (h : Table.Orderly r.record?) :
    r.addressOwner? record = none ↔ ¬ Table.Occupied r.record? record := by
  unfold addressOwner?
  rw [Option.map_eq_none_iff, List.find?_eq_none]
  constructor
  · rintro hnone ⟨id, old, hrow, hne, haddress⟩
    obtain ⟨e, he, rfl⟩ := Option.map_eq_some_iff.mp hrow
    refine hnone e (List.mem_map.mpr ⟨(id, e), (r.entries.mem_entries_iff id e).mpr he, rfl⟩) ?_
    rw [decide_eq_true_iff, h.keyed id e.record hrow]
    exact ⟨hne, haddress⟩
  · intro hfree e he htest
    obtain ⟨⟨id, e⟩, hmem, rfl⟩ := List.mem_map.mp he
    have hrow : r.record? id = some e.record :=
      congrArg (Option.map _) ((r.entries.mem_entries_iff id e).mp hmem)
    obtain ⟨hne, haddress⟩ := of_decide_eq_true htest
    rw [h.keyed id e.record hrow] at hne
    exact hfree ⟨id, e.record, hrow, hne, haddress⟩

/-- The records are the rows. Every row is under its own identifier. -/
theorem mem_records_iff (h : Table.Orderly r.record?) :
    record ∈ r.records ↔ r.record? record.id = some record := by
  unfold records Dict.values
  rw [List.map_map, List.mem_map]
  constructor
  · rintro ⟨⟨id, e⟩, hmem, rfl⟩
    have hrow : r.record? id = some e.record :=
      congrArg (Option.map _) ((r.entries.mem_entries_iff id e).mp hmem)
    show r.record? e.record.id = some e.record
    rw [h.keyed id e.record hrow, hrow]
  · intro hrow
    obtain ⟨e, he, rfl⟩ := Option.map_eq_some_iff.mp hrow
    exact ⟨(_, e), (r.entries.mem_entries_iff _ e).mpr he, rfl⟩

/-- No record is listed twice. Two rows have different identifiers. -/
theorem nodup_records (h : Table.Orderly r.record?) : r.records.Nodup := by
  unfold records Dict.values
  rw [List.map_map]
  refine (List.pairwise_map.mpr ?_ : List.Pairwise _ _)
  refine (List.Pairwise.and_mem.mp r.entries.ascending).imp ?_
  rintro ⟨id, e⟩ ⟨id', e'⟩ ⟨hmem, hmem', hlt⟩ heq
  -- equal records are found under equal identifiers
  have hrow {id : String} {e : RegistryEntry} (hmem : (id, e) ∈ r.entries.entries) :
      e.record.id = id :=
    h.keyed id e.record (congrArg (Option.map _) ((r.entries.mem_entries_iff id e).mp hmem))
  have hid : id = id' := by
    rw [← hrow hmem, ← hrow hmem']
    exact congrArg EngineRecord.id heq
  subst hid
  rw [Std.ReflOrd.compare_self] at hlt
  cases hlt

end Changes

/-! ## The operations on a registry that nobody holds

What an operation leaves of the table if it need not wait. The two that settings use are told here.
-/

section Operations

variable {Q α : Type} {R : Q → Type} {r r' : Registry}

/-- **An operation leaves the registry free with a table.** Nothing is said of the clients and the
statuses, which operations change as well. -/
def Leaves (p : Process Registry Q R α) (r : Registry) (a : α) (t : Table) : Prop :=
  ∃ r', p.Settles r a r' ∧ r'.held = false ∧ r'.record? = t

/-- Forgetting an engine, which may not be there. If it is not there the table is as before. -/
theorem unregister_settles (id : String) (h : r.held = false) :
    Leaves (unregister id : Process Registry Q R _) r
      (if (r.record? id).isSome then .ok () else .error (.unknown id))
      (Function.update r.record? id none) := by
  have hisSome : (r.record? id).isSome = (r.entry? id).isSome := Option.isSome_map
  rw [hisSome]
  by_cases hrow : (r.entry? id).isSome = true
  · rw [if_pos hrow]
    exact ⟨_, unregister_known h hrow, h, record?_dropEntry r id⟩
  · rw [if_neg hrow]
    refine ⟨r, unregister_unknown h hrow, h, ?_⟩
    rw [Bool.not_eq_true, ← hisSome, Option.isSome_eq_false_iff,
      Option.isNone_iff_eq_none] at hrow
    rw [← hrow, Function.update_eq_self]

/-- Another time-out changes no record. It is done with clients, if it is done with anything. -/
theorem setTimeout_settles (timeout : Duration) (h : r.held = false) :
    Leaves (setTimeout timeout : Process Registry Q R _) r () r.record? := by
  by_cases hsame : r.timeoutMs = millisOf timeout
  · exact ⟨r, setTimeout_same hsame, h, rfl⟩
  · exact ⟨_, setTimeout_other h hsame, h, record?_dropBuilt _⟩

end Operations

end Testbed.Registry

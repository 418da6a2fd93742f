import Testbed.Proofs.Registry.Course

/-!
# Clients that outlive their registration

The status of an engine says whether it has a client, and the client in use is meant to be the one
that would be given if there were none: the supplied one, or one that is built from the record and
for the time-out. Every operation takes care of both, with one exception. An engine that is
registered with the record that it already has keeps its client, and its entry is made anew
nevertheless: as that of an engine without a client, and without the client that was supplied. Such
a client is *retained*. It stays in use until it is dropped or the engine is registered with a
client.

Whether a client is retained can be told from the course of operations (`Retained`), and this is
exactly when the status is wrong (`status_agrees_iff`). The client in use is another one than would
be given without it exactly if it is a retained one that was supplied (`client_agrees_iff`).

The agreement is an invariant of one engine along a course, with `Retained` as its only exception.
Of the ways in which an engine can fare (`Fares`), registering it with the record that it has is the
one that brings an exception about, and every way in which its client is dropped or another one is
supplied ends it.
-/

namespace Testbed

/-- A client was supplied. Whether it still is in an entry does not matter. -/
def Client.IsSupplied : Client → Prop
  | supplied _ => True
  | built .. => False

namespace Registry

/-- **An engine is registered with the record that it already has**, while it has a client. The
registration succeeds: an engine cannot stand in its own way. -/
def Renews (id : String) (found : Client → Prop) (r : Registry) (o : Operation) : Prop :=
  ∃ record client, o = .register record ∧ r.record? id = some record
    ∧ r.clients.get? id = some client ∧ found client

/-- An engine has a client, and none is to be supplied. Both are asked of one moment. -/
def Keeps (id : String) (r : Registry) : Prop :=
  r.isConnected id = true ∧ r.usesBuilt id = true

/-- **In a course of operations, a client was retained**: the engine was registered with the record
that it had already, while it had the client, and since then it has had one and none that was
supplied. `found` is a property of the client at the time, such as that it was supplied. -/
def Retained (r : Registry) (id : String) (found : Client → Prop) (course : List Operation) :
    Prop :=
  ∃ before o rest, course = before ++ o :: rest ∧ Renews id found (r.after before) o
    ∧ ∀ later, later <+: rest → Keeps id (r.after (before ++ o :: later))

section Retained

variable {r r' : Registry} {id : String} {found : Client → Prop} {course : List Operation}
  {o : Operation}

theorem retained_concat : r.Retained id found (course ++ [o])
    ↔ Keeps id (r.after (course ++ [o]))
      ∧ (Renews id found (r.after course) o ∨ r.Retained id found course) := by
  constructor
  · rintro ⟨before, o', rest, h, hrenews, hkeeps⟩
    refine ⟨by rw [h]; exact hkeeps rest (List.prefix_refl _), ?_⟩
    obtain ⟨rfl, rfl, -⟩ | ⟨rest, rfl, rfl⟩ := Crew.cut_append h
    · exact .inl hrenews
    · exact .inr ⟨before, o', rest, rfl, hrenews, fun later hlater =>
        hkeeps later (hlater.trans (List.prefix_append _ _))⟩
  · rintro ⟨hkeeps, hrenews | ⟨before, o', rest, rfl, hrenews, hrest⟩⟩
    · refine ⟨course, o, [], rfl, hrenews, fun later hlater => ?_⟩
      rw [List.prefix_nil.mp hlater]
      exact hkeeps
    · rw [List.append_assoc, List.cons_append] at hkeeps ⊢
      refine ⟨before, o', rest ++ [o], rfl, hrenews, fun later hlater => ?_⟩
      obtain rfl | hlater := List.prefix_concat_iff.mp hlater
      · exact hkeeps
      · exact hrest later hlater

/-- A retained client is in use. It need not be the one that a caller would get anew. -/
theorem Retained.keeps (h : r.Retained id found course) : Keeps id (r.after course) := by
  obtain ⟨before, o, rest, rfl, -, hkeeps⟩ := h
  exact hkeeps rest (List.prefix_refl _)

theorem keeps_iff {entry : Option RegistryEntry} {client : Option Client} {timeoutMs : Nat}
    (h : Found r id entry client timeoutMs) :
    Keeps id r ↔ client.isSome = true ∧ ∃ e, entry = some e ∧ e.supplied = none := by
  unfold Keeps
  rw [usesBuilt_iff, h.entry, ← h.client]
  exact Iff.rfl

end Retained

/-! ## Status and client of an engine

The documentation wants the status to say whether there is a client, and the client to be the one
that the entry asks for. Every operation keeps both, with one exception, and an engine that has met
the exception is retained. -/

/-- **An entry and a client agree**, but for retained clients. The first condition has no exception:
retaining a client makes the status say too little, and never too much. -/
structure Agrees (entry : Option RegistryEntry) (client : Option Client) (timeout : Duration)
    (retained : (Client → Prop) → Prop) : Prop where
  /-- An engine that is connected has a client. -/
  equipped : ∀ e, entry = some e → e.status = .connected → client.isSome = true
  /-- An engine that has a client is connected, unless the client is retained. -/
  status : ∀ e found, entry = some e → client = some found →
    (e.status = .connected ↔ ¬ retained fun _ => True)
  /-- The client is what the entry asks for, unless it was supplied and is retained. -/
  apt : ∀ e found, entry = some e → client = some found →
    (e.Asks timeout found ↔ ¬ retained Client.IsSupplied)

section Agrees

variable {r r' : Registry} {id : String} {o : Operation} {timeout : Duration}
  {retained retained' : (Client → Prop) → Prop}

/-- An engine without a client that is not said to be connected. Then nothing has to agree. -/
theorem Agrees.of_none {entry : Option RegistryEntry}
    (h : ∀ e, entry = some e → e.status ≠ .connected) : Agrees entry none timeout retained :=
  ⟨fun e he hstatus => absurd hstatus (h e he), by rintro _ _ _ ⟨⟩, by rintro _ _ _ ⟨⟩⟩

/-- An engine that is connected by the client that its entry asks for. None is retained, so nothing
is excepted. -/
theorem Agrees.of_asks {e : RegistryEntry} {client : Client} (hstatus : e.status = .connected)
    (hasks : e.Asks timeout client) (h : ∀ found, ¬ retained found) :
    Agrees (some e) (some client) timeout retained where
  equipped := by
    rintro _ ⟨⟩ -
    rfl
  status := by
    rintro _ _ ⟨⟩ ⟨⟩
    exact iff_of_true hstatus (h _)
  apt := by
    rintro _ _ ⟨⟩ ⟨⟩
    exact iff_of_true hasks (h _)

/-- An entry without a supplied client does not ask for one. It would be a built one. -/
theorem not_asks_of_isSupplied {e : RegistryEntry} {client : Client} (hnone : e.supplied = none)
    (hclient : client.IsSupplied) : ¬ e.Asks timeout client := by
  intro hasks
  unfold RegistryEntry.Asks at hasks
  rw [hnone] at hasks
  obtain ⟨_, _, -, rfl⟩ := hasks
  exact hclient

/-- **An engine is registered with the record that it has**, while it has a client: from now on it
is not said to be connected, and its entry does not ask for a supplied client any more. The client
does not change, and whether it is what the entry asks for is decided by whether it was supplied: a
built one is asked for by the new entry as well. -/
theorem Agrees.renewed {e : RegistryEntry} {client : Client}
    (h : Agrees (some e) (some client) timeout retained)
    (hbuilt : ∀ found, retained found → e.supplied = none)
    (hnext : ∀ found, retained' found ↔ found client ∨ retained found) :
    Agrees (some ⟨e.record, .registered, none⟩) (some client) timeout retained' where
  equipped := by
    rintro _ ⟨⟩ ⟨⟩
  status := by
    rintro _ _ ⟨⟩ ⟨⟩
    exact iff_of_false (by rintro ⟨⟩) (not_not.mpr ((hnext _).mpr (.inl trivial)))
  apt := by
    rintro _ found ⟨⟩ ⟨⟩
    have hbefore := h.apt e client rfl rfl
    rw [hnext, not_or]
    cases hsupplied : e.supplied with
    | none =>
      -- the entry asks for what it asked for before
      have hsame : RegistryEntry.Asks ⟨e.record, .registered, none⟩ timeout client
          ↔ e.Asks timeout client := by
        unfold RegistryEntry.Asks
        rw [hsupplied]
      rw [hsame, hbefore, iff_and_self]
      exact fun hnot hclient => not_asks_of_isSupplied hsupplied hclient (hbefore.mpr hnot)
    | some name =>
      have hasks : e.Asks timeout client := hbefore.mpr fun hretained => by
        rw [hbuilt _ hretained] at hsupplied
        cases hsupplied
      unfold RegistryEntry.Asks at hasks
      rw [hsupplied] at hasks
      subst hasks
      refine iff_of_false (not_asks_of_isSupplied rfl trivial) ?_
      rintro ⟨hnot, -⟩
      exact hnot trivial

/-- **Registering an engine keeps the agreement.** With the same record the client stays in use
while the status begins anew, which is the exception. -/
theorem Found.agrees_registered {record : EngineRecord} (hid : record.id = id)
    (h : Found r' id (some ⟨record, .registered, none⟩)
      (if (r.record? id).any (· ≠ record) then none else r.clients.get? id) r.timeoutMs)
    (hknown : r.isConnected id = true → (r.record? id).isSome = true)
    (hbefore : Agrees (r.entry? id) (r.clients.get? id) r.timeout retained)
    (hkeeps : ∀ found, retained found → Keeps id r)
    (hnext : ∀ found, retained' found
      ↔ Keeps id r' ∧ (Renews id found r (.register record) ∨ retained found)) :
    Agrees (some ⟨record, .registered, none⟩)
      (if (r.record? id).any (· ≠ record) then none else r.clients.get? id) r.timeout retained' := by
  have hunconnected : ∀ e, some (⟨record, .registered, none⟩ : RegistryEntry) = some e →
      e.status ≠ .connected := by
    rintro _ ⟨⟩ ⟨⟩
  cases hclient : r.clients.get? id with
  | none =>
    rw [ite_self]
    exact .of_none hunconnected
  | some client =>
    obtain ⟨e, hentry⟩ :=
      exists_entry_of_known (hknown (isConnected_iff.mpr ⟨client, hclient⟩))
    have hrow : r.record? id = some e.record := congrArg (Option.map _) hentry
    by_cases hsame : e.record = record
    · subst hsame
      have hnone : (r.record? id).any (· ≠ e.record) = false := by simp [hrow]
      rw [hnone, hclient] at h
      rw [hentry, hclient] at hbefore
      rw [hnone]
      refine hbefore.renewed (fun found hretained => ?_) fun found => (hnext found).trans ?_
      · exact Option.isNone_iff_eq_none.mp
          ((usesBuilt_of_entry hentry).symm.trans (hkeeps found hretained).2)
      · rw [and_iff_right ((keeps_iff h).mpr ⟨rfl, _, rfl, rfl⟩)]
        refine or_congr_left ⟨?_, fun hfound => ⟨_, client, rfl, hrow, hclient, hfound⟩⟩
        rintro ⟨_, client', ⟨⟩, -, hclient', hfound⟩
        rw [hclient] at hclient'
        cases hclient'
        exact hfound
    · -- the client was built for another record, and is dropped
      have hany : (r.record? id).any (· ≠ record) = true := by simp [hrow, hsame]
      rw [if_pos hany]
      exact .of_none hunconnected

/-- **Another time-out keeps the agreement.** Built clients are dropped and their engines marked;
what was supplied stays. -/
theorem Found.agrees_retimed {timeoutMs : Nat}
    (h : Found r' id ((r.entry? id).map fun e =>
        if e.supplied.isNone ∧ r.isConnected id then { e with status := .registered } else e)
      (if r.usesBuilt id then none else r.clients.get? id) timeoutMs)
    (hbefore : Agrees (r.entry? id) (r.clients.get? id) r.timeout retained)
    (hkeeps : ∀ found, retained found → Keeps id r)
    (hnext : ∀ found, retained' found → Keeps id r') :
    Agrees (r'.entry? id) (r'.clients.get? id) timeout retained' := by
  cases hentry : r.entry? id with
  | none =>
    rw [hentry] at h
    rw [h.entry]
    exact ⟨by rintro _ ⟨⟩, by rintro _ _ ⟨⟩, by rintro _ _ ⟨⟩⟩
  | some e =>
    have hbuilt := usesBuilt_of_entry hentry
    rw [hentry] at hbefore
    rw [hentry, hbuilt] at h
    cases hsupplied : e.supplied with
    | none =>
      -- the client is dropped if there is one, and an engine without one was not connected
      rw [hsupplied, if_pos Option.isNone_none] at h
      rw [h.entry, h.client, Option.map_some, hsupplied]
      refine .of_none ?_
      rintro _ ⟨⟩ hstatus
      split at hstatus
      · cases hstatus
      · rename_i hunused
        exact hunused ⟨rfl, hbefore.equipped e rfl hstatus⟩
    | some name =>
      rw [hsupplied] at hbuilt
      simp only [Option.map_some, hsupplied, Option.isNone_some, Bool.false_eq_true, false_and,
        if_false] at h
      have hnot (found : Client → Prop) : ¬ retained found := fun hretained =>
        Bool.noConfusion (hbuilt.symm.trans (hkeeps found hretained).2)
      have hnot' (found : Client → Prop) : ¬ retained' found := fun hretained => by
        obtain ⟨-, _, ⟨⟩, hnone⟩ := (keeps_iff h).mp (hnext found hretained)
        rw [hsupplied] at hnone
        cases hnone
      rw [h.entry, h.client]
      refine ⟨hbefore.equipped, fun e' found he hfound => ?_, fun e' found he hfound => ?_⟩
      · exact (hbefore.status e' found he hfound).trans
          (iff_of_true (hnot _) (hnot' _))
      · cases he
        -- a supplied client does not depend on the time-out
        have hsame : e.Asks timeout found ↔ e.Asks r.timeout found := by
          unfold RegistryEntry.Asks
          rw [hsupplied]
        exact hsame.trans ((hbefore.apt e found rfl hfound).trans
          (iff_of_true (hnot _) (hnot' _)))

/-- **An operation keeps the agreement.** One case for each of the ways in which the engine can
fare. -/
theorem Fares.agrees (h : Fares id r r' o)
    (hknown : r.isConnected id = true → (r.record? id).isSome = true)
    (hbefore : Agrees (r.entry? id) (r.clients.get? id) r.timeout retained)
    (hkeeps : ∀ found, retained found → Keeps id r)
    (hnext : ∀ found, retained' found ↔ Keeps id r' ∧ (Renews id found r o ∨ retained found)) :
    Agrees (r'.entry? id) (r'.clients.get? id) r'.timeout retained' := by
  have hnow : Found r id (r.entry? id) (r.clients.get? id) r.timeoutMs := ⟨rfl, rfl, rfl⟩
  unfold timeout
  cases h with
  | rests hother h =>
    have hsame : retained' = retained := by
      funext found
      refine propext ((hnext found).trans
        ⟨fun ⟨_, hor⟩ => hor.resolve_left ?_, fun hretained => ?_⟩)
      · rintro ⟨record, _, ho, hrow, -⟩
        exact hother record ho hrow
      · exact ⟨(keeps_iff h).mpr ((keeps_iff hnow).mp (hkeeps found hretained)), .inr hretained⟩
    rw [h.entry, h.client, h.timeoutMs, hsame]
    exact hbefore
  | registers hid h =>
    rw [h.entry, h.client, h.timeoutMs]
    exact h.agrees_registered hid hknown hbefore hkeeps hnext
  | supplies hid h =>
    rw [h.entry, h.client]
    refine .of_asks rfl rfl fun found hretained => ?_
    obtain ⟨-, _, ⟨⟩, ⟨⟩⟩ := (keeps_iff h).mp ((hnext found).mp hretained).1
  | leaves h =>
    rw [h.entry, h.client]
    exact .of_none (by rintro _ ⟨⟩)
  | connects hentry hnone hasks h =>
    rw [h.entry, h.client, h.timeoutMs]
    refine .of_asks rfl hasks fun found hretained => ?_
    obtain ⟨record, _, ⟨⟩, -⟩ | hretained := ((hnext found).mp hretained).2
    have hconnected := (hkeeps found hretained).1
    rw [isConnected_eq_false_iff.mpr hnone] at hconnected
    cases hconnected
  | parts ho h =>
    rw [h.entry, h.client]
    refine .of_none fun e he => ?_
    obtain ⟨_, -, rfl⟩ := Option.map_eq_some_iff.mp he
    exact EngineStatus.noConfusion
  | retimes h =>
    exact h.agrees_retimed hbefore hkeeps fun found hretained => ((hnext found).mp hretained).1

end Agrees

/-! ## Courses of operations

A course is followed for a single engine, and at its end it is asked whether the agreement holds.
The answer is an equivalence: it fails exactly for clients that were retained. -/

section Courses

variable {id : String}

/-- **A course keeps the agreement.** The proof is by induction, with one case for each kind of
operation. -/
theorem after_agrees (timeout : Duration) (id : String) (course : List Operation) :
    Agrees (Registry.entry? ((new timeout).after course) id)
      (((new timeout).after course).clients.get? id)
      ((new timeout).after course).timeout fun found => (new timeout).Retained id found course := by
  induction course using List.reverseRecOn with
  | nil => exact .of_none (by rintro _ ⟨⟩)
  | append_singleton course o ih =>
    have hidle := (Idle.new timeout).after course
    have hnext (found : Client → Prop) : (new timeout).Retained id found (course ++ [o]) ↔ _ :=
      retained_concat
    rw [after_concat, hidle.alone_task] at hnext ⊢
    exact (o.fares hidle id).agrees (hidle.known id) ih (fun _ => Retained.keeps) hnext

/-- **The status of an engine and its client.** After any operations on a new registry, one after
another, an engine that is said to be connected has a client. An engine that has a client is said to
be connected, unless the client is retained. The exception is not an accident of the statement: if
the client is retained, the engine is not said to be connected although the client is there and is
given to whoever looks for it. -/
theorem status_agrees_iff (timeout : Duration) (course : List Operation) (id : String)
    (hknown : (((new timeout).after course).record? id).isSome = true) :
    let r := (new timeout).after course
    (r.status? id = some .connected → r.isConnected id = true)
      ∧ ((r.isConnected id = true → r.status? id = some .connected)
        ↔ ¬ (new timeout).Retained id (fun _ => True) course) := by
  intro r
  have hagrees : Agrees (r.entry? id) (r.clients.get? id) r.timeout _ :=
    after_agrees timeout id course
  obtain ⟨e, hentry⟩ := exists_entry_of_known hknown
  have hstatus : r.status? id = some e.status := congrArg (Option.map _) hentry
  rw [hstatus, Option.some_inj]
  refine ⟨hagrees.equipped e hentry, ?_⟩
  by_cases hid : r.isConnected id = true
  · obtain ⟨client, hclient⟩ := isConnected_iff.mp hid
    rw [imp_iff_right hid]
    exact hagrees.status e client hentry hclient
  · exact iff_of_true (fun h => absurd h hid) fun hretained => hid hretained.keeps.1

/-- An engine that was registered and connected, and whose client is not retained. It is registered
once, and so there is no exception. -/
theorem connected_unretained :
    let course : List Operation := [.register localEngine, .client "local"]
    let r := (new ⟨30, 0⟩).after course
    (r.record? "local").isSome = true ∧ r.isConnected "local" = true
      ∧ r.status? "local" = some .connected
      ∧ ¬ (new ⟨30, 0⟩).Retained "local" (fun _ => True) course := by
  intro course r
  have hknown : (r.record? "local").isSome = true := by decide +kernel
  have hstatus : r.status? "local" = some .connected := by decide +kernel
  have hagrees := status_agrees_iff ⟨30, 0⟩ course "local" hknown
  exact ⟨hknown, hagrees.1 hstatus, hstatus, hagrees.2.mp fun _ => hstatus⟩

/-- **The same engine registered again** with the same record: it has a client and is not said to be
connected. -/
theorem registered_again_in_use :
    let r := (new ⟨30, 0⟩).after [.register localEngine, .client "local", .register localEngine]
    r.record? "local" = some localEngine ∧ r.isConnected "local" = true
      ∧ r.status? "local" = some .registered
      ∧ ¬ (r.status? "local" = some .connected ↔ r.isConnected "local" = true) := by
  decide +kernel

/-- **The client in use and the client that would be given without it.** After any operations on a
new registry, one after another, the client of a known engine is given if it has one. Once it is
dropped, another look gives the same client anonymously, which is the one that the entry asks for –
unless the client that was dropped is a supplied one and retained, when it gives another one. A
retained client that was built makes no difference here, since the same one would be built again. -/
theorem client_agrees_iff (timeout : Duration) (course : List Operation) {e : RegistryEntry}
    {client : Client} (hentry : entry? ((new timeout).after course) id = some e)
    (hclient : ((new timeout).after course).clients.get? id = some client) :
    let r := (new timeout).after course
    let retained := (new timeout).Retained id Client.IsSupplied course
    (alone (Registry.client id) r).1 = some (.ok client)
      ∧ (∃ found, (alone (Registry.client id) (alone (disconnect id) r).2).1 = some found
          ∧ (Alike (.ok client) found ↔ ¬ retained))
      ∧ (e.Asks r.timeout client ↔ ¬ retained) := by
  intro r retained
  have hidle : Idle r := (Idle.new timeout).after course
  have hasks : e.Asks r.timeout client ↔ ¬ retained :=
    (after_agrees timeout id course).apt e client hentry hclient
  refine ⟨?_, ?_, hasks⟩
  · rw [alone_of_settles (client_found hclient)]
  · have hentry' : entry? (r.disconnectOne id) id = some { e with status := .disconnected } := by
      rw [entry?_disconnectOne, Function.update_self, hentry]
      rfl
    have hnone : (r.disconnectOne id).clients.get? id = none := by
      rw [clients_disconnectOne, Function.update_self]
    have hfree : (r.disconnectOne id).held = false := (held_disconnectOne r id).trans hidle.free
    have htimeout : (r.disconnectOne id).timeout = r.timeout :=
      congrArg Duration.ofMillis (timeoutMs_disconnectOne r id)
    refine ⟨((r.disconnectOne id).connect id).1, ?_, ?_⟩
    · rw [alone_of_settles (disconnect_settles hidle.free),
        alone_of_settles (client_connected hfree hnone)]
    · rw [alike_connect_iff hentry' hnone client, htimeout]
      exact hasks

/-- An engine that is registered with a client is reached through it, before and after its client is
dropped. -/
theorem supplied_unretained :
    let course : List Operation := [.registerWith localEngine "m"]
    let r := (new ⟨30, 0⟩).after course
    r.entry? "local" = some ⟨localEngine, .connected, some "m"⟩
      ∧ r.clients.get? "local" = some (.supplied "m")
      ∧ ¬ (new ⟨30, 0⟩).Retained "local" Client.IsSupplied course
      ∧ ∃ found, (alone (Registry.client "local") (alone (disconnect "local") r).2).1 = some found
        ∧ Alike (.ok (.supplied "m")) found := by
  intro course r
  have hentry : r.entry? "local" = some ⟨localEngine, .connected, some "m"⟩ := by decide +kernel
  have hclient : r.clients.get? "local" = some (.supplied "m") := by decide +kernel
  obtain ⟨-, ⟨found, hfound, halike⟩, hasks⟩ := client_agrees_iff ⟨30, 0⟩ course hentry hclient
  have hnot := hasks.mp rfl
  exact ⟨hentry, hclient, hnot, found, hfound, halike.mpr hnot⟩

/-- **The same engine registered again** with the same record and without a client: it is reached
through the supplied client, and by another one as soon as this is dropped. -/
theorem registered_again_supplied :
    let r := (new ⟨30, 0⟩).after [.registerWith localEngine "m", .register localEngine]
    let found : Client := .built 0 ⟨"local", localEngine.baseUrl, none, ⟨30, 0⟩⟩
    r.entry? "local" = some ⟨localEngine, .registered, none⟩
      ∧ (alone (Registry.client "local") r).1 = some (.ok (.supplied "m"))
      ∧ (alone (Registry.client "local") (alone (disconnect "local") r).2).1 = some (.ok found)
      ∧ ¬ Alike (.ok (.supplied "m")) (.ok found) := by
  unfold Alike
  decide +kernel

end Courses

end Registry

end Testbed

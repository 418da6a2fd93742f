import Testbed.Proofs.Process.Dialogue
import Testbed.Proofs.Process.Log
import Testbed.Proofs.Registry.Lookup
import Testbed.Proofs.Registry.Operation
import Testbed.Proofs.Registry.Reach

/-!
# Calls on the registry, phase by phase

Operations that are performed side by side. `Acts` has every step that one of them can take, with
the phase of the operation before and after it. Two kinds of step are taken without holding the
registry: the quick look for a client, and the swap of the time-out. All others lie between taking
the registry and giving it back.

That the registry is a lock is all in `Custody`: it is held exactly while a call is in a phase that
holds it, and by one call at a time. So whatever a call has seen while it holds the registry remains
true until it gives it back, but for the time-out, which anybody may swap.

A call here is never given up. One that is given up between its two changes leaves the first of them
behind: an engine can be forgotten whose client stays in use.

The steps are listed once, in `Acts`, and every invariant of the registry is then proved by going
through that list and not through the programs of the operations. That an operation takes no other
steps is `Operation.task_follows`.
-/

namespace Testbed.Registry

open Process (follows_bind)

/-- **How far a call on the registry got.** A call holds the registry from `inside` to `served`. In
`waiting` it has taken a step already, and others may do anything before it gets the registry. -/
inductive Phase where
  /-- It has done nothing yet. -/
  | fresh
  /-- It has looked for a client in vain, or swapped the time-out, and now needs the registry. -/
  | waiting
  /-- It has taken the registry. -/
  | inside
  /-- It has found that it can go ahead: the address is free, or the engine is known. -/
  | cleared
  /-- It has made the first of its two changes. -/
  | halfway
  /-- It has done its work and still holds the registry. -/
  | served (reply : Reply)
  /-- It has ended. -/
  | finished (reply : Reply)

namespace Phase

/-- Whether a call holds the registry. It does from the step at which it takes the registry to the
one at which it gives it back. -/
def holds : Phase → Bool
  | inside | cleared | halfway | served _ => true
  | fresh | waiting | finished _ => false

/-- Whether a call has changed no entry and no client so far, nor will: it has not come to its
changes, or it has failed. -/
def blank : Phase → Bool
  | fresh | waiting | inside | cleared | served (.error _) | finished (.error _) => true
  | halfway | served (.ok _) | finished (.ok _) => false

end Phase

namespace Operation

/-- The record that an operation registers. Other operations do not look at addresses. -/
def record? : Operation → Option EngineRecord
  | register record | registerWith record _ => some record
  | _ => none

/-- The phase in which an operation takes the registry. The two that begin with a step of their own
have waited by then. -/
def gate : Operation → Phase
  | client _ | setTimeout _ => .waiting
  | _ => .fresh

/-- **The steps of an operation.** Each changes the registry in one way, and says in which phase the
call is afterwards. That there are no others is `task_follows`. -/
inductive Acts : Operation → Phase → Registry → Registry → Phase → Prop
  /-- It takes the registry, which nobody holds. -/
  | takes {o : Operation} {r : Registry} (hfree : r.held = false) :
      Acts o o.gate r { r with held := true } .inside
  /-- It gives the registry back. -/
  | releases {o : Operation} {r : Registry} {reply : Reply} :
      Acts o (.served reply) r r.release (.finished reply)
  /-- Another engine has the address. -/
  | refuses {o : Operation} {r : Registry} {record : EngineRecord} {owner : String}
      (hrecord : o.record? = some record) (howner : r.addressOwner? record = some owner) :
      Acts o .inside r r (.served (.error (.addressTaken owner record.address)))
  /-- No other engine has the address. -/
  | clears {o : Operation} {r : Registry} {record : EngineRecord}
      (hrecord : o.record? = some record) (howner : r.addressOwner? record = none) :
      Acts o .inside r r .cleared
  /-- It registers its record. -/
  | registers {r : Registry} {record : EngineRecord} :
      Acts (register record) .cleared r (r.putRecord record) (.served (.ok none))
  /-- It registers its record as one that comes with a client. -/
  | supplies {r : Registry} {record : EngineRecord} {name : String} :
      Acts (registerWith record name) .cleared r (r.putSupplied record name) .halfway
  /-- It puts the supplied client in use. -/
  | equips {r : Registry} {record : EngineRecord} {name : String} :
      Acts (registerWith record name) .halfway r (r.putClient record.id (.supplied name))
        (.served (.ok none))
  /-- The engine that it is to forget is known. -/
  | finds {r : Registry} {id : String} (hknown : (r.entry? id).isSome = true) :
      Acts (unregister id) .inside r r .cleared
  /-- The engine that it is to forget is unknown. -/
  | misses {r : Registry} {id : String} (hunknown : ¬ (r.entry? id).isSome = true) :
      Acts (unregister id) .inside r r (.served (.error (.unknown id)))
  /-- It forgets the engine. -/
  | forgets {r : Registry} {id : String} :
      Acts (unregister id) .cleared r (r.dropEntry id) .halfway
  /-- It drops the client of the engine that it forgot. -/
  | drops {r : Registry} {id : String} :
      Acts (unregister id) .halfway r (r.dropClient id) (.served (.ok none))
  /-- It looks for a client in use and finds one. -/
  | spots {r : Registry} {id : String} {found : Client} (hfound : r.clients.get? id = some found) :
      Acts (client id) .fresh r r (.finished (.ok (some found)))
  /-- It looks for a client in use and finds none. -/
  | lacks {r : Registry} {id : String} (hnone : r.clients.get? id = none) :
      Acts (client id) .fresh r r .waiting
  /-- It connects the engine. -/
  | connects {r : Registry} {id : String} :
      Acts (client id) .inside r (r.connect id).2 (.served (.ofClient (r.connect id).1))
  /-- It drops the client of an engine. -/
  | disconnects {r : Registry} {id : String} :
      Acts (disconnect id) .inside r (r.disconnectOne id) (.served (.ok none))
  /-- It drops every client. -/
  | disconnectsEvery {r : Registry} :
      Acts disconnectAll .inside r r.disconnectEvery (.served (.ok none))
  /-- It swaps the time-out for the same one. -/
  | retains {r : Registry} {timeout : Duration} (hsame : r.timeoutMs = millisOf timeout) :
      Acts (setTimeout timeout) .fresh r r (.finished (.ok none))
  /-- It swaps the time-out for another one. -/
  | swaps {r : Registry} {timeout : Duration} (hother : r.timeoutMs ≠ millisOf timeout) :
      Acts (setTimeout timeout) .fresh r { r with timeoutMs := millisOf timeout } .waiting
  /-- It drops every client that was built. -/
  | renews {r : Registry} {timeout : Duration} :
      Acts (setTimeout timeout) .inside r r.dropBuilt (.served (.ok none))

/-- **The dialogue of an operation**: it takes its steps and asks nothing. The registry has nobody
to ask, so the type of questions is empty. -/
def dialogue (o : Operation) : Dialogue Phase Registry Empty (fun _ => Empty) where
  knows _ _ := True
  moves := Acts o
  asks _ _ _ := False
  hears _ _ _ _ := False

section Follows

variable {o : Operation} {α : Type} {p : Process Registry Empty (fun _ => Empty) α}
  {f : α → Reply}

/-- An operation that holds the registry while it does its work. Taking and giving back are steps of
the operation itself. -/
theorem exclusively_follows (hp : p.Follows o.dialogue (fun g a => g = .served (f a)) .inside) :
    (exclusively p).Follows o.dialogue (fun g a => g = .finished (f a)) o.gate := by
  intro r _ hready
  refine ⟨_, .takes ((Bool.not_eq_true' _).mp hready), ?_⟩
  show Process.Follows _ _ _ ((p.onAbandon release).bind fun a => _)
  refine follows_bind.mpr ((hp.onAbandon release).mono ?_)
  rintro _ a rfl
  exact fun r _ _ => ⟨_, .releases, rfl⟩

/-- The reply of an operation is made of what its process gives. Nothing happens while a reply is
put together. -/
theorem follows_reply {g : Phase} (hp : p.Follows o.dialogue (fun g a => g = .finished (f a)) g) :
    Process.Follows o.dialogue (fun g reply => g = .finished reply) g (do return f (← p)) :=
  follows_bind.mpr (hp.mono fun _ _ h => h)

/-- The work of a registration: the address is looked at first. Both kinds of registration begin
with it, and differ in what they do when nobody has the address. -/
theorem registration_follows {record : EngineRecord} (hrecord : o.record? = some record)
    {p : Process Registry Empty (fun _ => Empty) (Except RegistryError Unit)}
    (hp : p.Follows o.dialogue (fun g a => g = .served (.ofUnit a)) .cleared) :
    Process.Follows o.dialogue (fun g a => g = .served (.ofUnit a)) .inside (do
      match ← Process.read (·.addressOwner? record) with
      | some owner => return .error (.addressTaken owner record.address)
      | none => p) := by
  intro r _ _
  show ∃ g', Acts o .inside r r g' ∧ Process.Follows _ _ g'
    ((Process.done (r.addressOwner? record)).bind _)
  cases howner : r.addressOwner? record with
  | some owner => exact ⟨_, .refuses hrecord howner, rfl⟩
  | none => exact ⟨_, .clears hrecord howner, hp⟩

/-- **An operation takes its steps**, from the first phase to the last. One case for each operation.
What a call replies is fixed at the step at which it is served, and is kept until the registry was
given back. -/
theorem task_follows (o : Operation) :
    o.task.Follows o.dialogue (fun g reply => g = .finished reply) .fresh := by
  cases o with
  | register record =>
    refine follows_reply (exclusively_follows (o := .register record)
      (registration_follows rfl ?_))
    exact fun r _ _ => ⟨_, .registers, rfl⟩
  | registerWith record name =>
    refine follows_reply (exclusively_follows (o := .registerWith record name)
      (registration_follows rfl ?_))
    exact fun r _ _ => ⟨_, .supplies, fun r _ _ => ⟨_, .equips, rfl⟩⟩
  | unregister id =>
    refine follows_reply (exclusively_follows (o := .unregister id) ?_)
    intro r _ _
    show ∃ g', Acts (.unregister id) .inside r r g' ∧ Process.Follows _ _ g'
      (if (r.entry? id).isSome = true then _ else _)
    by_cases hknown : (r.entry? id).isSome = true
    · rw [if_pos hknown]
      exact ⟨_, .finds hknown, fun r _ _ => ⟨_, .forgets, fun r _ _ => ⟨_, .drops, rfl⟩⟩⟩
    · rw [if_neg hknown]
      exact ⟨_, .misses hknown, rfl⟩
  | client id =>
    refine follows_reply (o := .client id) ?_
    intro r _ _
    show ∃ g', Acts (.client id) .fresh r r g' ∧ Process.Follows _ _ g'
      ((Process.done (r.clients.get? id)).bind _)
    cases hclient : r.clients.get? id with
    | some found => exact ⟨_, .spots hclient, rfl⟩
    | none =>
      refine ⟨_, .lacks hclient, exclusively_follows (o := .client id) ?_⟩
      exact fun r _ _ => ⟨_, .connects, rfl⟩
  | disconnect id =>
    refine follows_reply (exclusively_follows (o := .disconnect id) ?_)
    exact fun r _ _ => ⟨_, .disconnects, rfl⟩
  | disconnectAll =>
    refine follows_reply (exclusively_follows (o := .disconnectAll) ?_)
    exact fun r _ _ => ⟨_, .disconnectsEvery, rfl⟩
  | setTimeout timeout =>
    refine follows_reply (o := .setTimeout timeout) ?_
    intro r _ _
    show ∃ g', Acts (.setTimeout timeout) .fresh r { r with timeoutMs := millisOf timeout } g'
      ∧ Process.Follows _ _ g' (if r.timeoutMs = millisOf timeout then _ else _)
    by_cases hsame : r.timeoutMs = millisOf timeout
    · rw [if_pos hsame, ← hsame]
      exact ⟨_, .retains hsame, rfl⟩
    · rw [if_neg hsame]
      refine ⟨_, .swaps hsame, exclusively_follows (o := .setTimeout timeout) ?_⟩
      exact fun r _ _ => ⟨_, .renews, rfl⟩

end Follows

end Operation

/-! ## Who holds the registry

At most one call holds it, and while it does the others can change nothing but the time-out. That is
shown of every phase in which a call can be, and so the holder's own knowledge is not outdated by
others. -/

/-- **A change that touches no entry and no client.** The time-out may be another one afterwards,
and statuses are part of the entries. -/
structure Spares (r r' : Registry) : Prop where
  /-- The entries stay. -/
  entries : r'.entries = r.entries
  /-- The clients stay in use. -/
  clients : r'.clients = r.clients

namespace Spares

variable {r r' : Registry}

theorem refl (r : Registry) : Spares r r := ⟨rfl, rfl⟩

theorem entry? (h : Spares r r') : r'.entry? = r.entry? := congrArg Dict.get? h.entries

theorem record? (h : Spares r r') : r'.record? = r.record? := by
  rw [record?_eq_comp, h.entry?]
  rfl

theorem isConnected (h : Spares r r') : r'.isConnected = r.isConnected :=
  congrArg Dict.contains h.clients

end Spares

/-- **The registry as a lock**: it is held exactly while a call is in a phase that holds it, and
there is one such call at a time. With both, whoever holds the registry knows that nobody else does.
-/
structure Custody {ι : Type} (r : Registry) (phase : ι → Phase) : Prop where
  /-- The registry is held while a call holds it. -/
  held : r.held = true ↔ ∃ i, (phase i).holds = true
  /-- No two calls hold it. -/
  alone : ∀ i j, (phase i).holds = true → (phase j).holds = true → i = j

namespace Operation.Acts

variable {o : Operation} {g g' : Phase} {r r' : Registry}

/-- A step leaves the registry with whom it was, takes it while nobody holds it, or gives it
back. -/
theorem passes (h : Acts o g r r' g') :
    g'.holds = g.holds ∧ r'.held = r.held
      ∨ g.holds = false ∧ r.held = false ∧ g'.holds = true ∧ r'.held = true
      ∨ g.holds = true ∧ g'.holds = false ∧ r'.held = false := by
  cases h with
  | takes hfree =>
    refine .inr (.inl ⟨?_, hfree, rfl, rfl⟩)
    cases o with
    | _ => rfl
  | releases => exact .inr (.inr ⟨rfl, rfl, rfl⟩)
  | connects => exact .inl ⟨rfl, held_connect _ _⟩
  | disconnects => exact .inl ⟨rfl, held_disconnectOne _ _⟩
  | _ => exact .inl ⟨rfl, rfl⟩

/-- **Who does not hold the registry touches no entry and no client.** The swap of the time-out is
the one change that is made outside, and it is neither an entry nor a client. -/
theorem spares (h : Acts o g r r' g') (hg : g.holds = false) : Spares r r' := by
  cases h with
  | takes | spots | lacks | retains | swaps => exact ⟨rfl, rfl⟩
  | _ => cases hg

/-- **A call that is blank after a step has touched no entry and no client at it**, and was blank
before. So the steps of a call that ends with an error can be looked at from its end: it was blank
all the time. -/
theorem blank (h : Acts o g r r' g') (hblank : g'.blank = true) :
    g.blank = true ∧ Spares r r' := by
  cases h with
  | takes =>
    refine ⟨?_, rfl, rfl⟩
    cases o with
    | _ => rfl
  | @releases _ _ reply =>
    cases reply with
    | error e => exact ⟨rfl, rfl, rfl⟩
    | ok found => cases hblank
  | @connects r id =>
    refine ⟨rfl, ?_⟩
    -- a client that cannot be built leaves everything as it is
    obtain ⟨hsame, -⟩ | ⟨_, found, _, -, -, hok, -⟩ := connect_cases r id
    · rw [hsame]
      exact .refl r
    · rw [hok] at hblank
      cases hblank
  | refuses | clears | finds | misses | lacks | swaps => exact ⟨rfl, rfl, rfl⟩
  | _ => cases hblank

end Operation.Acts

/-! ## Calls side by side

Any number of calls, each with its operation, in any order of turns. What follows holds of all of
them at once, since the only thing that is known of a turn is that somebody took a step. -/

/-- What happened at a turn of a call. It is one of the steps, as no call asks anything. -/
abbrev Happening := Crew.Happening Registry Empty (fun _ => Empty)

section Calls

variable {ι : Type} [DecidableEq ι] {timeout : Duration} {ops : ι → Operation} {turns : List ι}
  {r r' : Registry} {phase : ι → Phase} {i : ι} {g' : Phase}

/-- Who holds the registry is known after every step. Taking, giving back and working are looked at
one by one. -/
theorem Custody.acts (h : Custody r phase) (hact : (ops i).Acts (phase i) r r' g') :
    Custody r' (Function.update phase i g') := by
  obtain ⟨hsame, hheld⟩ | ⟨-, hfree, hg', hheld⟩ | ⟨hg, hg', hheld⟩ := hact.passes
  · have hholds : ∀ j, (Function.update phase i g' j).holds = (phase j).holds :=
      (Function.forall_update_iff phase (fun j g => g.holds = (phase j).holds)).mpr
        ⟨hsame, fun _ _ => rfl⟩
    refine ⟨?_, fun j k => ?_⟩
    · simp only [hheld, hholds]
      exact h.held
    · rw [hholds, hholds]
      exact h.alone j k
  · -- nobody held it before, so only the call that has taken it does
    have hnone : ∀ j, (phase j).holds ≠ true := fun j hj => by
      rw [h.held.mpr ⟨j, hj⟩] at hfree
      cases hfree
    have honly : ∀ j, (Function.update phase i g' j).holds = true → j = i :=
      (Function.forall_update_iff phase (fun j g => g.holds = true → j = i)).mpr
        ⟨fun _ => rfl, fun j _ hj => absurd hj (hnone j)⟩
    refine ⟨iff_of_true hheld ⟨i, ?_⟩, fun j k hj hk => (honly j hj).trans (honly k hk).symm⟩
    rw [Function.update_self]
    exact hg'
  · have hnone : ∀ j, (Function.update phase i g' j).holds ≠ true :=
      (Function.forall_update_iff phase (fun _ g => g.holds ≠ true)).mpr
        ⟨by rw [hg']; exact Bool.false_ne_true, fun j hji hj => hji (h.alone j i hj hg)⟩
    refine ⟨iff_of_false (by rw [hheld]; exact Bool.false_ne_true) fun ⟨j, hj⟩ => hnone j hj,
      fun j k hj => absurd hj (hnone j)⟩

/-- Who has done something has had a turn. The log has one entry more, and it is his. -/
theorem begun_update {log : List (ι × Happening)} {happening : Happening}
    (h : ∀ i, phase i ≠ .fresh → Crew.Begun i log) :
    ∀ j, Function.update phase i g' j ≠ .fresh → Crew.Begun j (log ++ [(i, happening)]) := by
  refine (Function.forall_update_iff phase fun j g => g ≠ .fresh →
    Crew.Begun j (log ++ [(i, happening)])).mpr ⟨fun _ => ?_, fun j _ hj => ?_⟩
  · exact Crew.begun_append.mpr (.inr rfl)
  · exact Crew.begun_append.mpr (.inl (h j hj))

/-- **Calls on a new registry**, of which one after another has a turn. No call is given up, and a
turn at which a call cannot go on does nothing. -/
def calls (timeout : Duration) (ops : ι → Operation) (turns : List ι) :
    Crew ι Registry Empty (fun _ => Empty) (fun _ => Reply) :=
  (Crew.start (new timeout) fun i => (ops i).task).run (turns.map fun i => (i, .go Empty.elim))

/-- **Invariants of calls.** What holds of a new registry, an empty log and calls that have done
nothing, and is kept by every step, holds after any turns. It is `Crew.run_keeps` for the registry,
with the dialogue of operations filled in. -/
theorem calls_keep (timeout : Duration) (ops : ι → Operation) (turns : List ι)
    (Inv : Registry → List (ι × Happening) → (ι → Phase) → Prop)
    (hstart : Inv (new timeout) [] fun _ => .fresh)
    (hacts : ∀ r log phase, Inv r log phase → ∀ i r' g', (ops i).Acts (phase i) r r' g' →
      Inv r' (log ++ [(i, .moved r r')]) (Function.update phase i g')) :
    ∃ phase, Inv (calls timeout ops turns).state (calls timeout ops turns).log phase
      ∧ ∀ i, ((calls timeout ops turns).stand i).Follows (ops i).dialogue
        (fun g reply => g = .finished reply) (phase i) := by
  have hpatient : ∀ t ∈ turns.map fun i => (i, (.go Empty.elim : Crew.Turn Empty fun _ => Empty)),
      t.2.Patient fun (_ _ : Empty) => True := by
    intro t ht
    obtain ⟨i, -, rfl⟩ := List.mem_map.mp ht
    exact fun _ => trivial
  have hfollows : ∀ i, ((calls timeout ops []).stand i).Follows (ops i).dialogue
      (fun g reply => g = .finished reply) .fresh := fun i => (ops i).task_follows
  refine Crew.run_keeps (fun i => (ops i).dialogue) _ Inv (fun _ _ _ _ _ => trivial) ?_ hstart
    hfollows hpatient
  intro r log phase hinv i happening r' g' hadvances
  cases hadvances with
  | moved hact => exact hacts r log phase hinv i r' g' hact
  | put hasks => exact hasks.elim
  | answered _ hhears => exact hhears.elim

/-- **Nothing happens but that calls take their steps.** So whatever all steps keep holds at the
end. -/
theorem calls_acted : ∀ x ∈ (calls timeout ops turns).log,
    ∃ s s' g g', x.2 = .moved s s' ∧ (ops x.1).Acts g s s' g' := by
  obtain ⟨-, hacted, -⟩ := calls_keep timeout ops turns
    (fun _ log _ => ∀ x ∈ log, ∃ s s' g g', x.2 = .moved s s' ∧ (ops x.1).Acts g s s' g')
    (List.forall_mem_nil _) fun r log phase hlog i r' g' hact => List.forall_mem_append.mpr
      ⟨hlog, List.forall_mem_singleton.mpr ⟨r, r', phase i, g', rfl, hact⟩⟩
  exact hacted

theorem calls_moved : ∀ x ∈ (calls timeout ops turns).log, ∃ s s', x.2 = .moved s s' := by
  intro x hx
  obtain ⟨s, s', -, -, hmoved, -⟩ := calls_acted x hx
  exact ⟨s, s', hmoved⟩

/-- The log goes through all states of the registry. What one turn leaves is what the next one
finds. -/
theorem calls_chained : Crew.Chained (new timeout) (calls timeout ops turns).log
    (calls timeout ops turns).state := by
  have hstart : Crew.Chained (new timeout) (calls timeout ops []).log
      (calls timeout ops []).state := rfl
  exact Crew.run_chained hstart _

/-- A call that has a result has ended with it. What the dialogue says of a finished call can then
be said of one with a result. -/
theorem finished_of_result {g : Phase} {o : Operation} {reply : Reply}
    {stand : Crew.Stand Registry Empty (fun _ => Empty) Reply}
    (h : stand.Follows o.dialogue (fun g reply => g = .finished reply) g)
    (hresult : stand.result? = some reply) : g = .finished reply := by
  obtain ⟨reply', hresult', hg⟩ := h.of_ended (Crew.ended_of_result hresult)
  rw [hresult] at hresult'
  cases hresult'
  exact hg

end Calls

end Testbed.Registry

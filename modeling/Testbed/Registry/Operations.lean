import Testbed.Process
import Testbed.Registry.Basic

/-!
# Operations of the engine registry

The operations that calls perform side by side. All but the quick look for a client in use take the
registry for themselves first; the ones that change both the entries and the clients do so one after
the other, and a call that looks for a client in between sees the first change only. The time-out is
swapped without taking the registry.

An operation that is abandoned while it holds the registry gives it back, and leaves the changes
that it has made.
-/

namespace Testbed.Registry

variable {Q α : Type} {R : Q → Type}

/-- Gives the registry back. What has been changed while it was held stays. -/
def release (r : Registry) : Registry := { r with held := false }

/-- Holds the registry while a process runs. It waits for its turn first. It is given back when the
process ends and when it is abandoned, so nobody waits for one that is gone. -/
def exclusively (p : Process Registry Q R α) : Process Registry Q R α := do
  Process.whenReady (fun r => !r.held) (fun r => ((), { r with held := true }))
  let a ← p.onAbandon release
  (Process.change release).onAbandon release
  return a

/-- Reads the registry while nobody holds it. A look of one step does not have to hold it. -/
def inspect (f : Registry → α) : Process Registry Q R α :=
  Process.whenReady (fun r => !r.held) (fun r => (f r, r))

/-- Registers an engine. The address is tested while the registry is held, so of two engines with
one address the first to hold it is registered. -/
def register (record : EngineRecord) : Process Registry Q R (Except RegistryError Unit) :=
  exclusively do
    match ← Process.read (·.addressOwner? record) with
    | some owner => return .error (.addressTaken owner record.address)
    | none =>
      Process.change (·.putRecord record)
      return .ok ()

/-- Registers an engine that is reached through a supplied client. The entry is written before the
client, so somebody who asks for the client in between is still given the one that was in use, if
there was one. -/
def registerWith (record : EngineRecord) (name : String) :
    Process Registry Q R (Except RegistryError Unit) :=
  exclusively do
    match ← Process.read (·.addressOwner? record) with
    | some owner => return .error (.addressTaken owner record.address)
    | none =>
      Process.change (·.putSupplied record name)
      Process.change (·.putClient record.id (.supplied name))
      return .ok ()

/-- Forgets an engine and drops its client. Whoever has been given the client before may go on using
it. -/
def unregister (id : String) : Process Registry Q R (Except RegistryError Unit) :=
  exclusively do
    if ← Process.read (fun r => (r.entry? id).isSome) then
      Process.change (·.dropEntry id)
      Process.change (·.dropClient id)
      return .ok ()
    else return .error (.unknown id)

/-- **The client of an engine.** One in use is given out at once. Only if there is none the registry
is taken, and then it is looked again, since somebody else may have built one meanwhile; this is why
no engine gets two. -/
def client (id : String) : Process Registry Q R (Except RegistryError Client) := do
  match ← Process.read (·.clients.get? id) with
  | some client => return .ok client
  | none => exclusively (Process.atomically (·.connect id))

/-- Drops the client of an engine. That there was none, or that the engine is not known, is no
error. -/
def disconnect (id : String) : Process Registry Q R Unit :=
  exclusively (Process.change (·.disconnectOne id))

/-- Drops every client. It is one step, so nobody finds some of them dropped and others in use. -/
def disconnectAll : Process Registry Q R Unit :=
  exclusively (Process.change disconnectEvery)

/-- Changes how long answers are waited for. Built clients are dropped if the time-out differs from
the one before. Whoever swaps the time-out to the same value does nothing more, even if another call
is just about to drop the clients. -/
def setTimeout (timeout : Duration) : Process Registry Q R Unit := do
  let ms := millisOf timeout
  let before ← Process.atomically (fun r => (r.timeoutMs, { r with timeoutMs := ms }))
  if before = ms then return ()
  else exclusively (Process.change dropBuilt)

end Testbed.Registry

import Testbed.Proofs.Controller.State
import Testbed.Proofs.Node.Conduct

/-!
# Operations on nodes in the control plane

An operation of a node becomes one of the control plane by looking at the node's cell, asking the
registry for the client and the engine for the answers. What it did to the node it now does to the
cell, and the registry's own steps come in between. None of this is of any matter to the projects:
every step is `Controller.Steady`.

The rules of conduct of a node's operation concern requests: of which kind they are, and for which
identity of the node they may be put. In the control plane the same rules hold of the cell under a
handle. The steps in between that are the registry's own put no question to an engine
(`Registry.client_silent`), and they are steady because they change the registry only.
-/

namespace Testbed

open Process (obeys_andThen obeys_bind)

/-- The protocol of processes that put no question, and may do anything else. Obeying it is asking
nothing. -/
def Protocol.silent (σ Q : Type) : Protocol Unit σ Q where
  knows _ _ := True
  moves _ _ _ _ := True
  puts _ _ := False
  quits _ _ _ _ := True

/-- Looking for a client asks nobody. Building a client needs no engine. -/
theorem Registry.client_silent {Q : Type} {R : Q → Type} (id : String) :
    (Registry.client id : Process Registry Q R _).Obeys (.silent Registry Q) (fun _ _ => True)
      () := by
  refine obeys_bind.mpr ⟨fun r _ _ => ⟨(), trivial, ?_⟩, fun _ _ => ⟨(), trivial⟩⟩
  show Process.Obeys _ _ () (Process.done (r.clients.get? id))
  cases r.clients.get? id with
  | some client => trivial
  | none =>
    refine ⟨fun r _ _ => ⟨(), trivial, fun r _ _ => ⟨(), trivial, fun r _ _ => ⟨(), trivial, ?_⟩,
      ?_⟩, ?_⟩, ?_⟩
    · trivial
    all_goals exact fun _ _ => ⟨(), trivial⟩

namespace Controller

/-- **The protocol of operations on a node under a handle**: the identity of the node has a
property, every step is steady for a project, and the requests are of some kind. The identity is the
only thing that is known of the node, and no steady step changes it. -/
def conduct (p : ProjectHandle) (h : NodeHandle) (known : Node.Identity → Prop)
    (kind : Request → Prop) : Protocol Unit Controller Call where
  knows _ c := known (c.node h).identity
  moves _ c c' _ := Steady p (fun project => project) c c'
  puts _ call := kind call.request
  quits _ c c' _ := Steady p (fun project => project) c c'

variable {α : Type} {p : ProjectHandle} {h : NodeHandle} {known : Node.Identity → Prop}
  {kind : Request → Prop}

/-- Asking the registry for a client, on behalf of an operation that leaves the node as it is when
it is abandoned. -/
theorem client_conducted {id : String} {abandon : Controller → Controller}
    (habandon : ∀ c, known (c.node h).identity → Steady p (fun project => project) c (abandon c)) :
    ((onRegistry (Registry.client id)).onAbandon abandon).Obeys (conduct p h known kind)
      (fun g' _ => g' = ()) () := by
  have hclient := (Registry.client_silent (Q := Call) (R := fun _ => Answer) id).zoom
    Controller.registry setRegistry
  refine Process.Obeys.onAbandon (hclient.embed (fun _ _ => trivial) ?_ ?_ ?_ (fun _ _ => rfl))
  · rintro c _ ⟨⟩ - ⟨r, -, rfl⟩
    exact ⟨rfl, .setRegistry p r c⟩
  · rintro question ⟨⟩
  · rintro c _ ⟨⟩ hc ⟨r, -, rfl⟩
    exact ⟨(), (Steady.setRegistry p r c).trans (habandon _ hc)⟩

/-- **A node's operation keeps its conduct in the control plane.** So what is known of the requests
of an operation is known of those that are sent by the control plane on its behalf, also when the
operation is abandoned while it waits for a client or for an answer. -/
theorem onNode_obeys {op : Node.Op α} (hop : Node.Conducted known kind op) :
    (onNode h op).run.Obeys (conduct p h known kind) (fun _ _ => True) () := by
  have hzoom := Process.Obeys.zoom (fun c : Controller => c.node h) (setNode h) hop
  refine Process.Obeys.handle (fun _ _ hc => hc) ?_ ?_ ?_ hzoom
  · rintro ⟨⟩ c _ ⟨⟩ - ⟨n, hn, rfl⟩
    exact .setNode p hn
  · rintro ⟨⟩ c _ ⟨⟩ - ⟨n, rfl, rfl⟩
    exact .setNode p rfl
  · rintro ⟨⟩ question abandon hput hquit
    have habandon : ∀ c, known (c.node h).identity →
        Steady p (fun project => project) c (abandon c) := by
      intro c hc
      obtain ⟨⟨⟩, n, rfl, heq⟩ := hquit c hc
      rw [heq]
      exact .setNode p rfl
    cases question with
    | engine id => exact client_conducted habandon
    | send call => exact ⟨hput, fun answer => rfl, fun c hc => ⟨(), habandon c hc⟩⟩

end Controller

end Testbed

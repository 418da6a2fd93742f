import Testbed.Proofs.Node.Identity
import Testbed.Proofs.Node.Stage
import Testbed.Proofs.Process.Protocol

/-!
# Operations of a node among others

Between the steps of an operation others may have changed the node, so that only what nobody ever
changes can be relied on: its identity. The rules say how an operation conducts itself that relies
on no more, keeps the identity in turn, and sends only requests of some kind.

That is what a project can say of an operation that it starts on one of its nodes while other calls
have the node's handle as well. It does not know in which state the operation will find the node,
and it does not have to: what it claims for its own calls is about identifiers and about the
requests that are sent for them.
-/

namespace Testbed.Node

open Process (obeys_andThen)

/-- The identity of nodes, as a type. Five things that no operation changes. -/
abbrev Identity := Uuid × Uuid × String × NodeType × OsPath

/-- **The protocol of operations of a node**: the identity of the node has a property and is kept,
and the requests are of some kind. An operation that is abandoned leaves the node as it is. Nothing
is remembered from step to step, hence the unit as what is known. -/
def conduct (known : Identity → Prop) (kind : Request → Prop) : Protocol Unit Node Question where
  knows _ n := known n.identity
  moves _ n n' _ := n'.identity = n.identity
  puts _ question :=
    match question with
    | .engine _ => True
    | .send call => kind call.request
  quits _ n n' _ := n' = n

variable {α β : Type} {known : Identity → Prop} {kind : Request → Prop}

/-- An operation keeps to the protocol of operations, whatever comes of it. The two parameters say
which nodes it may be about and which requests it may send. -/
def Conducted (known : Identity → Prop) (kind : Request → Prop) (x : Op α) : Prop :=
  x.run.Obeys (conduct known kind) (fun _ _ => True) ()

theorem conducted_throw (e : ControlError) : Conducted known kind (throw e : Op α) := trivial

theorem conducted_andThen {x : Op α} {f : α → Op β} (hx : Conducted known kind x)
    (hf : ∀ a, Conducted known kind (f a)) : Conducted known kind (x >>= f) := by
  refine obeys_andThen.mpr (hx.mono ?_)
  rintro ⟨⟩ (e | a) -
  · trivial
  · exact hf a

/-- Looking at the node, which is known by its identity. Its settings may be anything. -/
theorem conducted_self_andThen {f : Node → Op α}
    (hf : ∀ n : Node, known n.identity → Conducted known kind (f n)) :
    Conducted known kind (self >>= f) :=
  ⟨fun n hn _ => ⟨(), rfl, hf n hn⟩, fun _ _ => ⟨(), rfl⟩⟩

theorem conducted_edit {f : Node → Node} (hf : ∀ n, (f n).identity = n.identity) :
    Conducted known kind (edit f) :=
  ⟨fun n _ _ => ⟨(), hf n, trivial⟩, fun _ _ => ⟨(), rfl⟩⟩

theorem conducted_findEngine : Conducted known kind findEngine := by
  refine conducted_self_andThen fun _ _ => ⟨trivial, fun result => ?_, fun _ _ => ⟨(), rfl⟩⟩
  cases result with
  | ok client => trivial
  | error e => trivial

theorem conducted_send {client : Client} {request : Request} (h : kind request) :
    Conducted known kind (send client request) := by
  refine ⟨h, fun answer => ?_, fun _ _ => ⟨(), rfl⟩⟩
  cases answer with
  | ok report => trivial
  | error e => trivial

/-! ## The two operations that projects perform

Adding a node creates it and closing deletes it. What these two may send is all that a project has
to know of them. -/

/-- Whether a request creates a node whose identity has a property. The body is that of this node.
-/
def CreatesSome (known : Identity → Prop) (r : Request) : Prop :=
  ∃ n : Node, known n.identity ∧ r = Stage.create.request n

/-- **Creating a node sends the request for it and no other.** The request names the identifier of
the node in its body, and that is why the identity has to be kept. -/
theorem create_conducted (known : Identity → Prop) :
    Conducted known (CreatesSome known) create := by
  refine conducted_self_andThen fun n hn => ?_
  by_cases hp : n.status ≠ .pending
  · rw [if_pos hp]
    exact conducted_throw _
  · rw [if_neg hp]
    refine conducted_andThen conducted_findEngine fun client => ?_
    refine conducted_andThen (conducted_send ⟨n, hn, rfl⟩) fun report => ?_
    exact conducted_edit fun n => merge_identity n report

/-- **Destroying a node sends no request but a deletion.** So destroying is never mistaken for a
creation, of whatever node. -/
theorem destroy_conducted (known : Identity → Prop) :
    Conducted known (fun r => r.method = .delete) destroy := by
  refine conducted_self_andThen fun n _ => ?_
  cases n.status with
  | deleted => exact conducted_throw _
  | pending => exact conducted_edit fun n => rfl
  | created | started | stopped | suspended =>
    refine conducted_andThen conducted_findEngine fun client => ?_
    exact conducted_andThen (conducted_send rfl) fun report => conducted_edit fun n => rfl

end Testbed.Node

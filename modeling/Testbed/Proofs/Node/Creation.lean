import Testbed.Proofs.Dict
import Testbed.Proofs.Node.Stage
import Testbed.Proofs.Uuid

/-!
# What the request for a node says

The request that creates a node names the node's identifier in its body, so which identifier a
request creates a node for can be read off it (`Creates.unique`).

Engines and projects never see a creation as such. What they see is a request to a path that all
nodes of a project and a type share, so that the identifier in the body is the only thing that tells
one creation from another. It cannot be overwritten by a property, since the node's own members come
first.
-/

namespace Testbed.Node

variable {id id' : Uuid} {r : Request}

/-- **Whether a request creates a node with an identifier.** The rest of the node may be anything:
the type that gives the path, the properties, the engine. -/
def Creates (id : Uuid) (r : Request) : Prop := ∃ n : Node, n.id = id ∧ r = Stage.create.request n

/-- What the body says besides the properties. -/
def ownMembers (n : Node) : List (String × Json) :=
  [("vm_id", .str n.id.text), ("name", .str n.name), ("console_type", .str n.consoleType.text)]
    ++ (n.console.map (fun c => ("console", Json.nat c))).toList
    ++ (if n.adapters > 0 then [("adapters", .nat n.adapters)] else [])

theorem nodup_ownMembers (n : Node) : (n.ownMembers.map (·.1)).Nodup := by
  unfold ownMembers
  cases n.console <;> split <;> simp

/-- **What the body says under a key**: the node's own members come before the properties. A
property that is `null` is left out. -/
theorem createBody_get (n : Node) (key : String) :
    n.createBody.get? key
      = (Dict.getEntry key n.ownMembers).or
          ((n.properties.get? key).filter fun value => !value.isNull) := by
  have hproperties := Dict.get_filter n.properties (fun _ value => !value.isNull) key
  rw [← Dict.get_ofList n.nodup_ownMembers, ← hproperties, ← Dict.get_overlay]
  rfl

/-- The body names the identifier, whatever the other properties of the node are. -/
theorem createBody_get_id (n : Node) : n.createBody.get? "vm_id" = some (.str n.id.text) := by
  have hown : Dict.getEntry "vm_id" n.ownMembers = some (.str n.id.text) := rfl
  rw [createBody_get, hown, Option.some_or]

/-- **A request creates a node for one identifier.** So to say that at most one creation of a node
is under way is to say something about requests. -/
theorem Creates.unique (h : Creates id r) (h' : Creates id' r) : id = id' := by
  obtain ⟨n, rfl, rfl⟩ := h
  obtain ⟨m, rfl, heq⟩ := h'
  have hbody : n.createBody = m.createBody :=
    Dict.ext_entries (Json.obj.inj (Option.some.inj (Request.mk.inj heq).2.2))
  have hget := createBody_get_id n
  rw [hbody, createBody_get_id] at hget
  exact Uuid.text_inj.mp (Json.str.inj (Option.some.inj hget.symm))

/-- A request that creates a node deletes nothing. -/
theorem Creates.method (h : Creates id r) : r.method = .post := by
  obtain ⟨n, -, rfl⟩ := h
  rfl

end Testbed.Node

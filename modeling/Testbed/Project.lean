import Testbed.Node.Basic

/-!
# Projects

A project is a named container of nodes. It knows its nodes by their identifiers and keeps, beside
them, the identifiers of nodes that are being created: these are claimed before an engine hears of
the node, so that of two nodes with one identifier only one is ever created.

A claim is no entry. Nobody finds the node by it, and closing the project does not wait for it. It
is taken back when the creation has ended, after the entry was made if it succeeded.
-/

namespace Testbed

/-- Where a node is kept. Nodes are kept in a table of their own, and a project knows the places. A
handle that was given out stays good when the project is closed or the node is deleted. -/
abbrev NodeHandle := Nat

/-- **A project.** Entries and claims are kept apart, and an identifier is free only where it is in
neither. -/
structure Project where
  /-- The identifier. -/
  id : Uuid
  /-- The name. -/
  name : String
  /-- The project's directory. -/
  path : OsPath
  /-- The nodes. -/
  nodes : Dict Uuid NodeHandle := .empty
  /-- The claimed identifiers. -/
  claimed : List Uuid := []
  deriving Inhabited

namespace Project

/-- A project without nodes, kept in the directory of its identifier. Two projects have different
directories under one root, since the texts of their identifiers differ. -/
def new (root : OsPath) (id : Uuid) (name : String) : Project where
  id
  name
  path := root.join id.text

/-- Where the capture files of the project's nodes go. It lies two levels below the project's own
directory. -/
def captureDir (p : Project) : OsPath := (p.path.join "project-files").join "captures"

/-- Whether an identifier is free. It is asked and acted upon in one step, or the answer would be
out of date. -/
def isFree (p : Project) (id : Uuid) : Bool := !p.nodes.contains id && !p.claimed.contains id

/-- Claims an identifier. It is put in front, and nobody depends on the order. -/
def claim (p : Project) (id : Uuid) : Project := { p with claimed := id :: p.claimed }

/-- Gives up the claim on an identifier. An identifier that is not claimed is no fault. -/
def unclaim (p : Project) (id : Uuid) : Project :=
  { p with claimed := p.claimed.filter (· ≠ id) }

/-- Takes in a node. An entry that was there under the identifier is replaced; that there is none is
ensured by the claim. -/
def put (p : Project) (id : Uuid) (node : NodeHandle) : Project :=
  { p with nodes := p.nodes.insert id node }

/-- Forgets the node with an identifier. The node itself is left alone, and whoever has its handle
can go on using it. -/
def drop (p : Project) (id : Uuid) : Project := { p with nodes := p.nodes.erase id }

/-- The description of the project that is handed out. There is none if no text names the project's
directory. Of the nodes it gives the number. -/
def info (p : Project) : Option Json :=
  p.path.text?.map (fun path => .mkObj
    [("project_id", .str p.id.text), ("name", .str p.name), ("path", .str path),
      ("nodes", .nat p.nodes.size)])

end Project

end Testbed

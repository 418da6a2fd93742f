import Testbed.Proofs.Project.Removal

/-!
# Closing a project, request by request

`Project.Removal` says what deleting nodes does to a project and whether it comes to an end. Here it
is told in full, with every request. The deletion of a node that was created sends one request, to
the node's engine, unless the engine is not there or the node is deleted already (`Deletion`). A
deletion that succeeds is one that the engine confirmed, so a project that is closed has sent one
request for each node that is gone, in order, and at most one more, for the node at which it stopped
(`Closure`).

What becomes of the nodes is said once and for all projects together (`Without`): some are deleted
and their entries are gone, and everything else about nodes is as before. Such changes compose, and
so later deletions can be described by the nodes as they were at the beginning. It takes that no two
entries lead to one node and that nodes are found under their own identifiers, and these are parts
of what it means for a control plane to be in order (`Orderly`).
-/

namespace Testbed

open Process (meets_andThen)

namespace Node

/-! ## Destroying a node

A deletion is followed first for the node by itself, with every question and answer. It is then
carried over to the control plane, where the lookups are answered by its own registry. -/

/-- **The ways in which destroying a node can go**, with every question. -/
inductive Passing (n : Node) : Record Unit → Prop
  /-- The node is deleted already. -/
  | repeated (h : n.status = .deleted) :
      Passing n ⟨[], some (.error (.conflict (.alreadyDeleted n.id))), n⟩
  /-- It was never created. -/
  | unborn (h : n.status = .pending) : Passing n ⟨[], some (.ok ()), n.buried⟩
  /-- It is given up while the engine is looked for. -/
  | unfound : Passing n ⟨[⟨n, .engine n.engine, none⟩], none, n⟩
  /-- The engine is not found. -/
  | missing (e : RegistryError) :
      Passing n ⟨[⟨n, .engine n.engine, some (.error e)⟩], some (.error (engineMissing e)), n⟩
  /-- The engine confirms. -/
  | confirmed (client : Client) (report : Json) :
      Passing n ⟨[⟨n, .engine n.engine, some (.ok client)⟩,
        ⟨n, .send ⟨client, .delete n.path⟩, some (.ok report)⟩], some (.ok ()), n.buried⟩
  /-- The engine refuses. -/
  | refused (client : Client) (e : EngineError) :
      Passing n ⟨[⟨n, .engine n.engine, some (.ok client)⟩,
        ⟨n, .send ⟨client, .delete n.path⟩, some (.error e)⟩], some (.error (.ofEngine e)), n⟩
  /-- It is given up while the engine is asked. -/
  | unanswered (client : Client) :
      Passing n ⟨[⟨n, .engine n.engine, some (.ok client)⟩,
        ⟨n, .send ⟨client, .delete n.path⟩, none⟩], none, n⟩

theorem destroy_passing (n : Node) : destroy.run.Meets n (Passing n) := by
  unfold destroy
  rw [meets_self_andThen]
  cases hstatus : n.status with
  | deleted => exact .repeated hstatus
  | pending => exact meets_edit.mpr (.unborn hstatus)
  | created | started | stopped | suspended =>
    rw [meets_andThen, meets_findEngine]
    exact ⟨fun client => meets_andThen.mpr (meets_send.mpr ⟨fun report =>
      meets_edit.mpr (.confirmed client report), .refused client, .unanswered client⟩), .missing,
      .unfound⟩

end Node

namespace Controller

variable {r₀ : Registry} {c c' c'' : Controller} {p : ProjectHandle} {h : NodeHandle} {id : Uuid}

/-- **A request that deletes a node on its engine.** It goes to the client that the registry has for
the engine, and names the node by its path. -/
structure Deletes (r₀ : Registry) (n : Node) (x : Exchange) : Prop where
  /-- It is the deletion of the node. -/
  request : x.question.request = .delete n.path
  /-- It goes to the node's engine. -/
  client : Registry.Alike (.ok x.question.client) (r₀.reach n.engine)

/-- **How the deletion of a node that was created can go**, by the requests and the result. -/
inductive Deletion (r₀ : Registry) (n : Node) :
    List Exchange → Option (Except ControlError Unit) → Prop
  /-- The engine confirms. -/
  | confirmed {x : Exchange} {report : Json} (hx : Deletes r₀ n x)
      (ha : x.answer = some (.ok report)) : Deletion r₀ n [x] (some (.ok ()))
  /-- The engine refuses. -/
  | refused {x : Exchange} {e : EngineError} (hx : Deletes r₀ n x)
      (ha : x.answer = some (.error e)) : Deletion r₀ n [x] (some (.error (.ofEngine e)))
  /-- It is given up while the engine is asked. -/
  | unanswered {x : Exchange} (hx : Deletes r₀ n x) (ha : x.answer = none) : Deletion r₀ n [x] none
  /-- The engine is not found. -/
  | missing {e : RegistryError} (he : r₀.reach n.engine = .error e) :
      Deletion r₀ n [] (some (.error (Node.engineMissing e)))
  /-- The node is deleted already. -/
  | repeated (hs : n.status = .deleted) :
      Deletion r₀ n [] (some (.error (.conflict (.alreadyDeleted n.id))))

/-- A deletion that succeeded was confirmed. -/
theorem Deletion.of_ok {n : Node} {log : List Exchange} (h : Deletion r₀ n log (some (.ok ()))) :
    ∃ x, log = [x] ∧ Deletes r₀ n x ∧ ∃ report, x.answer = some (.ok report) := by
  cases h with
  | confirmed hx ha => exact ⟨_, rfl, hx, _, ha⟩

/-- **What comes of destroying a node through its handle**, request by request. The registry and the
other nodes stay, and the node is deleted or as it was. -/
structure Passage (r₀ : Registry) (h : NodeHandle) (c : Controller) (t : Record Unit) : Prop where
  /-- How it goes. -/
  deletion : Deletion r₀ (c.node h) t.exchanges t.result
  /-- Nothing is going on afterwards. -/
  resting : Resting r₀ t.after
  /-- No project notices. -/
  calm : Calm c t.after
  /-- The other nodes stay. -/
  others : ∀ h', h' ≠ h → t.after.node h' = c.node h'
  /-- If it succeeds, the node is deleted. -/
  success : t.result = some (.ok ()) → t.after.node h = (c.node h).buried
  /-- If it does not, the node is as it was. -/
  failure : t.result ≠ some (.ok ()) → t.after.node h = c.node h

theorem eq_error_of_alike {found : Except RegistryError Client} {e : RegistryError}
    (h : Registry.Alike (.error e) found) : found = .error e := by
  cases found with
  | ok client => cases h
  | error e' =>
    cases h
    rfl

/-- **A request of the node's record is a request of the control plane** to the node's engine. The
lookup of the engine is no request, and so it leaves no trace in the record of the control plane. -/
theorem Mirrors.deletes {t : Record Unit} {u : Node.Record Unit} (hm : Mirrors r₀ h c t u)
    {n : Node} {client : Client} {answer : Option Answer}
    (hu : u.exchanges = [⟨n, .engine n.engine, some (.ok client)⟩,
      ⟨n, .send ⟨client, .delete n.path⟩, answer⟩]) :
    ∃ x, t.exchanges = [x] ∧ Deletes r₀ n x ∧ x.answer = answer := by
  have hexchanges : t.exchanges.map (fun x => (x.question, x.answer))
      = [(⟨client, .delete n.path⟩, answer)] := by
    rw [hm.exchanges, hu]
    rfl
  obtain ⟨x, hx, heq⟩ := List.map_eq_singleton_iff.mp hexchanges
  obtain ⟨hquestion, hanswer⟩ := Prod.mk.inj heq
  obtain ⟨found, hfound, halike⟩ : FoundBy r₀ ⟨n, .engine n.engine, some (.ok client)⟩ :=
    hm.found _ (hu ▸ List.mem_cons_self)
  obtain rfl := Option.some.inj hfound
  refine ⟨x, hx, ⟨?_, ?_⟩, hanswer⟩
  · rw [hquestion]
  · rw [hquestion]
    exact halike

/-- A record without requests mirrors one in which none are passed on. -/
theorem Mirrors.silent {t : Record Unit} {u : Node.Record Unit} (hm : Mirrors r₀ h c t u)
    (hu : u.exchanges.filterMap passedOn? = []) : t.exchanges = [] :=
  List.map_eq_nil_iff.mp (hm.exchanges.trans hu)

/-- **How the destruction of a node goes**, seen from the control plane. A node that was never
created is left out here, because its destruction takes no request. -/
theorem Mirrors.deletion {t : Record Unit} {u : Node.Record Unit} (hm : Mirrors r₀ h c t u)
    (hu : Node.Passing (c.node h) u) (hborn : (c.node h).status ≠ .pending) :
    Deletion r₀ (c.node h) t.exchanges t.result
      ∧ (t.result = some (.ok ()) → t.after.node h = (c.node h).buried)
      ∧ (t.result ≠ some (.ok ()) → t.after.node h = c.node h) := by
  rw [hm.result, hm.node]
  cases hu with
  | repeated hs =>
    rw [hm.silent rfl]
    exact ⟨.repeated hs, nofun, fun _ => rfl⟩
  | unborn hs => exact absurd hs hborn
  | unfound =>
    obtain ⟨found, hfound, -⟩ : FoundBy r₀ ⟨c.node h, .engine (c.node h).engine, none⟩ :=
      hm.found _ List.mem_cons_self
    cases hfound
  | missing e =>
    obtain ⟨found, hfound, halike⟩ :
        FoundBy r₀ ⟨c.node h, .engine (c.node h).engine, some (.error e)⟩ :=
      hm.found _ List.mem_cons_self
    obtain rfl := Option.some.inj hfound
    rw [hm.silent rfl]
    exact ⟨.missing (eq_error_of_alike halike), nofun, fun _ => rfl⟩
  | confirmed client report =>
    obtain ⟨x, hx, hdeletes, hanswer⟩ := hm.deletes rfl
    rw [hx]
    exact ⟨.confirmed hdeletes hanswer, fun _ => rfl, fun hno => absurd rfl hno⟩
  | refused client e =>
    obtain ⟨x, hx, hdeletes, hanswer⟩ := hm.deletes rfl
    rw [hx]
    exact ⟨.refused hdeletes hanswer, nofun, fun _ => rfl⟩
  | unanswered client =>
    obtain ⟨x, hx, hdeletes, hanswer⟩ := hm.deletes rfl
    rw [hx]
    exact ⟨.unanswered hdeletes hanswer, nofun, fun _ => rfl⟩

theorem destroyNode_passes (hc : Resting r₀ c) (hborn : (c.node h).status ≠ .pending) :
    (withNode h Node.destroy).run.Meets c (Passage r₀ h c) := by
  refine (withNode_alone hc (Node.destroy_passing (c.node h))).mono ?_
  rintro t ⟨⟨u, hu, hm⟩, hcalm⟩
  obtain ⟨hdeletion, hsuccess, hfailure⟩ := hm.deletion hu hborn
  exact ⟨hdeletion, hm.resting hc, hcalm,
    fun h' hne => congrArg NodeCell.node (hm.others h' hne), hsuccess, hfailure⟩

/-! ## Controllers in order

Deletions are described by the nodes as they were before the first of them. That needs each entry to
have a node of its own, which is kept by everything that can be done with a project. -/

/-- The handle under which a project has a node. It is none if there is no such entry. -/
abbrev handleAt? (c : Controller) (p : ProjectHandle) (id : Uuid) : Option NodeHandle :=
  (c.project p).nodes.get? id

/-- The node that a project has under an identifier. -/
def nodeAt? (c : Controller) (p : ProjectHandle) (id : Uuid) : Option Node :=
  (c.handleAt? p id).map c.node

/-- **A control plane in order**, with nothing going on. Entries lead to nodes that there are, no
two of them to the same one, and each to a node with the identifier under which it is entered. -/
structure Orderly (c : Controller) : Prop where
  /-- The locks are free. -/
  locks : ∀ h, (c.cell h).held = false
  /-- The registry is free. -/
  registry : c.registry.held = false
  /-- The handles of nodes in projects were given out. -/
  allocated : ∀ p id h, c.handleAt? p id = some h → h < c.allocated
  /-- Nodes are found under their identifiers. -/
  named : ∀ p id h, c.handleAt? p id = some h → (c.node h).id = id
  /-- They were created. -/
  born : ∀ p id h, c.handleAt? p id = some h → (c.node h).status ≠ .pending
  /-- No node is in two projects. -/
  apart : ∀ p q id id' h, c.handleAt? p id = some h → c.handleAt? q id' = some h → p = q
  /-- The handles of open projects were given out. -/
  known : ∀ id p, c.openProjects.get? id = some p → p < c.allocated
  /-- No project is open under two identifiers. -/
  distinct : ∀ id id' p, c.openProjects.get? id = some p → c.openProjects.get? id' = some p →
    id = id'

theorem Orderly.resting (ho : Orderly c) : Resting c.registry c := ⟨ho.locks, ho.registry, .refl _⟩

/-- An entry is settled by where it leads. One node is in one project, under one identifier. -/
theorem Orderly.entry_inj (ho : Orderly c) {q : ProjectHandle} {id' : Uuid}
    (h₁ : c.handleAt? p id = some h) (h₂ : c.handleAt? q id' = some h) : (p, id) = (q, id') :=
  Prod.ext (ho.apart p q id id' h h₁ h₂)
    ((ho.named p id h h₁).symm.trans (ho.named q id' h h₂))

/-- A change after which an entry leads to a new node. It is the one kind of change that adds to the
entries. -/
structure Enters (c c' : Controller) (id : Uuid) (h : NodeHandle) : Prop where
  new : h = c.allocated
  taken : h < c'.allocated
  named : (c'.node h).id = id
  born : (c'.node h).status ≠ .pending

/-- A change after which an entry leads to the node that it led to. Its status may change, but it is
not pending again. -/
structure Remains (c c' : Controller) (p : ProjectHandle) (id : Uuid) (h : NodeHandle) : Prop where
  before : c.handleAt? p id = some h
  id : (c'.node h).id = (c.node h).id
  born : (c.node h).status ≠ .pending → (c'.node h).status ≠ .pending

/-- **A change that leaves things in order**: one node may be entered, and one project opened. Every
operation that is no deletion makes changes of this kind only. -/
structure Evolves (c c' : Controller) : Prop where
  locks : ∀ h, (c'.cell h).held = false
  registry : c'.registry.held = false
  allocated : c.allocated ≤ c'.allocated
  entries : ∃ q, ∀ p id h, c'.handleAt? p id = some h →
    Remains c c' p id h ∨ p = q ∧ Enters c c' id h
  opens : ∃ i, ∀ id p, c'.openProjects.get? id = some p →
    c.openProjects.get? id = some p ∨ id = i ∧ p = c.allocated ∧ p < c'.allocated

/-- **What is in order stays in order.** A node that is entered is a new one, and so shares its
place with no other. -/
theorem Orderly.evolves (ho : Orderly c) (hc : Evolves c c') : Orderly c' := by
  obtain ⟨q, hentries⟩ := hc.entries
  obtain ⟨i, hopens⟩ := hc.opens
  refine ⟨hc.locks, hc.registry, fun p id h hget => ?_, fun p id h hget => ?_,
    fun p id h hget => ?_, fun p p' id id' h hget hget' => ?_, fun id p hp => ?_,
    fun id id' p hp hp' => ?_⟩
  · obtain hold | ⟨-, hnew⟩ := hentries p id h hget
    · exact Nat.lt_of_lt_of_le (ho.allocated p id h hold.before) hc.allocated
    · exact hnew.taken
  · obtain hold | ⟨-, hnew⟩ := hentries p id h hget
    · exact hold.id.trans (ho.named p id h hold.before)
    · exact hnew.named
  · obtain hold | ⟨-, hnew⟩ := hentries p id h hget
    · exact hold.born (ho.born p id h hold.before)
    · exact hnew.born
  · -- a new handle is none that an entry led to before
    have hclash {p p' : ProjectHandle} {id id' : Uuid} (hold : Remains c c' p id h)
        (hnew : p' = q ∧ Enters c c' id' h) : p = p' :=
      absurd (ho.allocated p id h hold.before) (hnew.2.new ▸ Nat.lt_irrefl _)
    obtain hold | hnew := hentries p id h hget
    · obtain hold' | hnew' := hentries p' id' h hget'
      · exact ho.apart p p' id id' h hold.before hold'.before
      · exact hclash hold hnew'
    · obtain hold' | hnew' := hentries p' id' h hget'
      · exact (hclash hold' hnew).symm
      · exact hnew.1.trans hnew'.1.symm
  · obtain hold | ⟨-, -, hnew⟩ := hopens id p hp
    · exact Nat.lt_of_lt_of_le (ho.known id p hold) hc.allocated
    · exact hnew
  · have hclash {id id' : Uuid} (hold : c.openProjects.get? id = some p)
        (hnew : id' = i ∧ p = c.allocated ∧ p < c'.allocated) : id = id' :=
      absurd (ho.known id p hold) (hnew.2.1 ▸ Nat.lt_irrefl _)
    obtain hold | hnew := hopens id p hp
    · obtain hold' | hnew' := hopens id' p hp'
      · exact ho.distinct id id' p hold hold'
      · exact hclash hold hnew'
    · obtain hold' | hnew' := hopens id' p hp'
      · exact (hclash hold' hnew).symm
      · exact hnew.1.trans hnew'.1.symm

/-- **Some nodes are deleted, and nothing else happens to any node or project.** What is gone is
listed by project and identifier. The nodes themselves remain under their handles, as deleted ones.
-/
structure Without (gone : List (ProjectHandle × Uuid)) (c c' : Controller) : Prop where
  /-- Their entries are gone, and no others. -/
  nodes : ∀ q, (c'.project q).nodes
    = (c.project q).nodes.filter fun id _ => decide ((q, id) ∉ gone)
  /-- They are deleted. -/
  buried : ∀ q id h, (q, id) ∈ gone → c.handleAt? q id = some h → c'.node h = (c.node h).buried
  /-- All other nodes are what they were. -/
  kept : ∀ h, (∀ q id, (q, id) ∈ gone → c.handleAt? q id ≠ some h) → c'.node h = c.node h
  /-- The handles given out stay given out. -/
  allocated : c.allocated ≤ c'.allocated

namespace Without

variable {gone gone' : List (ProjectHandle × Uuid)} {q : ProjectHandle}

theorem entry (hw : Without gone c c') (q : ProjectHandle) (id : Uuid) :
    c'.handleAt? q id = if (q, id) ∈ gone then none else c.handleAt? q id := by
  unfold handleAt?
  rw [hw.nodes q, Dict.get_filter_key _ fun id => decide ((q, id) ∉ gone)]
  by_cases hgone : (q, id) ∈ gone
  · simp [hgone]
  · simp [hgone]

theorem entry_of_some (hw : Without gone c c') (hget : c'.handleAt? q id = some h) :
    (q, id) ∉ gone ∧ c.handleAt? q id = some h := by
  rw [hw.entry] at hget
  split at hget
  · cases hget
  · exact ⟨‹_›, hget⟩

theorem refl (c : Controller) : Without [] c c where
  nodes q := Dict.ext_get fun id => by
    rw [Dict.get_filter_key _ fun id => decide ((q, id) ∉ [])]
    rfl
  buried _ _ _ hmem := (List.not_mem_nil hmem).elim
  kept _ _ := rfl
  allocated := Nat.le_refl _

/-- A node whose entry stays is the node it was. -/
theorem node_of_some (hw : Without gone c c') (ho : Orderly c) (hget : c'.handleAt? q id = some h) :
    c'.node h = c.node h := by
  obtain ⟨hnot, hbefore⟩ := hw.entry_of_some hget
  refine hw.kept h fun q' id' hmem hget' => hnot ?_
  rw [ho.entry_inj hbefore hget']
  exact hmem

theorem nodeAt (hw : Without gone c c') (ho : Orderly c) (hnot : (q, id) ∉ gone) :
    c'.nodeAt? q id = c.nodeAt? q id := by
  have hentry := hw.entry q id
  rw [if_neg hnot] at hentry
  unfold nodeAt?
  rw [hentry]
  cases hget : c.handleAt? q id with
  | none => rfl
  | some h => exact congrArg some (hw.node_of_some ho (hentry.trans hget))

theorem trans (ho : Orderly c) (hfirst : Without gone c c') (hlater : Without gone' c' c'') :
    Without (gone ++ gone') c c'' where
  nodes q := Dict.ext_get fun id => by
    have hentry := hlater.entry q id
    rw [hfirst.entry q id] at hentry
    refine hentry.trans ?_
    rw [Dict.get_filter_key _ fun id => decide ((q, id) ∉ gone ++ gone')]
    by_cases hmem : (q, id) ∈ gone
    · simp [hmem]
    · simp [hmem]
  buried q id h hmem hget := by
    by_cases hmem₁ : (q, id) ∈ gone
    · rw [hlater.kept h, hfirst.buried q id h hmem₁ hget]
      -- an entry that is left leads to another node
      intro q' id' _ hget'
      obtain ⟨hnot, hbefore⟩ := hfirst.entry_of_some hget'
      exact hnot (ho.entry_inj hget hbefore ▸ hmem₁)
    · have hget' : c'.handleAt? q id = some h := by rw [hfirst.entry, if_neg hmem₁, hget]
      rw [hlater.buried q id h ((List.mem_append.mp hmem).resolve_left hmem₁) hget',
        hfirst.node_of_some ho hget']
  kept h hnone := by
    rw [hlater.kept h, hfirst.kept h]
    · exact fun q id hmem => hnone q id (List.mem_append_left _ hmem)
    · exact fun q id hmem hget =>
        hnone q id (List.mem_append_right _ hmem) (hfirst.entry_of_some hget).2
  allocated := Nat.le_trans hfirst.allocated hlater.allocated

/-- **What is in order stays in order without some nodes.** -/
theorem orderly (hw : Without gone c c') (ho : Orderly c) (hc : Resting r₀ c')
    (hopen : ∀ id p, c'.openProjects.get? id = some p → c.openProjects.get? id = some p) :
    Orderly c' := by
  refine ho.evolves ⟨hc.locks, hc.registry, hw.allocated, ⟨0, fun p id h hget => .inl ?_⟩,
    ⟨default, fun id p hp => .inl (hopen id p hp)⟩⟩
  have hnode := hw.node_of_some ho hget
  exact ⟨(hw.entry_of_some hget).2, congrArg (·.id) hnode,
    fun hborn => hnode.symm ▸ hborn⟩

end Without

/-! ## Deleting nodes in order

The loop stops at the first deletion that fails. Its record is the records of the deletions one
after another, and which nodes are left tells where it stopped. -/

/-- A request that deletes a node and is confirmed. -/
def Confirmed (r₀ : Registry) (look : Uuid → Option Node) (id : Uuid) (x : Exchange) : Prop :=
  ∃ n, look id = some n ∧ Deletes r₀ n x ∧ ∃ report, x.answer = some (.ok report)

/-- **The end of deletions**: nothing is left, or the first node that is left could not be deleted.
A deletion that stops the sequence is the last thing that is tried. -/
def Stops (r₀ : Registry) (look : Uuid → Option Node) :
    List Uuid → List Exchange → Option (Except ControlError Unit) → Prop
  | [], last, result => last = [] ∧ result = some (.ok ())
  | id :: _, last, result =>
    ∃ n, look id = some n ∧ Deletion r₀ n last result ∧ result ≠ some (.ok ())

/-- **Deletions one after another**, up to the first that fails: the requests for the nodes that are
gone, in order and confirmed, and then at most the one for the node at which it ended. It is a
statement about requests alone: which of them there are, in which order and with what answer. -/
def Closure (r₀ : Registry) (look : Uuid → Option Node) (gone left : List Uuid)
    (log : List Exchange) (result : Option (Except ControlError Unit)) : Prop :=
  ∃ confirmed last, log = confirmed ++ last
    ∧ List.Forall₂ (Confirmed r₀ look) gone confirmed ∧ Stops r₀ look left last result

namespace Closure

variable {look look' : Uuid → Option Node} {gone left : List Uuid} {log : List Exchange}
  {result : Option (Except ControlError Unit)}

theorem stops_congr (h : ∀ id ∈ left, look' id = look id) :
    Stops r₀ look' left log result ↔ Stops r₀ look left log result := by
  cases left with
  | nil => exact Iff.rfl
  | cons id rest =>
    show (∃ n, look' id = some n ∧ _) ↔ _
    rw [h id List.mem_cons_self]
    exact Iff.rfl

/-- Only the nodes that are to be deleted matter. -/
theorem congr (h : ∀ id ∈ gone ++ left, look' id = look id)
    (hc : Closure r₀ look' gone left log result) : Closure r₀ look gone left log result := by
  obtain ⟨confirmed, last, hlog, hgone, hleft⟩ := hc
  refine ⟨confirmed, last, hlog, ?_, (stops_congr fun id hid =>
    h id (List.mem_append_right _ hid)).mp hleft⟩
  refine (List.forall₂_iff_zip.mpr ⟨hgone.length_eq, fun {id x} hmem => ?_⟩)
  have hid := h id (List.mem_append_left _ (List.of_mem_zip hmem).1)
  obtain ⟨n, hlook, hx⟩ := (List.forall₂_iff_zip.mp hgone).2 hmem
  exact ⟨n, hid ▸ hlook, hx⟩

/-- Nothing is left exactly if all deletions succeeded. If one failed, the node at which it failed
is left. -/
theorem left_eq_nil_iff (hc : Closure r₀ look gone left log result) :
    left = [] ↔ result = some (.ok ()) := by
  obtain ⟨confirmed, last, -, -, hstops⟩ := hc
  cases left with
  | nil => exact iff_of_true rfl hstops.2
  | cons id rest =>
    obtain ⟨n, -, -, hfailed⟩ := hstops
    exact iff_of_false nofun hfailed

end Closure

/-- **What comes of deleting nodes of a project one after another**, request by request. What
becomes of the requests and what becomes of the nodes are told together. -/
structure Clears (r₀ : Registry) (p : ProjectHandle) (gone left : List Uuid) (c : Controller)
    (t : Record Unit) : Prop where
  /-- How it goes. -/
  closure : Closure r₀ (c.nodeAt? p) gone left t.exchanges t.result
  /-- What becomes of the nodes. -/
  without : Without (gone.map (p, ·)) c t.after
  /-- The open projects stay open. -/
  openProjects : t.after.openProjects = c.openProjects
  /-- Nothing is going on afterwards. -/
  resting : Resting r₀ t.after

theorem nodeAt_of_entry (hget : c.handleAt? p id = some h) : c.nodeAt? p id = some (c.node h) :=
  congrArg (Option.map c.node) hget

/-- The entry of a node is dropped after the node was deleted. -/
theorem Passage.without {t : Record Unit} (hp : Passage r₀ h c t)
    (hget : c.handleAt? p id = some h) (hok : t.result = some (.ok ())) :
    Without [(p, id)] c (editProject p (·.drop id) t.after) where
  nodes q := by
    refine Dict.ext_get fun id' => ?_
    rw [Dict.get_filter_key _ fun id' => decide ((q, id') ∉ [(p, id)])]
    by_cases hq : q = p
    · subst hq
      rw [nodes_drop, hp.calm.nodes, Dict.get_erase_eq_update]
      by_cases hid : id' = id
      · simp [hid]
      · simp [hid]
    · rw [nodes_editProject_of_ne _ hq, hp.calm.nodes]
      simp [hq]
  buried q id' h' hmem hget' := by
    cases List.mem_singleton.mp hmem
    cases hget.symm.trans hget'
    exact hp.success hok
  kept h' hnone := hp.others h' fun heq =>
    hnone p id List.mem_cons_self (heq ▸ hget)
  allocated := hp.calm.allocated

/-- A deletion that failed. -/
theorem Passage.unchanged {t : Record Unit} (hp : Passage r₀ h c t)
    (hfailed : t.result ≠ some (.ok ())) : Without [] c t.after where
  nodes q := by
    refine (hp.calm.nodes q).trans (Dict.ext_get fun id => ?_)
    rw [Dict.get_filter_key _ fun id => decide ((q, id) ∉ [])]
    rfl
  buried _ _ _ hmem := (List.not_mem_nil hmem).elim
  kept h' _ := by
    by_cases hh : h' = h
    · rw [hh]
      exact hp.failure hfailed
    · exact hp.others h' hh
  allocated := hp.calm.allocated

/-- **What comes of deleting a node of a project**, request by request. Either the node is deleted
and its entry is gone, or both are as before. -/
structure Drops (r₀ : Registry) (p : ProjectHandle) (id : Uuid) (c : Controller) (n : Node)
    (t : Record Unit) : Prop where
  /-- How it goes. -/
  deletion : Deletion r₀ n t.exchanges t.result
  /-- If it succeeds, the node is gone. -/
  success : t.result = some (.ok ()) → Without [(p, id)] c t.after
  /-- If it does not, all nodes are as they were. -/
  failure : t.result ≠ some (.ok ()) → Without [] c t.after
  /-- The open projects stay open. -/
  openProjects : t.after.openProjects = c.openProjects
  /-- Nothing is going on afterwards. -/
  resting : Resting r₀ t.after

theorem deleteNode_drops (hc : Resting r₀ c) (ho : Orderly c) (hget : c.handleAt? p id = some h) :
    (deleteNode p id).run.Meets c (Drops r₀ p id c (c.node h)) := by
  refine meets_andThen.mpr ((findNode_settles p id c).mono ?_)
  rintro _ rfl
  rw [show (c.project p).nodes.get? id = some h from hget]
  refine meets_andThen.mpr ((destroyNode_passes hc (ho.born p id h hget)).mono fun t hp => ?_)
  obtain ⟨log, result, after⟩ := t
  match result with
  | some (.ok ()) =>
    refine ⟨rfl, ?_, fun _ => hp.without hget rfl, fun hno => absurd rfl hno,
      hp.calm.openProjects, hp.resting.editProject p (·.drop id)⟩
    show Deletion r₀ (c.node h) ([] ++ (log ++ [])) _
    rw [List.append_nil]
    exact hp.deletion
  | some (.error e) =>
    exact ⟨hp.deletion, nofun, hp.unchanged, hp.calm.openProjects, hp.resting⟩
  | none => exact ⟨hp.deletion, nofun, hp.unchanged, hp.calm.openProjects, hp.resting⟩

/-- A node is deleted, and then others. -/
theorem Drops.andThen {gone left : List Uuid} {t later : Record Unit} (ho : Orderly c)
    (hget : c.handleAt? p id = some h) (hd : Drops r₀ p id c (c.node h) t)
    (hok : t.result = some (.ok ())) (hnotMem : id ∉ gone ++ left)
    (hl : Clears r₀ p gone left t.after later) :
    Clears r₀ p (id :: gone) left c (t.append later) where
  closure := by
    have hwithout := hd.success hok
    have hrest : Closure r₀ (c.nodeAt? p) gone left later.exchanges later.result := by
      refine hl.closure.congr fun id' hid' => hwithout.nodeAt ho fun hmem => hnotMem ?_
      cases List.mem_singleton.mp hmem
      exact hid'
    obtain ⟨confirmed, last, hlog, hgone, hleft⟩ := hrest
    obtain ⟨x, hx, hdeletes, hanswer⟩ := (hok ▸ hd.deletion).of_ok
    refine ⟨x :: confirmed, last, ?_, .cons ⟨_, nodeAt_of_entry hget, hdeletes, hanswer⟩ hgone,
      hleft⟩
    show t.exchanges ++ later.exchanges = _
    rw [hx, hlog]
    rfl
  without := (hd.success hok).trans ho hl.without
  openProjects := hl.openProjects.trans hd.openProjects
  resting := hl.resting

/-- **Deleting nodes of a project one after another.** The list is any that names entries of the
project, each once. The induction is on the list, and the look-ups of the later deletions are taken
back to the beginning by what `Without` says. -/
theorem deleteNodes_clearing {ids : List Uuid} (hc : Resting r₀ c) (ho : Orderly c)
    (hids : ids.Nodup) (hentries : ∀ id ∈ ids, (c.handleAt? p id).isSome = true) :
    (deleteNodes p ids).run.Meets c fun t =>
      ∃ gone left, ids = gone ++ left ∧ Clears r₀ p gone left c t := by
  induction ids generalizing c with
  | nil =>
    exact ⟨[], [], rfl, ⟨[], [], rfl, .nil, rfl, rfl⟩, .refl c, rfl, hc⟩
  | cons id rest ih =>
    obtain ⟨hnotMem, hrest⟩ := List.nodup_cons.mp hids
    obtain ⟨hfirst, hentries⟩ := List.forall_mem_cons.mp hentries
    obtain ⟨h, hget⟩ := Option.isSome_iff_exists.mp hfirst
    refine meets_andThen.mpr ((deleteNode_drops hc ho hget).mono fun t hd => ?_)
    have hends (hno : t.result ≠ some (.ok ())) : ∃ gone left, id :: rest = gone ++ left
        ∧ Clears r₀ p gone left c t :=
      ⟨[], id :: rest, rfl, ⟨[], _, rfl, .nil, _, nodeAt_of_entry hget, hd.deletion, hno⟩,
        hd.failure hno, hd.openProjects, hd.resting⟩
    obtain ⟨log, result, after⟩ := t
    match result with
    | some (.ok ()) =>
      have hwithout := hd.success rfl
      have horderly : Orderly after := hwithout.orderly ho hd.resting fun id p hp => by
        rw [hd.openProjects] at hp
        exact hp
      refine (ih hd.resting horderly hrest fun id' hid' => ?_).mono ?_
      · rw [hwithout.entry, if_neg]
        · exact hentries id' hid'
        · intro hmem
          cases List.mem_singleton.mp hmem
          exact hnotMem hid'
      · rintro later ⟨gone, left, rfl, hl⟩
        exact ⟨id :: gone, left, rfl, hd.andThen ho hget rfl hnotMem hl⟩
    | some (.error e) => exact hends nofun
    | none => exact hends nofun

/-- **Closing a project** deletes its nodes in the order of their identifiers. The list that it goes
through is the one of the keys at the beginning. -/
theorem closeProject_clears (hc : Resting r₀ c) (ho : Orderly c) (p : ProjectHandle) :
    (closeProject p).run.Meets c fun t =>
      ∃ gone left, (c.project p).nodes.keys = gone ++ left ∧ Clears r₀ p gone left c t := by
  refine ⟨rfl, deleteNodes_clearing hc ho (Dict.nodup_keys _) fun id hid => ?_⟩
  exact (Dict.mem_keys_iff _ id).mp hid

theorem findProject_settles (id : Uuid) (c : Controller) :
    (findProject id).run.Settles c
      (match c.openProjects.get? id with
        | some p => .ok p
        | none => .error (.notFound (.project id))) c := by
  refine ⟨rfl, ?_⟩
  show Process.Meets (ExceptT.run (match c.openProjects.get? id with
    | some p => pure p
    | none => throw _ : Op ProjectHandle)) c _
  cases c.openProjects.get? id with
  | some p => rfl
  | none => rfl

/-- **What comes of deleting a project**, request by request. It is still open exactly if something
was left. -/
structure Leaves (r₀ : Registry) (p : ProjectHandle) (id : Uuid) (gone left : List Uuid)
    (c : Controller) (t : Record Unit) : Prop where
  /-- How it goes. -/
  closure : Closure r₀ (c.nodeAt? p) gone left t.exchanges t.result
  /-- What becomes of the nodes. -/
  without : Without (gone.map (p, ·)) c t.after
  /-- The project is forgotten if no node is left, and the others stay open. -/
  openProjects : t.after.openProjects
    = if left = [] then c.openProjects.erase id else c.openProjects
  /-- Nothing is going on afterwards. -/
  resting : Resting r₀ t.after

/-- What is open after a project was deleted. -/
theorem Leaves.get_openProjects {q : ProjectHandle} {id' : Uuid} {gone left : List Uuid}
    {t : Record Unit} (hl : Leaves r₀ p id gone left c t) :
    t.after.openProjects.get? id' = some q
      ↔ c.openProjects.get? id' = some q ∧ (id' = id → left ≠ []) := by
  rw [hl.openProjects]
  by_cases hleft : left = []
  · rw [if_pos hleft, Dict.get_erase_eq_update]
    by_cases hid : id' = id
    · rw [hid, Function.update_self]
      exact iff_of_false nofun fun h => h.2 rfl hleft
    · rw [Function.update_of_ne hid]
      exact (and_iff_left fun h => absurd h hid).symm
  · rw [if_neg hleft]
    exact (and_iff_left fun _ => hleft).symm

theorem deleteProject_leaves (hc : Resting r₀ c) (ho : Orderly c)
    (hp : c.openProjects.get? id = some p) :
    (deleteProject id).run.Meets c fun t =>
      ∃ gone left, (c.project p).nodes.keys = gone ++ left ∧ Leaves r₀ p id gone left c t := by
  refine meets_andThen.mpr ((findProject_settles id c).mono ?_)
  rintro _ rfl
  rw [hp]
  refine meets_andThen.mpr ((closeProject_clears hc ho p).mono ?_)
  rintro ⟨log, result, after⟩ ⟨gone, left, hkeys, hcl⟩
  have hleft := hcl.closure.left_eq_nil_iff
  have hends (hno : result ≠ some (.ok ())) : ∃ gone left, (c.project p).nodes.keys = gone ++ left
      ∧ Leaves r₀ p id gone left c ⟨log, result, after⟩ :=
    ⟨gone, left, hkeys, hcl.closure, hcl.without,
      (if_neg fun hnil => hno (hleft.mp hnil)) ▸ hcl.openProjects, hcl.resting⟩
  match result with
  | some (.ok ()) =>
    refine ⟨rfl, gone, left, hkeys, ?_, ⟨hcl.without.nodes, hcl.without.buried, hcl.without.kept,
      hcl.without.allocated⟩, ?_, ⟨hcl.resting.locks, hcl.resting.registry, hcl.resting.grown⟩⟩
    · show Closure r₀ _ gone left (log ++ []) (some (.ok ()))
      rw [List.append_nil]
      exact hcl.closure
    · show after.openProjects.erase id = _
      rw [if_pos (hleft.mpr rfl)]
      exact congrArg (·.erase id) hcl.openProjects
  | some (.error e) => exact hends nofun
  | none => exact hends nofun

/-- **A project is closed and forgotten**: the requests and the result are those of closing it, and
it is forgotten if that succeeded. The engines are the same, and they cannot tell which of the two
operations asks them. -/
theorem deleteProject_transcript (hp : c.openProjects.get? id = some p)
    (outside : Process.Outside Controller Call fun _ => Answer) {t : Record Unit}
    (ht : (closeProject p).run.transcript outside c = t) :
    (deleteProject id).run.transcript outside c
      = { t with after := match t.result with
          | some (.ok ()) => forgetProject id t.after
          | _ => t.after } := by
  have hfind := (findProject_settles id c).transcript outside
  rw [hp] at hfind
  refine (Process.transcript_bind hfind _).trans ?_
  show Process.Transcript.append _ ((closeProject p >>= fun _ =>
    alter (forgetProject id)).run.transcript outside c) = _
  refine (congrArg _ (Process.transcript_bind ht _)).trans ?_
  obtain ⟨log, result, after⟩ := t
  match result with
  | some (.ok ()) =>
    show (⟨[] ++ (log ++ []), some (.ok ()), forgetProject id after⟩ : Record Unit) = _
    rw [List.append_nil]
    rfl
  | some (.error e) =>
    show (⟨[] ++ (log ++ []), some (.error e), after⟩ : Record Unit) = _
    rw [List.append_nil]
    rfl
  | none => rfl

end Controller

end Testbed

import Testbed.Controller.Nodes
import Testbed.Proofs.Controller.State
import Testbed.Proofs.Node.Determinism
import Testbed.Proofs.Process.Dialogue

/-!
# An operation at work on its node

While an operation of a node is run by the control plane, others have their turns. They look for
engines, which changes the registry, and they work on other nodes; but this node is left to the
operation if it holds the node's lock. What the operation finds in the node's cell is then what it
left there, and what it does is what it would do to the node alone.

That is made precise by a dialogue whose roles are the operation's own history. A `Work` is how far
an operation is: the node it began on, the questions it put with their answers, and the node as it
left it. If all records of the operation as an operation of the node have some property
(`Process.Meets`), then its work among others amounts to a record with that property
(`onNode_follows`), whatever happens in between. A `Visit` is the same with the lock taken before
and given back afterwards (`withNode_follows`).

The detour through records is what makes the result usable. The properties of operations are proved
where operations are simple, namely for a node that nobody else touches, and there they are
statements about whole transcripts. Among others an operation has no transcript of its own: its
steps are scattered over a log, and in between the state changes under its feet. But it reads
nothing of that state except its node and the clients of the registry. A client is therefore treated
as one more answer, and the role remembers it as such (`Work.learn`); then nothing that others do
can reach the operation except through answers.

A call may also be given up while a request is pending, and then it has no result. So a request is
only put where the record up to it, without an answer and without a result, has the property as
well; `working` asks for exactly that.
-/

namespace Testbed.Controller

open Process (follows_andThen follows_bind)

/-- **What a working operation waits for.** At work an operation waits in two ways: for the
registry, if it has to connect an engine first, and for the engine. The two are kept apart because
they end differently, with a client or with an answer. -/
inductive Wait where
  /-- For nothing. -/
  | nothing
  /-- For the registry to connect an engine, which had no client at hand. -/
  | client (id : String)
  /-- For an engine's answer. -/
  | answer (call : Call)

/-- **How far an operation is with its node.** Enough is remembered to tell the record of the
operation when it ends: `first` and `log` are its beginning, and the result and `node` its end. -/
structure Work where
  /-- The node at the beginning. -/
  first : Node
  /-- The questions that were answered. -/
  log : List Node.Exchange
  /-- The node now. -/
  node : Node
  /-- What is waited for. -/
  wait : Wait

namespace Work

/-- An operation at its beginning. It has been told nothing. -/
def start (n : Node) : Work := ⟨n, [], n, .nothing⟩

/-- The work after a question was answered. It waits no longer. -/
def learn (w : Work) (question : Node.Question) (reply : question.Reply) : Work :=
  { w with log := w.log ++ [⟨w.node, question, some reply⟩], wait := .nothing }

/-- **The steps of an operation at work** on the node under a handle. Looking for a client is a step
of its own when the registry has one (`finds`), since nobody has to be waited for then. Otherwise
(`misses`) the registry is taken, the engine connected and the registry given back, and others have
turns between these steps. -/
inductive Moves (h : NodeHandle) : Work → Controller → Controller → Work → Prop
  /-- It changes the node. -/
  | edits {w : Work} {c : Controller} {n : Node} (hw : w.wait = .nothing)
      (hn : n.identity = w.node.identity) : Moves h w c (c.setNode h n) { w with node := n }
  /-- The registry has a client at hand. -/
  | finds {w : Work} {c : Controller} {id : String} {client : Client} (hw : w.wait = .nothing)
      (hclient : c.registry.clients.get? id = some client) :
      Moves h w c c (w.learn (.engine id) (.ok client))
  /-- The registry has no client at hand. -/
  | misses {w : Work} {c : Controller} {id : String} (hw : w.wait = .nothing)
      (hclient : c.registry.clients.get? id = none) : Moves h w c c { w with wait := .client id }
  /-- The registry is taken or given back. -/
  | marks {w : Work} {c : Controller} (held : Bool) :
      Moves h w c (c.setRegistry { c.registry with held }) w
  /-- The registry connects the engine. -/
  | connects {w : Work} {c : Controller} {id : String} (hw : w.wait = .client id) :
      Moves h w c (c.setRegistry (c.registry.connect id).2)
        (w.learn (.engine id) (c.registry.connect id).1)

namespace Moves

variable {h : NodeHandle} {w w' : Work} {c c' : Controller}

/-- **Only the node is changed**: the cells of the others stay, and the lock stays as it is. So what
others know of theirs remains true. -/
theorem cell (hm : Moves h w c c' w') (hc : c.node h = w.node) :
    c'.node h = w'.node ∧ (c'.cell h).held = (c.cell h).held
      ∧ ∀ h', h' ≠ h → c'.cell h' = c.cell h' := by
  cases hm with
  | @edits n hw hn =>
    have hcell := cell_setNode h n c
    refine ⟨congrArg NodeCell.node hcell, ?_, fun h' hne => cell_setCell_of_ne _ c hne⟩
    rw [hcell]
  | finds | misses | marks | connects => exact ⟨hc, rfl, fun _ _ => rfl⟩

end Moves

end Work

section Working

variable {α : Type} {h : NodeHandle} {post : Node → Node.Record α → Prop}

/-- **The dialogue of an operation at work**, of whose records `post` holds. A request is put only
where the operation could be given up with a record of which `post` holds, too. What it knows is its
node. It knows nothing of the registry, so every fact about engines that it relies on has to be an
answer in its log. -/
def working (h : NodeHandle) (post : Node → Node.Record α → Prop) :
    Dialogue Work Controller Call (fun _ => Answer) where
  knows w c := c.node h = w.node
  moves := Work.Moves h
  asks w call w' := w.wait = .nothing ∧ w' = { w with wait := .answer call }
    ∧ ∃ m, post w.first ⟨w.log ++ [⟨w.node, .send call, none⟩], none, m⟩
  hears w call answer w' := w.wait = .answer call ∧ w' = w.learn (.send call) answer

/-- Having the registry for itself, an operation connects the engine and gives the registry back. It
has waited for the registry before. -/
theorem connect_follows {id : String} {w : Work} (hw : w.wait = .client id) :
    (onRegistry (Registry.exclusively (Process.atomically (·.connect id)))).Follows (working h post)
      (fun w' found => w' = w.learn (.engine id) found) w := by
  intro c hc _
  refine ⟨w, .marks true, fun c hc _ => ⟨_, .connects hw, fun c hc _ => ⟨_, .marks false, ?_⟩⟩⟩
  rfl

/-- Asking the registry for a client. If there is one in use it is found at once. -/
theorem client_follows {id : String} {w : Work} (hw : w.wait = .nothing) :
    (onRegistry (Registry.client id)).Follows (working h post)
      (fun w' found => w' = w.learn (.engine id) found) w := by
  intro c hc _
  show ∃ w', Work.Moves h w c c w' ∧ Process.Follows _ _ w'
    (onRegistry ((Process.done (c.registry.clients.get? id)).bind _))
  cases hclient : c.registry.clients.get? id with
  | some client => exact ⟨_, .finds hw hclient, rfl⟩
  | none => exact ⟨_, .misses hw hclient, connect_follows rfl⟩

/-- **An operation does among others what it does alone.** If every record of the operation on its
node satisfies `post`, then so does what it does here: the record made of the node it began on, the
questions that it put, its result and the node that it left. No step of others is mentioned, and
none has to be: a dialogue is followed whatever the others do that leaves alone what it knows. The
induction is on the operation's run, with one case for a step on the node, one for a question to the
registry and one for a request. -/
theorem onNode_follows {p p' : Node.Job (Except ControlError α)} (hp : Node.Twins p p') {w : Work}
    (hw : w.wait = .nothing)
    (hmeets : p.Meets w.node fun t => post w.first ⟨w.log ++ t.exchanges, t.result, t.after⟩) :
    ((p.zoom (·.node h) (setNode h)).handle answerNode : Task _).Follows (working h post)
      (fun w' result => w'.wait = .nothing ∧ post w'.first ⟨w'.log, some result, w'.node⟩) w := by
  induction hp generalizing w with
  | done a =>
    refine ⟨hw, ?_⟩
    have hpost : post w.first ⟨w.log ++ [], some a, w.node⟩ := hmeets
    rw [List.append_nil] at hpost
    exact hpost
  | @step ready update next next' _ _ hready hidentity _ ih =>
    intro c hc _
    have hc : c.node h = w.node := hc
    show ∃ w', Work.Moves h w c (c.setNode h (update (c.node h))) w' ∧ Process.Follows _ _ w'
      (((next (c.node h)).zoom (·.node h) (setNode h)).handle answerNode)
    rw [hc]
    exact ⟨{ w with node := update w.node }, .edits hw (hidentity _),
      ih w.node (w := { w with node := update w.node }) hw hmeets.2⟩
  | @engine id next next' abandon _ _ ih =>
    refine follows_bind.mpr (Process.Follows.mono ((client_follows hw).onAbandon _) ?_)
    rintro _ found rfl
    refine ih found found rfl rfl ((hmeets.1 found).mono fun t ht => ?_)
    show post w.first ⟨(w.log ++ [_]) ++ t.exchanges, t.result, t.after⟩
    rw [List.append_assoc]
    exact ht
  | @send call call' next next' abandon _ _ _ ih =>
    refine ⟨_, ⟨hw, rfl, abandon w.node, hmeets.2⟩, fun answer => ⟨_, ⟨rfl, rfl⟩, ?_⟩⟩
    refine ih answer rfl ((hmeets.1 answer).mono fun t ht => ?_)
    show post w.first ⟨(w.log ++ [_]) ++ t.exchanges, t.result, t.after⟩
    rw [List.append_assoc]
    exact ht

end Working

/-! ## Visits

A visit is what lies between taking the lock of a node and giving it back, together with the waiting
before. What is done inside is the work of an operation; the visit adds the two steps around it. -/

/-- An operation that cleans up when it ends follows a dialogue if the cleanup is a step of it where
the operation ends. -/
theorem ensuring_follows {α γ : Type} {D : Dialogue γ Controller Call (fun _ => Answer)}
    {post : γ → Except ControlError α → Prop} {g : γ} {cleanup : Controller → Controller}
    {op : Op α}
    (hop : op.run.Follows D (fun g result => ∀ c, D.knows g c →
      ∃ g', D.moves g c (cleanup c) g' ∧ post g' result) g) :
    (ensuring cleanup op).run.Follows D post g :=
  follows_bind.mpr (Process.Follows.onAbandon _ (hop.mono fun _ _ hg c hc _ => hg c hc))

/-- **How far an operation is with a node whose lock it needs.** The three stages are visible in the
state only through the lock. It is free or somebody else's while the call waits, its own while it is
inside, and free for others when it has left. -/
inductive Visit (α : Type) where
  /-- It waits for the lock. -/
  | waiting
  /-- It is at work on the node. -/
  | inside (w : Work)
  /-- It is done, and has given the lock back. -/
  | left (w : Work) (result : Except ControlError α)

section Visiting

variable {α : Type} {h : NodeHandle} {post : Node → Node.Record α → Prop}

/-- **The steps of a visit** to the node under a handle. A visitor enters once and leaves once. -/
inductive Visit.Moves (h : NodeHandle) (post : Node → Node.Record α → Prop) :
    Visit α → Controller → Controller → Visit α → Prop
  | enters {c : Controller} (hfree : (c.cell h).held = false) :
      Moves h post .waiting c (c.setHeld h true) (.inside (.start (c.node h)))
  | works {w w' : Work} {c c' : Controller} (hw : Work.Moves h w c c' w') :
      Moves h post (.inside w) c c' (.inside w')
  | leaves {w : Work} {c : Controller} {result : Except ControlError α} (hw : w.wait = .nothing)
      (hpost : post w.first ⟨w.log, some result, w.node⟩) :
      Moves h post (.inside w) c (c.setHeld h false) (.left w result)

/-- **The dialogue of a visit.** Only while it is inside does it know anything, because only then is
the node left to it. -/
def visiting (h : NodeHandle) (post : Node → Node.Record α → Prop) :
    Dialogue (Visit α) Controller Call (fun _ => Answer) where
  knows
    | .inside w, c => c.node h = w.node
    | _, _ => True
  moves := Visit.Moves h post
  asks v call v' := ∃ w w', v = .inside w ∧ v' = .inside w' ∧ (working h post).asks w call w'
  hears v call answer v' :=
    ∃ w w', v = .inside w ∧ v' = .inside w' ∧ (working h post).hears w call answer w'

/-- **An operation that holds the lock of its node does there what it does alone**, and its result
is that of the record that it leaves behind. The lock is given back with the result in hand, also
when the operation is refused, so a visit that has left always has a record of which `post` holds.
-/
theorem withNode_follows {op : Node.Op α} (hop : Node.Twins op.run op.run)
    (hmeets : ∀ n, op.run.Meets n (post n)) :
    (withNode h op).run.Follows (visiting h post) (fun v result => ∃ w, v = .left w result)
      .waiting := by
  refine follows_andThen.mpr fun c _ hfree => ?_
  refine ⟨_, .enters (Bool.not_eq_true' _ ▸ hfree), ?_⟩
  have hwork : (onNode h op).run.Follows (working h post) _ (.start (c.node h)) :=
    onNode_follows hop rfl (hmeets (c.node h))
  refine ensuring_follows (hwork.embed Visit.inside ?_ ?_ ?_ ?_ ?_)
  · exact fun _ _ hc => hc
  · exact fun _ _ _ _ _ hmoves => .works hmoves
  · exact fun w call w' hasks => ⟨w, w', rfl, rfl, hasks⟩
  · exact fun w call answer w' hhears => ⟨w, w', rfl, rfl, hhears⟩
  · rintro w result ⟨hw, hpost⟩ c -
    exact ⟨.left w result, .leaves hw hpost, w, rfl⟩

variable {told : (call : Call) → Answer → Prop} {c c' : Controller}
  {happening : Crew.Happening Controller Call fun _ => Answer}

/-- A working operation leaves the cells of others alone, and its lock, and knows its node.
Questions and answers change nothing at all. -/
theorem working_cell {w w' : Work} (hc : c.node h = w.node)
    (hadvances : Crew.Advances told (working h post) w c happening c' w') :
    c'.node h = w'.node ∧ (c'.cell h).held = (c.cell h).held
      ∧ ∀ h', h' ≠ h → c'.cell h' = c.cell h' := by
  cases hadvances with
  | moved hmoves => exact Work.Moves.cell hmoves hc
  | put hasks =>
    obtain ⟨-, rfl, -⟩ := hasks
    exact ⟨hc, rfl, fun _ _ => rfl⟩
  | answered ht hhears =>
    obtain ⟨-, rfl⟩ := hhears
    exact ⟨hc, rfl, fun _ _ => rfl⟩

/-- **What happens on a visit**: the lock is taken, something happens at work, or the lock is given
back. It says the same as that a crew's member advances in the dialogue, but with the three stages
told apart and with what is known of the state at each. The invariants of calls side by side are
followed along these three cases. -/
inductive Visit.Happens (told : (call : Call) → Answer → Prop) (h : NodeHandle)
    (post : Node → Node.Record α → Prop) : Visit α → Controller →
      Crew.Happening Controller Call (fun _ => Answer) → Controller → Visit α → Prop
  | enters {c : Controller} (hfree : (c.cell h).held = false) :
      Happens told h post .waiting c (.moved c (c.setHeld h true)) (c.setHeld h true)
        (.inside (.start (c.node h)))
  | works {w w' : Work} {c c' : Controller}
      {happening : Crew.Happening Controller Call fun _ => Answer} (hc : c.node h = w.node)
      (hw : Crew.Advances told (working h post) w c happening c' w') :
      Happens told h post (.inside w) c happening c' (.inside w')
  | leaves {w : Work} {c : Controller} {result : Except ControlError α} (hc : c.node h = w.node)
      (hw : w.wait = .nothing) (hpost : post w.first ⟨w.log, some result, w.node⟩) :
      Happens told h post (.inside w) c (.moved c (c.setHeld h false)) (c.setHeld h false)
        (.left w result)

theorem Visit.happens_of_advances {v v' : Visit α} (hv : (visiting h post).knows v c)
    (hadvances : Crew.Advances told (visiting h post) v c happening c' v') :
    Visit.Happens told h post v c happening c' v' := by
  cases hadvances with
  | moved hmoves =>
    cases hmoves with
    | enters hfree => exact .enters hfree
    | works hw => exact .works hv (.moved hw)
    | leaves hw hpost => exact .leaves hv hw hpost
  | put hasks =>
    obtain ⟨w, w', rfl, rfl, hasks⟩ := hasks
    exact .works hv (.put hasks)
  | answered ht hhears =>
    obtain ⟨w, w', rfl, rfl, hhears⟩ := hhears
    exact .works hv (.answered ht hhears)

end Visiting

end Testbed.Controller

import Testbed.Proofs.Node.Performance

/-!
# The life of a node

A node lives through operations, one after another, each with an outside of its own that answers as
it likes. `Node.life` is what happened: for every operation the node it began on and its record,
with the state at each question.

What holds all along is proved from the agendas alone. `Agenda.Keeps` asks of a property of nodes
that every confirmation an agenda may bring keeps it, in the order of the stages, and
`always_of_keeps` concludes that it holds whenever a question is open and after every operation,
however that ended.

An outside is asked at every point at which an operation waits, and it may refuse, report nonsense
or never answer at all. So what holds of a life holds against engines that break every promise, and
for callers that drop an operation wherever they like.
-/

namespace Testbed.Node

/-- **An operation that took place.** It keeps the node before, so that what the operation did can
be compared with what it found. -/
structure Episode where
  /-- The node at its beginning. -/
  before : Node
  /-- The operation. -/
  step : NodeStep
  /-- How it went. -/
  record : Record Outcome

/-- An operation and what answers it. It says how the engine behaves as well. -/
abbrev Turn := NodeStep × Outside

/-- Performs an operation on a node. There is a record in any case. -/
def perform (n : Node) (turn : Turn) : Record Outcome :=
  (Scenario.nodeOp turn.1).run.transcript turn.2 n

/-- **The life of a node.** The node of an episode is the one that the episode before has left;
nobody else works on it. -/
def life : Node → List Turn → List Episode
  | _, [] => []
  | n, turn :: rest => ⟨n, turn.1, n.perform turn⟩ :: life (n.perform turn).after rest

/-- Every operation performs its agenda. It is the bridge from the operations to their agendas. -/
theorem perform_performed (n : Node) (turn : Turn) :
    (n.agenda turn.1).Performed n (n.perform turn) :=
  (nodeOp_performed n turn.1).transcript turn.2

/-- A record has a property wherever a question is open and at the end. These are all the moments at
which somebody could look. -/
def Record.Throughout {α : Type} (P : Node → Prop) (t : Record α) : Prop :=
  (∀ x ∈ t.exchanges, P x.state) ∧ P t.after

/-- **A property that holds all along**: whenever a question is open, and after every operation. The
node at an open question is what others may see while the operation waits, and so it is included: a
property of this kind is never broken, not even for the length of a request. -/
def Always (P : Node → Prop) (n : Node) (turns : List Turn) : Prop :=
  P n ∧ ∀ e ∈ n.life turns, Record.Throughout P e.record

/-- What holds all along makes what follows from it hold all along. It is needed where an invariant
is stronger than what is wanted. -/
theorem Always.mono {P P' : Node → Prop} {n : Node} {turns : List Turn} (h : Always P n turns)
    (hP : ∀ m, P m → P' m) : Always P' n turns :=
  ⟨hP n h.1, fun e he => ⟨fun x hx => hP _ ((h.2 e he).1 x hx), hP _ (h.2 e he).2⟩⟩

/-- Two properties that hold all along hold together. The two may have been proved from different
lemmas. -/
theorem Always.and {P P' : Node → Prop} {n : Node} {turns : List Turn} (h : Always P n turns)
    (h' : Always P' n turns) : Always (fun m => P m ∧ P' m) n turns :=
  ⟨⟨h.1, h'.1⟩, fun e he => ⟨fun x hx => ⟨(h.2 e he).1 x hx, (h'.2 e he).1 x hx⟩,
    (h.2 e he).2, (h'.2 e he).2⟩⟩

/-! ## What confirmations keep

A property that each confirmation keeps holds all through the life of a node. It is asked of the
stages as they arise, each after those before it, because some properties need the earlier ones. -/

/-- A property is kept by the confirmation of each stage, after those of the stages before. The
reports are arbitrary. -/
def KeptBy (P : Node → Prop) : Node → List Stage → Prop
  | _, [] => True
  | n, stage :: rest =>
    ∀ report, P (stage.confirm report n) ∧ KeptBy P (stage.confirm report n) rest

/-- A property is kept by what an agenda may bring. A refusal changes nothing. -/
def Agenda.Keeps (P : Node → Prop) (n : Node) : Agenda → Prop
  | refuse _ => True
  | settle after _ => P after
  | carryOut stages _ => KeptBy P n stages

section Keeps

variable {P : Node → Prop} {n m : Node} {stages : List Stage}

/-- Stages whose confirmations keep a property leave it intact wherever they are carried out to. The
proof is by induction on the stages. -/
theorem Staged.throughout {log : List Exchange} {reports : List Json} {ending : Ending}
    (h : Staged n stages log reports ending m) (hn : P n) (hkept : KeptBy P n stages) :
    (∀ x ∈ log, P x.state) ∧ P m := by
  induction h with
  | finished => exact ⟨List.forall_mem_nil _, hn⟩
  | found client _ ih =>
    obtain ⟨hlog, hm⟩ := ih hn hkept
    exact ⟨List.forall_mem_cons.mpr ⟨hn, hlog⟩, hm⟩
  | confirmed client report _ ih =>
    obtain ⟨hlog, hm⟩ := ih (hkept report).1 (hkept report).2
    exact ⟨List.forall_mem_cons.mpr ⟨hn, hlog⟩, hm⟩
  | missing | unfound | refused | unanswered =>
    exact ⟨List.forall_mem_singleton.mpr hn, hn⟩

/-- An agenda that keeps a property is performed with the property intact. Each form of agenda is
looked at. -/
theorem Agenda.Performed.throughout {a : Agenda} {t : Record Outcome} (h : a.Performed n t)
    (hn : P n) (hkeeps : a.Keeps P n) : t.Throughout P := by
  cases a with
  | refuse e =>
    obtain rfl := h
    exact ⟨List.forall_mem_nil _, hn⟩
  | settle after outcome =>
    obtain rfl := h
    exact ⟨List.forall_mem_nil _, hkeeps⟩
  | carryOut stages outcome =>
    obtain ⟨reports, ending, hs, -⟩ := h
    exact hs.throughout hn hkeeps

/-- **What every agenda keeps holds all along.** The induction over the life and the one over the
stages of an operation are made here, once; what is left to show for a property is that single
confirmations keep it. -/
theorem always_of_keeps (hkeeps : ∀ n step, P n → (n.agenda step).Keeps P n) (hn : P n)
    (turns : List Turn) : Always P n turns := by
  refine ⟨hn, ?_⟩
  induction turns generalizing n with
  | nil => exact List.forall_mem_nil _
  | cons turn rest ih =>
    have hturn := (n.perform_performed turn).throughout hn (hkeeps n turn.1 hn)
    exact List.forall_mem_cons.mpr ⟨hturn, ih hturn.2⟩

/-- What single confirmations keep, they keep in any order. Many properties do not need to know what
came before. -/
theorem keptBy_of_forall (h : ∀ stage ∈ stages, ∀ report n, P n → P (stage.confirm report n))
    (hn : P n) : KeptBy P n stages := by
  induction stages generalizing n with
  | nil => trivial
  | cons stage rest ih =>
    obtain ⟨hstage, hrest⟩ := List.forall_mem_cons.mp h
    exact fun report => ⟨hstage report n hn, ih hrest (hstage report n hn)⟩

/-- Stages one after another keep what the first ones keep and the others keep after them. It is how
the parts of an update are put together. -/
theorem keptBy_append {later : List Stage} (h : KeptBy P n stages) (hn : P n)
    (hlater : ∀ reports, let m := confirmAll n stages reports; P m → KeptBy P m later) :
    KeptBy P n (stages ++ later) := by
  induction stages generalizing n with
  | nil => exact hlater [] hn
  | cons stage rest ih =>
    intro report
    obtain ⟨hstage, hrest⟩ := h report
    exact ⟨hstage, ih hrest hstage fun reports => hlater (report :: reports)⟩

end Keeps

end Testbed.Node

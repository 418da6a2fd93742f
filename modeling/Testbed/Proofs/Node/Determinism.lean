import Testbed.Proofs.Node.Performance
import Testbed.Proofs.Registry.Reach

/-!
# What an operation does is determined by what answers it

The serial number of the client that an operation of a node gets depends on what else the registry
had to build before. For what the operation does this is of no matter: it hands the client on to its
requests and never looks at it.

`Twins` says of two processes of a node that they go through the same steps and put the same
questions, anonymously, as long as they are given the same answers, anonymously. Every operation is
a twin of itself (`nodeOp_twins`). What an operation does is therefore determined by what answers
it, even if the serial numbers are not: `Twins.agrees` compares any run of it with the one in which
engines are looked up by a function and answer by a function.
-/

namespace Testbed

namespace Node

open Process (Transcript)

/-- A process of a node. Its questions are those of a node. -/
abbrev Job (α : Type) := Process Node Question Question.Reply α

/-- **Two processes of a node that differ in serial numbers only.** They never wait for the node,
and keep its identity. The constructors follow those of processes, and each of them asks the twins
to stay twins for all answers that are alike: two clients are alike if they are for the same engine,
whatever their numbers. -/
inductive Twins {α : Type} : Job α → Job α → Prop
  | done (a : α) : Twins (.done a) (.done a)
  | step {ready : Node → Bool} {update : Node → Node} {next next' : Node → Job α}
      {abandon abandon' : Node → Node} (hready : ∀ n, ready n = true)
      (hidentity : ∀ n, (update n).identity = n.identity) (h : ∀ n, Twins (next n) (next' n)) :
      Twins (.step ready update next abandon) (.step ready update next' abandon')
  | engine {id : String} {next next' : Except RegistryError Client → Job α}
      {abandon abandon' : Node → Node}
      (h : ∀ found found', Registry.Alike found found' → Twins (next found) (next' found')) :
      Twins (.ask (.engine id) next abandon) (.ask (.engine id) next' abandon')
  | send {call call' : Call} {next next' : Answer → Job α} {abandon abandon' : Node → Node}
      (hcall : call.anonymous = call'.anonymous)
      (h : ∀ answer, Twins (next answer) (next' answer)) :
      Twins (.ask (.send call) next abandon) (.ask (.send call') next' abandon')

section Rules

variable {α β : Type}

theorem twins_bind {p p' : Job α} (h : Twins p p') {f f' : α → Job β}
    (hf : ∀ a, Twins (f a) (f' a)) : Twins (p.bind f) (p'.bind f') := by
  induction h with
  | done a => exact hf a
  | step hready hidentity _ ih => exact .step hready hidentity ih
  | engine _ ih => exact .engine ih
  | send hcall _ ih => exact .send hcall ih

/-- One operation after another. What the first gives is the same in both. -/
theorem twins_andThen {x x' : Op α} {f f' : α → Op β} (hx : Twins x.run x'.run)
    (hf : ∀ a, Twins (f a).run (f' a).run) : Twins (x >>= f).run (x' >>= f').run := by
  refine twins_bind hx ?_
  rintro (e | a)
  · exact .done _
  · exact hf a

theorem twins_map {x : Op α} (h : Twins x.run x.run) (g : α → β) :
    Twins (g <$> x).run (g <$> x).run :=
  twins_andThen h fun _ => .done _

theorem twins_self_andThen {f f' : Node → Op α} (hf : ∀ n, Twins (f n).run (f' n).run) :
    Twins (self >>= f).run (self >>= f').run :=
  .step (fun _ => rfl) (fun _ => rfl) hf

theorem twins_edit {f : Node → Node} (hf : ∀ n, (f n).identity = n.identity) :
    Twins (edit f).run (edit f).run :=
  .step (fun _ => rfl) hf fun _ => .done _

/-- Looking for the engine, with what is done with the client. The two clients may have been built
one after the other. -/
theorem twins_findEngine_andThen {f f' : Client → Op α}
    (hf : ∀ client client' : Client, client.anonymous = client'.anonymous →
      Twins (f client).run (f' client').run) :
    Twins (findEngine >>= f).run (findEngine >>= f').run := by
  refine .step (fun _ => rfl) (fun _ => rfl) fun n => .engine ?_
  rintro (e | client) (e' | client') h
  · cases h
    exact .done _
  · cases h
  · cases h
  · exact hf client client' (Except.ok.inj h)

/-- Sending a request through one of two clients. The requests are the same, the clients nearly. -/
theorem twins_send {client client' : Client} (h : client.anonymous = client'.anonymous)
    (request : Request) : Twins (send client request).run (send client' request).run := by
  refine .send (congrArg (Call.mk · request) h) ?_
  rintro (e | report)
  · exact .done _
  · exact .done _

theorem twins_requireCreated (verb : NodeVerb) :
    Twins (requireCreated verb).run (requireCreated verb).run := by
  refine twins_self_andThen fun n => ?_
  split
  · exact .done _
  · exact .done _

theorem twins_requireAdapter (index : Nat) :
    Twins (requireAdapter index).run (requireAdapter index).run := by
  refine twins_self_andThen fun n => ?_
  split
  · exact .done _
  · exact .done _

end Rules

/-! ## The operations

Two runs of one operation with clients that differ in their serial numbers only are twins: they ask
the same, and go on in the same way when they are told the same. -/

section Operations

theorem create_twins : Twins create.run create.run := by
  refine twins_self_andThen fun n => ?_
  by_cases hp : n.status ≠ .pending
  · rw [if_pos hp]
    exact .done _
  · rw [if_neg hp]
    refine twins_findEngine_andThen fun client client' h => ?_
    refine twins_andThen (twins_send h _) fun report => twins_edit fun n => ?_
    exact merge_identity n report

theorem act_twins (a : Action) : Twins (act a).run (act a).run := by
  refine twins_andThen (twins_requireCreated _) fun _ => ?_
  refine twins_findEngine_andThen fun client client' h => twins_self_andThen fun n => ?_
  exact twins_andThen (twins_send h _) fun _ => twins_edit fun n => rfl

theorem destroy_twins : Twins destroy.run destroy.run := by
  refine twins_self_andThen fun n => ?_
  cases n.status with
  | deleted => exact .done _
  | pending => exact twins_edit fun n => rfl
  | created | started | stopped | suspended =>
    refine twins_findEngine_andThen fun client client' h => ?_
    exact twins_andThen (twins_send h _) fun _ => twins_edit fun n => rfl

theorem unbindAll_twins {client client' : Client} (h : client.anonymous = client'.anonymous)
    (indices : List Nat) :
    Twins (unbindAll client indices).run (unbindAll client' indices).run := by
  induction indices with
  | nil => exact .done _
  | cons index rest ih =>
    refine twins_self_andThen fun n => twins_andThen (twins_send h _) fun _ => ?_
    exact twins_andThen (twins_edit fun n => rfl) fun _ => ih

theorem resize_twins (count : Nat) : Twins (resize count).run (resize count).run := by
  refine twins_findEngine_andThen fun client client' h => twins_self_andThen fun n => ?_
  refine twins_andThen (unbindAll_twins h _) fun _ => ?_
  exact twins_andThen (twins_send h _) fun _ => twins_edit fun n => rfl

theorem update_twins (changes : Dict String Json) :
    Twins (update changes).run (update changes).run := by
  refine twins_andThen (twins_requireCreated _) fun _ => twins_self_andThen fun n => ?_
  cases n.plan changes with
  | error e => exact .done _
  | ok p =>
    show Twins (ExceptT.run (if p.isEmpty then _ else _)) (ExceptT.run (if p.isEmpty then _ else _))
    by_cases hp : p.isEmpty = true
    · rw [if_pos hp]
      exact .done _
    rw [if_neg hp]
    refine twins_findEngine_andThen fun client client' h => ?_
    refine twins_andThen ?_ fun pushed => twins_andThen ?_ fun renamed =>
      twins_andThen ?_ fun resized => .done _
    · unfold pushStage
      by_cases hpush : p.push.isEmpty = true
      · rw [if_pos hpush, if_pos hpush]
        exact .done _
      · rw [if_neg hpush, if_neg hpush]
        refine twins_self_andThen fun n => twins_andThen (twins_send h _) fun report => ?_
        refine twins_andThen (twins_edit fun n => ?_) fun _ => .done _
        exact (merge_identity _ report).trans (applyKeys_identity n _)
    · cases p.rename with
      | none => exact .done _
      | some entry =>
        refine twins_self_andThen fun n => twins_andThen (twins_send h _) fun _ => ?_
        exact twins_andThen (twins_edit fun n => rfl) fun _ => .done _
    · cases p.resize with
      | none => exact .done _
      | some count => exact twins_andThen (resize_twins count) fun _ => .done _

theorem addNio_twins (index : Nat) (spec : Json) :
    Twins (addNio index spec).run (addNio index spec).run := by
  refine twins_andThen (twins_requireCreated _) fun _ => ?_
  refine twins_andThen (twins_requireAdapter index) fun _ => twins_self_andThen fun n => ?_
  by_cases hbound : n.nios.contains index = true
  · rw [if_pos hbound]
    exact .done _
  rw [if_neg hbound]
  cases Nio.ofSpec spec with
  | error cause => exact .done _
  | ok nio =>
    refine twins_findEngine_andThen fun client client' h =>
      twins_andThen (twins_send h _) fun _ => ?_
    exact twins_andThen (twins_edit fun n => rfl) fun _ => .done _

theorem removeNio_twins (index : Nat) :
    Twins (removeNio index).run (removeNio index).run := by
  refine twins_andThen (twins_requireCreated _) fun _ => twins_self_andThen fun n => ?_
  cases n.nios.get? index with
  | none => exact .done _
  | some nio =>
    refine twins_findEngine_andThen fun client client' h =>
      twins_andThen (twins_send h _) fun _ => ?_
    exact twins_andThen (twins_edit fun n => rfl) fun _ => .done _

theorem startCapture_twins (index : Nat) (file : String) :
    Twins (startCapture index file).run (startCapture index file).run := by
  refine twins_andThen (twins_requireCreated _) fun _ => ?_
  refine twins_andThen (twins_requireAdapter index) fun _ => twins_self_andThen fun n => ?_
  refine twins_findEngine_andThen fun client client' h => ?_
  exact twins_andThen (twins_send h _) fun _ => .done _

theorem stopCapture_twins (index : Nat) :
    Twins (stopCapture index).run (stopCapture index).run := by
  refine twins_andThen (twins_requireCreated _) fun _ => ?_
  refine twins_andThen (twins_requireAdapter index) fun _ => ?_
  refine twins_findEngine_andThen fun client client' h => twins_self_andThen fun n => ?_
  exact twins_andThen (twins_send h _) fun _ => .done _

/-- **Every operation of a node is a twin of itself.** The proof is by the way operations are put
together; the basic ones never look into a client. -/
theorem nodeOp_twins (step : NodeStep) :
    Twins (Scenario.nodeOp step).run (Scenario.nodeOp step).run := by
  have hself : Twins self.run self.run := .step (fun _ => rfl) (fun _ => rfl) fun _ => .done _
  cases step with
  | create => exact twins_map create_twins _
  | act a => exact twins_map (act_twins a) _
  | destroy => exact twins_map destroy_twins _
  | update changes => exact twins_map (update_twins changes) _
  | post sub body =>
    refine twins_map (twins_findEngine_andThen fun client client' h => ?_) _
    exact twins_self_andThen fun n => twins_send h _
  | delete sub =>
    refine twins_map (twins_findEngine_andThen fun client client' h => ?_) _
    exact twins_self_andThen fun n => twins_send h _
  | addNio index spec => exact twins_map (addNio_twins index spec) _
  | removeNio index => exact twins_map (removeNio_twins index) _
  | nio index => exact twins_map hself _
  | startCapture index file => exact twins_map (startCapture_twins index file) _
  | stopCapture index => exact twins_map (stopCapture_twins index) _
  | inspect => exact twins_map hself _

end Operations

/-! ## Runs that are answered by functions

If the answers come from a function, the twins have the same record but for serial numbers. It is
how a node among others is compared with itself alone. -/

section Guided

variable {α : Type} (reach : String → Except RegistryError Client) (engine : Call → Answer)

/-- **Engines that are looked up by a function and answer by a function.** Such an outside has no
memory: it answers a request in the same way whenever and by whomever it is sent. That is the
weakest engine against which an operation has one outcome. -/
def guide : Outside := fun _ question =>
  match question with
  | .engine id => some (reach id)
  | .send call => some (engine call.anonymous)

/-- An exchange has the answer that the functions give, anonymously. One without an answer satisfies
it. -/
def Guided (x : Exchange) : Prop :=
  match x with
  | ⟨_, .engine id, some found⟩ => Registry.Alike found (reach id)
  | ⟨_, .send call, some answer⟩ => answer = engine call.anonymous
  | ⟨_, _, none⟩ => True

/-- The request of an exchange. It is taken without the serial number, so records of twins have the
same ones. -/
def Exchange.call? (x : Exchange) : Option Call :=
  match x.question with
  | .engine _ => none
  | .send call => some call.anonymous

/-- **The requests among exchanges**, without serial numbers. The lookups of the engine are left
out, because how often an engine is looked up does not show at the engine. -/
def calls (log : List Exchange) : List Call := log.filterMap Exchange.call?

/-- **A record agrees with another one**: it is finished with the same requests, result and node, or
it has come so far. A run that was given up agrees if its requests are the first of those that the
whole operation would have sent. -/
def Agrees (solo t : Record α) : Prop :=
  match t.result with
  | some result =>
    solo.result = some result ∧ solo.after = t.after ∧ calls t.exchanges = calls solo.exchanges
  | none => calls t.exchanges <+: calls solo.exchanges

variable {reach engine}

theorem agrees_cons {solo t : Record α} {x x' : Exchange} (hx : x.call? = x'.call?)
    (h : Agrees solo t) : Agrees (solo.cons x') (t.cons x) := by
  obtain ⟨log, result, after⟩ := t
  cases result with
  | some result =>
    obtain ⟨hresult, hafter, hcalls⟩ := h
    refine ⟨hresult, hafter, ?_⟩
    show calls (x :: log) = calls (x' :: solo.exchanges)
    unfold calls at hcalls ⊢
    rw [List.filterMap_cons, List.filterMap_cons, hx, hcalls]
  | none =>
    show calls (x :: log) <+: calls (x' :: solo.exchanges)
    have hcalls : calls log <+: calls solo.exchanges := h
    unfold calls at hcalls ⊢
    rw [List.filterMap_cons, List.filterMap_cons, hx]
    cases x'.call? with
    | none => exact hcalls
    | some call => exact (List.prefix_cons_inj call).mpr hcalls

variable (reach engine) in
/-- **A run agrees with the guided one**, whoever answers it, as long as the answers are those of
the functions. The run may have been answered by a registry, by other callers' engines or by a
script; what matters is that each of its answers is the one that the functions give. -/
theorem Twins.agrees {p p' : Job (Except ControlError α)} (h : Twins p p') (n : Node) :
    p.Meets n fun t =>
      (∀ x ∈ t.exchanges, Guided reach engine x) →
        Agrees (p'.transcript (guide reach engine) n) t := by
  induction h generalizing n with
  | done a => exact fun _ => ⟨rfl, rfl, rfl⟩
  | step hready _ _ ih =>
    refine ⟨hready n, ?_⟩
    rw [Process.transcript, if_pos (hready n)]
    exact ih n _
  | @engine id next next' _ _ _ ih =>
    -- the guided run goes on with the client that the function gives
    have hsolo (abandon' : Node → Node) :
        (Process.ask (.engine id) next' abandon' : Job (Except ControlError α)).transcript
            (guide reach engine) n
          = ((next' (reach id)).transcript (guide reach engine) n).cons
            ⟨n, .engine id, some (reach id)⟩ := rfl
    rw [hsolo]
    refine ⟨fun found => ?_, fun _ => List.nil_prefix⟩
    by_cases hfound : Registry.Alike found (reach id)
    · refine (ih found (reach id) hfound n).mono fun t ht hguided => agrees_cons rfl (ht ?_)
      exact (List.forall_mem_cons.mp hguided).2
    · exact (ih found found rfl n).mono fun t _ hguided =>
        absurd (List.forall_mem_cons.mp hguided).1 hfound
  | @send call call' next next' _ _ hcall _ ih =>
    have hsolo (abandon' : Node → Node) :
        (Process.ask (.send call') next' abandon' : Job (Except ControlError α)).transcript
            (guide reach engine) n
          = ((next' (engine call'.anonymous)).transcript (guide reach engine) n).cons
            ⟨n, .send call', some (engine call'.anonymous)⟩ := rfl
    have hsame : Exchange.call? ⟨n, .send call, none⟩ = Exchange.call? ⟨n, .send call', none⟩ :=
      congrArg some hcall
    rw [hsolo, ← hcall]
    refine ⟨fun answer => (ih answer n).mono fun t ht hguided => ?_, fun _ => ?_⟩
    · obtain ⟨hanswer, hrest⟩ := List.forall_mem_cons.mp hguided
      obtain rfl : answer = engine call.anonymous := hanswer
      exact agrees_cons hsame (ht hrest)
    · show [call.anonymous] <+: call'.anonymous :: calls _
      rw [hcall]
      exact (List.prefix_cons_inj _).mpr List.nil_prefix

end Guided

end Node

end Testbed

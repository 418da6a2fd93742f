import Mathlib.Data.List.Induction
import Testbed.Proofs.Node.Existence
import Testbed.Proofs.Node.StagedUpdate
import Testbed.Proofs.Uuid

/-!
# Addresses of requests

An engine is addressed by a method and a path. The path names the project, the type of the node, the
node and what is asked of it, and it is put together without any escaping: a type may be any text,
with separators in it and with words that occur in paths, so a path cannot be taken apart from its
beginning.

It can be from its end. What follows the type are segments without a separator, `vms` being the
first of them and none of the others: an identifier is too long for it, a number has only digits,
and the words for operations are other words. Cutting off segments one by one therefore arrives at
the last `vms` of the path, and that is where the type ends (`descend_inj`). In front of the type
stands the project, whose text has a fixed length.

What a request is for – its `Purpose` – is then the method and the segments after that mark, read
backwards (`Purpose.ofSegments?`). The bindings that an update takes away, to make room for a
smaller number of adapters, are unbound by the same request as one that is unbound for its own sake;
to the engine that is one operation.
-/

namespace Testbed

open Node (Action)

/-- Whether a step hands a caller's own path on to the engine. Nothing can be said of what such a
path means. -/
def NodeStep.isRelay : NodeStep → Bool
  | .post .. | .delete _ => true
  | _ => false

namespace Node

/-- **What a request is for.** Two operations may have a purpose in common, and one operation may
have several. -/
inductive Purpose where
  /-- The node is created. -/
  | create
  /-- An action of the lifecycle is performed. -/
  | act (a : Action)
  /-- The node is deleted. -/
  | destroy
  /-- An adapter is bound. -/
  | bind (index : Nat)
  /-- An adapter is unbound. -/
  | unbind (index : Nat)
  /-- Settings are changed by the generic update. -/
  | push
  /-- The machine is renamed. -/
  | rename
  /-- The number of adapters is changed. -/
  | resize
  /-- A capture on an adapter is started. -/
  | startCapture (index : Nat)
  /-- A capture on an adapter is stopped. -/
  | stopCapture (index : Nat)
  deriving DecidableEq

/-- **The purposes of an operation**: those that requests of it may have. A caller's own requests
are not among them, because they are for whatever their path says. -/
inductive Serves : NodeStep → Purpose → Prop
  | create : Serves .create .create
  | act (a : Action) : Serves (.act a) (.act a)
  | destroy : Serves .destroy .destroy
  | bind (index : Nat) (spec : Json) : Serves (.addNio index spec) (.bind index)
  | unbind (index : Nat) : Serves (.removeNio index) (.unbind index)
  | push (changes : Dict String Json) : Serves (.update changes) .push
  | rename (changes : Dict String Json) : Serves (.update changes) .rename
  /-- An adapter that there is no room for any more is unbound. -/
  | shrink (changes : Dict String Json) (index : Nat) : Serves (.update changes) (.unbind index)
  | resize (changes : Dict String Json) : Serves (.update changes) .resize
  | startCapture (index : Nat) (file : String) :
      Serves (.startCapture index file) (.startCapture index)
  | stopCapture (index : Nat) : Serves (.stopCapture index) (.stopCapture index)

namespace Purpose

/-- The method of the requests for a purpose. It is needed to tell apart what has one path. -/
def method : Purpose → Method
  | create | act _ | bind _ | rename | startCapture _ | stopCapture _ => .post
  | push | resize => .put
  | destroy | unbind _ => .delete

/-- What follows the mark in the path of the requests for a purpose. Below the mark they are all
that is left of a purpose. -/
def segments (id : Uuid) : Purpose → List String
  | create => []
  | push | destroy => [id.text]
  | act a => [id.text, a.verb.text]
  | rename => [id.text, "rename"]
  | resize => [id.text, "adapters"]
  | bind index | unbind index => [id.text, "adapters", toString index, "nio"]
  | startCapture index => [id.text, "adapters", toString index, "start_capture"]
  | stopCapture index => [id.text, "adapters", toString index, "stop_capture"]

end Purpose

/-! ## Paths as segments

A path of a request goes down from the project's place by segments. The segment that ends the type's
part cannot be told from a node's by its form, so what comes behind it is compared from the end. -/

/-- The path to a place below another one. No segment at all is the place itself. -/
def descend (base : String) (segments : List String) : String :=
  segments.foldl (fun path segment => path ++ "/" ++ segment) base

/-- The segment with which the type of a node ends. No identifier is written like it. -/
def mark : String := "vms"

/-- The path of a node's project and type. The type may be any word, and may have separators of its
own. -/
def root (n : Node) : String := "/projects/" ++ n.project.text ++ "/" ++ n.nodeType.text

/-- **A request is for a purpose**, of some node, by its method and its path. The body does not
matter, so that this is what an engine can tell before it has read it. -/
def Purpose.Asks (n : Node) (p : Purpose) (r : Request) : Prop :=
  r.method = p.method ∧ r.path = descend n.root (mark :: p.segments n.id)

/-- Whether a segment has no separator and is not the mark. A segment with a separator would be two.
-/
def IsPlain (segment : String) : Prop := '/' ∉ segment.toList ∧ segment ≠ mark

variable {n n' : Node}

@[simp] theorem descend_concat (base : String) (segments : List String) (segment : String) :
    descend base (segments ++ [segment]) = descend base segments ++ "/" ++ segment := by
  unfold descend
  rw [List.foldl_append]
  rfl

/-- What stands in front of the last separator has none of it behind. It is the base of cutting a
path. -/
theorem eq_nil_of_cut {front last last' : List Char} (h : '/' ∉ last)
    (heq : '/' :: last = front ++ '/' :: last') : front = [] := by
  cases front with
  | nil => rfl
  | cons c front =>
    obtain ⟨-, rfl⟩ := List.cons.inj heq
    exact absurd (List.mem_append_right _ List.mem_cons_self) h

/-- The last segment of a path can be cut off. What is in front may be anything. -/
theorem cut_inj {path path' segment segment' : String} (h : '/' ∉ segment.toList)
    (h' : '/' ∉ segment'.toList) (heq : path ++ "/" ++ segment = path' ++ "/" ++ segment') :
    path = path' ∧ segment = segment' := by
  have hchars := congrArg String.toList heq
  simp only [String.toList_append, List.append_assoc] at hchars
  obtain ⟨front, hpath, hrest⟩ | ⟨front, hpath, hrest⟩ := List.append_eq_append_iff.mp hchars
  · obtain rfl := eq_nil_of_cut h hrest
    rw [List.append_nil, String.toList_inj] at hpath
    obtain ⟨-, hsegment⟩ := List.cons.inj hrest
    exact ⟨hpath.symm, String.toList_inj.mp hsegment⟩
  · obtain rfl := eq_nil_of_cut h' hrest
    rw [List.append_nil, String.toList_inj] at hpath
    obtain ⟨-, hsegment⟩ := List.cons.inj hrest
    exact ⟨hpath, String.toList_inj.mp hsegment.symm⟩

/-- **The last mark of a path is found from its end**: below one there are plain segments only, so
no path goes on from two of them. The induction cuts a segment off either path at a time. One that
is plain holds no separator, so that the last separator of the path is the one in front of it. -/
theorem descend_inj {base base' : String} {segments segments' : List String}
    (h : ∀ s ∈ segments, IsPlain s) (h' : ∀ s ∈ segments', IsPlain s)
    (heq : descend base (mark :: segments) = descend base' (mark :: segments')) :
    base = base' ∧ segments = segments' := by
  have hmark : '/' ∉ mark.toList := by decide
  induction segments using List.reverseRecOn generalizing segments' with
  | nil =>
    cases segments' using List.reverseRecOn with
    | nil => exact ⟨(cut_inj hmark hmark heq).1, rfl⟩
    | append_singleton segments' segment' =>
      have hplain := h' segment' (List.mem_append_right _ (List.mem_singleton.mpr rfl))
      rw [← List.cons_append, descend_concat] at heq
      exact absurd (cut_inj hmark hplain.1 heq).2.symm hplain.2
  | append_singleton segments segment ih =>
    have hplain := h segment (List.mem_append_right _ (List.mem_singleton.mpr rfl))
    cases segments' using List.reverseRecOn with
    | nil =>
      rw [← List.cons_append, descend_concat] at heq
      exact absurd (cut_inj hplain.1 hmark heq).2 hplain.2
    | append_singleton segments' segment' =>
      have hplain' := h' segment' (List.mem_append_right _ (List.mem_singleton.mpr rfl))
      rw [← List.cons_append, ← List.cons_append, descend_concat, descend_concat] at heq
      obtain ⟨hrest, rfl⟩ := cut_inj hplain.1 hplain'.1 heq
      obtain ⟨hbase, rfl⟩ := ih (fun s hs => h s (List.mem_append_left _ hs))
        (fun s hs => h' s (List.mem_append_left _ hs)) hrest
      exact ⟨hbase, rfl⟩

/-! ## Plain segments

Numbers, identifiers and verbs have no separator in them, so a path that is made of them can be cut
in one way only. -/

theorem isDigit_of_mem_toString {index : Nat} {c : Char} (h : c ∈ (toString index).toList) :
    c.isDigit = true := by
  rw [Nat.toString_eq_ofList_toDigits, String.toList_ofList] at h
  exact Nat.isDigit_of_mem_toDigits (by decide) (by decide) h

/-- A number is written with digits only. There is at least one. -/
theorem isPlain_toString (index : Nat) : IsPlain (toString index) := by
  refine ⟨fun h => ?_, fun h => ?_⟩
  · exact absurd (isDigit_of_mem_toString h) (by decide)
  · have hfirst : 'v' ∈ (toString index).toList := by
      rw [h]
      decide
    exact absurd (isDigit_of_mem_toString hfirst) (by decide)

/-- An identifier is written with digits and hyphens, and always with the same number of them. So it
cannot be the mark, which is shorter. -/
theorem isPlain_uuid (id : Uuid) : IsPlain id.text := by
  refine ⟨fun h => ?_, fun h => ?_⟩
  · exact id.slash_not_mem_text h
  · have hlength := congrArg (fun s => s.toList.length) h
    rw [id.length_text] at hlength
    exact absurd hlength (by decide)

theorem isPlain_verb (a : Action) : IsPlain a.verb.text := by
  cases a <;> exact ⟨by decide, by decide⟩

/-- Below the mark there are plain segments only. Names of verbs and parts are written out and can
be checked one by one. -/
theorem Purpose.isPlain (p : Purpose) (id : Uuid) : ∀ s ∈ p.segments id, IsPlain s := by
  have hid := isPlain_uuid id
  cases p with
  | create => exact List.forall_mem_nil _
  | push | destroy => exact List.forall_mem_singleton.mpr hid
  | act a =>
    exact List.forall_mem_cons.mpr ⟨hid, List.forall_mem_singleton.mpr (isPlain_verb a)⟩
  | rename | resize =>
    exact List.forall_mem_cons.mpr
      ⟨hid, List.forall_mem_singleton.mpr ⟨by decide, by decide⟩⟩
  | bind index | unbind index | startCapture index | stopCapture index =>
    exact List.forall_mem_cons.mpr ⟨hid, List.forall_mem_cons.mpr
      ⟨⟨by decide, by decide⟩, List.forall_mem_cons.mpr
        ⟨isPlain_toString index, List.forall_mem_singleton.mpr ⟨by decide, by decide⟩⟩⟩⟩

/-! ## Purposes, read backwards

From method and path back to what the request is for. That this can be done at all is what makes
addresses unambiguous. -/

/-- The action with a word. There are five. -/
def actionNamed? (word : String) : Option Action :=
  [.start, .stop, .suspend, .resume, .reload].find? (fun a : Action => a.verb.text == word)

/-- The purpose of something about an adapter. Binding and unbinding have one path and differ in the
method. -/
def Purpose.ofLeaf? (m : Method) (index : Nat) (leaf : String) : Option Purpose :=
  if leaf = "start_capture" then some (.startCapture index)
  else if leaf = "stop_capture" then some (.stopCapture index)
  else if m = .delete then some (.unbind index)
  else some (.bind index)

/-- **The purpose that a method and the segments below a mark have.** It is the inverse of writing a
purpose down, and it is only ever used in proofs: no program part reads a path. -/
def Purpose.ofSegments? (m : Method) : List String → Option Purpose
  | [] => some .create
  | [_] => if m = .delete then some .destroy else some .push
  | [_, "rename"] => some .rename
  | [_, "adapters"] => some .resize
  | [_, word] => (actionNamed? word).map .act
  | [_, _, index, leaf] => ofLeaf? m (Nat.ofDigitChars 10 index.toList 0) leaf
  | _ => none

theorem Purpose.ofSegments_segments (p : Purpose) (id : Uuid) :
    ofSegments? p.method (p.segments id) = some p := by
  cases p with
  | create | push | destroy | rename | resize => rfl
  | act a => cases a <;> rfl
  | bind index | unbind index | startCapture index | stopCapture index =>
    show ofLeaf? _ (Nat.ofDigitChars 10 (toString index).toList 0) _ = _
    rw [ofDigitChars_toString]
    rfl

/-- The segments name the node, unless it is to be created. The creation is the one purpose without
a node in its path. -/
theorem Purpose.head_segments {p : Purpose} (h : p ≠ .create) (id : Uuid) :
    (p.segments id).head? = some id.text := by
  cases p with
  | create => exact absurd rfl h
  | _ => rfl

/-- The project and the type are read off a path that ends with the type. The project's text has a
fixed length, and the type is what is behind it. -/
theorem root_inj (h : n.root = n'.root) :
    n.project = n'.project ∧ n.nodeType.text = n'.nodeType.text := by
  unfold root at h
  rw [String.append_assoc, String.append_assoc, String.append_assoc, String.append_assoc,
    String.append_right_inj] at h
  have hchars := congrArg String.toList h
  simp only [String.toList_append] at hchars
  obtain ⟨hproject, hrest⟩ := List.append_inj hchars (by rw [Uuid.length_text, Uuid.length_text])
  exact ⟨Uuid.text_inj.mp (String.toList_inj.mp hproject),
    String.toList_inj.mp (List.append_cancel_left hrest)⟩

/-- **Purposes are told apart by method and path.** The type is determined by its text only, since
two spellings of one word could be two types; what is asked of which node is determined altogether.
-/
theorem Purpose.asks_inj {p p' : Purpose} {r r' : Request} (h : p.Asks n r) (h' : p'.Asks n' r')
    (hmethod : r.method = r'.method) (hpath : r.path = r'.path) :
    n.project = n'.project ∧ n.nodeType.text = n'.nodeType.text ∧ p = p'
      ∧ (p ≠ .create → n.id = n'.id) := by
  rw [h.1, h'.1] at hmethod
  rw [h.2, h'.2] at hpath
  obtain ⟨hroot, hsegments⟩ := descend_inj (p.isPlain n.id) (p'.isPlain n'.id) hpath
  obtain ⟨hproject, htype⟩ := root_inj hroot
  have hpurpose : some p = some p' := by
    rw [← p.ofSegments_segments n.id, ← p'.ofSegments_segments n'.id, hmethod, hsegments]
  obtain rfl := Option.some.inj hpurpose
  refine ⟨hproject, htype, rfl, fun hp => ?_⟩
  have hhead := p.head_segments hp n.id
  rw [hsegments, p.head_segments hp] at hhead
  exact (Uuid.text_inj.mp (Option.some.inj hhead)).symm

/-- The address of a request for a purpose depends on the identity of the node only. Settings may
have changed in between. -/
theorem Purpose.asks_congr (h : n'.identity = n.identity) {p : Purpose} {r : Request} :
    p.Asks n' r ↔ p.Asks n r := by
  obtain ⟨hid, hproject, -, htype, -⟩ := by simpa [identity] using h
  unfold Asks root
  rw [hid, hproject, htype]

/-! ## Requests of operations

Every request of an operation is that of a stage, and each stage serves one purpose, except where a
caller has put the path together himself. -/

theorem collectionPath_eq (n : Node) : n.collectionPath = descend n.root [mark] := by
  show n.root ++ "/vms" = n.root ++ "/" ++ "vms"
  rw [String.append_assoc]
  rfl

theorem path_eq (n : Node) : n.path = descend n.root [mark, n.id.text] := by
  unfold path
  rw [collectionPath_eq]
  rfl

theorem subPath_eq_descend (sub : String) (h : FilePath.isAbsolute sub = false) :
    n.subPath sub = descend n.root [mark, n.id.text, sub] := by
  rw [subPath_eq h, path_eq]
  rfl

theorem adapterPath_eq_descend (index : Nat) (leaf : String) :
    n.adapterPath index leaf
      = descend n.root [mark, n.id.text, "adapters", toString index, leaf] := by
  rw [adapterPath_eq, path_eq]
  show _ = descend n.root [mark, n.id.text] ++ "/" ++ "adapters" ++ "/" ++ toString index ++ "/"
    ++ leaf
  simp only [String.append_assoc]
  rfl

/-- What the request of a stage is for, unless a caller has put its path together. Unbinding serves
the same purpose within a resize as by itself. -/
def Stage.purpose? : Stage → Option Purpose
  | create => some .create
  | act a => some (.act a)
  | destroy => some .destroy
  | bind index _ => some (.bind index)
  | unbind index => some (.unbind index)
  | push _ => some .push
  | rename .. => some .rename
  | resize _ => some .resize
  | startCapture index _ => some (.startCapture index)
  | stopCapture index => some (.stopCapture index)
  | post .. | delete _ => none

/-- The request of a stage is for its purpose. Method and path are compared, and bodies are not. -/
theorem Stage.asks {stage : Stage} {p : Purpose} (h : stage.purpose? = some p) (n : Node) :
    p.Asks n (stage.request n) := by
  cases stage with
  | post | delete => cases h
  | create =>
    cases h
    exact ⟨rfl, n.collectionPath_eq⟩
  | destroy | push =>
    cases h
    exact ⟨rfl, n.path_eq⟩
  | act a =>
    cases h
    exact ⟨rfl, subPath_eq_descend a.verb.text (by cases a <;> decide)⟩
  | rename =>
    cases h
    exact ⟨rfl, subPath_eq_descend "rename" (by decide)⟩
  | resize =>
    cases h
    exact ⟨rfl, subPath_eq_descend "adapters" (by decide)⟩
  | bind | unbind | startCapture | stopCapture =>
    cases h
    exact ⟨rfl, adapterPath_eq_descend ..⟩

/-- Every stage of an operation has one of its purposes. A resize has several, of two purposes. -/
theorem Arises.serves {step : NodeStep} {stages : List Stage} {outcome : List Json → Outcome}
    (h : Arises n step (.carryOut stages outcome)) (hstep : step.isRelay = false) :
    ∀ stage ∈ stages, ∃ p, stage.purpose? = some p ∧ Serves step p := by
  generalize hagenda : Agenda.carryOut stages outcome = a at h
  cases h with
  | refused | looked | buried => cases hagenda
  | posted | deleted => cases hstep
  | updated changes =>
    cases hagenda
    exact forall_mem_updateStages (P := fun s => ∃ p, s.purpose? = some p ∧ Serves _ p)
      (fun _ => ⟨_, rfl, .push changes⟩) (fun _ _ => ⟨_, rfl, .rename changes⟩)
      (fun index => ⟨_, rfl, .shrink changes index⟩) (fun _ => ⟨_, rfl, .resize changes⟩) n changes
  | created | acted | destroyed | bound | unbound | captureStarted | captureStopped =>
    cases hagenda
    exact List.forall_mem_singleton.mpr ⟨_, rfl, by constructor⟩

theorem mem_sent_iff {log : List Exchange} {r : Request} :
    r ∈ sent log ↔ ∃ x ∈ log, ∃ call, x.question = .send call ∧ call.request = r := by
  unfold sent
  rw [List.mem_filterMap]
  refine exists_congr (fun x => and_congr_right fun _ => ?_)
  cases x.question with
  | engine id => exact ⟨nofun, nofun⟩
  | send call =>
    refine ⟨fun h => ⟨call, rfl, Option.some.inj h⟩, ?_⟩
    rintro ⟨_, ⟨⟩, rfl⟩
    rfl

/-- **Every request that an operation sends is for one of its purposes**, of the node that the
operation is on. For each stage of the agenda, its purpose is one that the operation may have. -/
theorem sent_asks {turn : Turn} (hstep : turn.1.isRelay = false) {r : Request}
    (hr : r ∈ sent (n.perform turn).exchanges) : ∃ p, Serves turn.1 p ∧ p.Asks n r := by
  obtain ⟨x, hx, call, hquestion, rfl⟩ := mem_sent_iff.mp hr
  have hperformed := n.perform_performed turn
  have harises := n.agenda_arises turn.1
  cases hagenda : n.agenda turn.1 with
  | refuse e =>
    rw [hagenda] at hperformed
    rw [hperformed] at hx
    cases hx
  | settle after outcome =>
    rw [hagenda] at hperformed
    rw [hperformed] at hx
    cases hx
  | carryOut stages outcome =>
    rw [hagenda] at hperformed harises
    obtain ⟨reports, ending, hstaged, -⟩ := hperformed
    obtain ⟨stage, hstage, k, hk, hrequest⟩ := hstaged.sends x hx call hquestion
    obtain ⟨p, hpurpose, hserves⟩ := harises.serves hstep stage hstage
    exact ⟨p, hserves, (Purpose.asks_congr hk).mp (hrequest ▸ Stage.asks hpurpose k)⟩

/-- **Addresses are unambiguous.** Two requests are sent by operations, on any two nodes in whatever
states and whatever the operations were answered. If they have the same method and the same path,
the nodes belong to the same project and their types are written alike, both requests are for one
and the same purpose, adapter included, which is one of either operation and the only one that
either request can be for, and unless that is to create a node, the nodes have the same identifier.

The nodes need not be on one engine nor in one project to begin with, and they may be in states that
no life leads to. So the statement is about the way in which addresses are made, and it is as strong
as that: method and path determine all that the request is about, except which node a creation is
for, which only its body says. -/
theorem addresses_unambiguous {turn turn' : Turn} (hstep : turn.1.isRelay = false)
    (hstep' : turn'.1.isRelay = false) {r r' : Request}
    (hr : r ∈ sent (n.perform turn).exchanges) (hr' : r' ∈ sent (n'.perform turn').exchanges)
    (hmethod : r.method = r'.method) (hpath : r.path = r'.path) :
    n.project = n'.project ∧ n.nodeType.text = n'.nodeType.text
      ∧ ∃ p, (∀ q : Purpose, q.Asks n r ↔ q = p) ∧ (∀ q : Purpose, q.Asks n' r' ↔ q = p)
        ∧ Serves turn.1 p ∧ Serves turn'.1 p ∧ (p ≠ .create → n.id = n'.id) := by
  obtain ⟨p, hserves, hasks⟩ := sent_asks hstep hr
  obtain ⟨p', hserves', hasks'⟩ := sent_asks hstep' hr'
  obtain ⟨hproject, htype, rfl, hid⟩ := Purpose.asks_inj hasks hasks' hmethod hpath
  refine ⟨hproject, htype, p, fun q => ⟨fun hq => ?_, ?_⟩, fun q => ⟨fun hq => ?_, ?_⟩, hserves,
    hserves', hid⟩
  · exact (Purpose.asks_inj hq hasks rfl rfl).2.2.1
  · rintro rfl
    exact hasks
  · exact (Purpose.asks_inj hq hasks' rfl rfl).2.2.1
  · rintro rfl
    exact hasks'

/-- A binding is taken away on a node of a type with separators and a mark of its own in it, once by
itself and once to make room on another picture of that node. Both requests have one address, and
both unbind the adapter. -/
theorem unbound_by_one_address :
    let n : Node := { draft default "captures" "engine"
        { id := default, nodeType := .other "a/vms/b", name := "r" } with
      status := .created, adapters := 1, nios := .ofList [(0, .sink)] }
    let n' : Node := { n with engine := "other", adapters := 2 }
    let outside := served (fun _ => .supplied "engine") fun _ => .ok .null
    let turn : Turn := (.removeNio 0, outside)
    let turn' : Turn := (.update (.ofList [("adapters", .nat 0)]), outside)
    let r := Request.delete (n.adapterPath 0 "nio")
    let r' := Request.delete (n'.adapterPath 0 "nio")
    r ∈ sent (n.perform turn).exchanges ∧ r' ∈ sent (n'.perform turn').exchanges ∧ r.path = r'.path
      ∧ ∃ p, (∀ q : Purpose, q.Asks n r ↔ q = p) ∧ (∀ q : Purpose, q.Asks n' r' ↔ q = p)
        ∧ Serves turn.1 p ∧ Serves turn'.1 p ∧ (p ≠ .create → n.id = n'.id) := by
  intro n n' outside turn turn' r r'
  have hr : r ∈ sent (n.perform turn).exchanges := by decide +kernel
  have hr' : r' ∈ sent (n'.perform turn').exchanges := by decide +kernel
  exact ⟨hr, hr', rfl, (addresses_unambiguous rfl rfl hr hr' rfl rfl).2.2⟩

end Node

end Testbed

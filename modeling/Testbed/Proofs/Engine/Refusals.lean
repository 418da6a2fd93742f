import Testbed.ControlError
import Testbed.Engine.Exchange
import Testbed.Proofs.Outcome

/-!
# Refusals

An answer without success becomes an error twice, one of the engine (`HttpResponse.answer`) and one
of the control plane (`ControlError.ofEngine`), and a boundary layer answers with that error's
status. Neither step makes up a status: the second one keeps what it gets, also where it makes a
malformed request, a missing thing or a conflict of the refusal (`httpStatus_ofEngine_refused`). So
all is decided in the first, where there are two sources for the status. An engine that *describes*
the failure in the text of its answer is taken at its word, and the status line counts otherwise
(`request_of_refusal`).

What a description is, and that no text has two, is read off `ErrorBody.Written`: an object may have
other members, but each of the two fields stands in it once, and every key has to be a text
(`ofMembers?_eq_some_iff`).

Nobody compares the two sources. An engine whose status line says that it failed, and whose
description says that all is well, is relayed as it is (`described_success_surfaces`). By
`refusal_surfaces` that is the only way for a failure to pass for a success – of the answers that
there is a chance to judge. A redirect is not among them. It is no success either, but the HTTP
client below follows it unasked, and the answer that is judged is the one at the other end
(`request_of_redirect`, `redirected_refusal_succeeds`).
-/

namespace Testbed

open Json (Literal unescape?)

/-! ## Descriptions of failures

What it means that a text describes a failure, said without the reader: an object in which each of
the two fields stands once, or a list of both. The reader goes through the members from the last to
the first, so the lemmas do as well. -/

/-- What is written under a key of an object, as often as the key stands there. Keys are compared
after their escapes have been resolved. -/
def Json.Literal.under (key : String) (members : List (List Char × Literal)) : List Literal :=
  (members.filter (fun m => (unescape? m.1).map String.ofList == some key)).map Prod.snd

namespace ErrorBody

/-- A status and a message are written as literals. The bound on the status is part of it, since a
description with a larger one is none. -/
structure Says (b : ErrorBody) (status message : Literal) : Prop where
  status : status.value? 0 = some (.nat b.status)
  status_lt : b.status < UInt16.size
  message : message.value? 0 = some (.str b.message)

/-- **A text describes a failure**: it is an object with one status and one message, whatever else
it has, or a list of the two. The other members of the object are not read at all, so what they hold
does not matter, be it a number too large or a text that is none. -/
inductive Written (b : ErrorBody) (text : String) : Prop
  | object {members : List (List Char × Literal)} {status message : Literal}
      (hread : Literal.read? text.toList = some (.obj members))
      (hkeys : ∀ m ∈ members, (unescape? m.1).isSome = true)
      (hstatus : Literal.under "status" members = [status])
      (hmessage : Literal.under "message" members = [message]) (h : b.Says status message) :
      Written b text
  | list {status message : Literal}
      (hread : Literal.read? text.toList = some (.arr [status, message]))
      (h : b.Says status message) : Written b text

variable {b : ErrorBody} {key : List Char} {v status message : Literal} {f : Fields}
  {members rest : List (List Char × Literal)} {n : Nat} {s : String}

theorem statusOf?_eq_some_iff :
    statusOf? v = some n ↔ v.value? 0 = some (.nat n) ∧ n < UInt16.size := by
  unfold statusOf?
  simp only [Option.bind_eq_bind, Option.bind_eq_some_iff, toOption_eq_some_iff,
    Json.decodeUnsigned_eq_ok]
  constructor
  · rintro ⟨j, hj, rfl, hlt⟩
    exact ⟨hj, hlt⟩
  · rintro ⟨hv, hlt⟩
    exact ⟨_, hv, rfl, hlt⟩

theorem messageOf?_eq_some_iff : messageOf? v = some s ↔ v.value? 0 = some (.str s) := by
  unfold messageOf?
  simp only [Option.bind_eq_bind, Option.bind_eq_some_iff, toOption_eq_some_iff,
    Json.decodeText_eq_ok, exists_eq_right]

/-- What was read of a field, against everything that is written under its key. A field that stands
twice is in neither case, whatever is written there. -/
def Single {α : Type} (read : Literal → Option α) (vs : List Literal) : Option α → Prop
  | none => vs = []
  | some a => ∃ v, vs = [v] ∧ read v = some a

theorem single_cons_iff {α : Type} {read : Literal → Option α} {vs : List Literal} {o : Option α} :
    Single read (v :: vs) o ↔ Single read vs none ∧ ∃ a, read v = some a ∧ o = some a := by
  cases o with
  | none => simp [Single]
  | some a =>
    constructor
    · rintro ⟨v', hvs, hread⟩
      obtain ⟨rfl, rfl⟩ := List.cons.inj hvs
      exact ⟨rfl, a, hread, rfl⟩
    · rintro ⟨rfl, a', hread, ha⟩
      cases ha
      exact ⟨v, rfl, hread⟩

/-- Takes a member into what was read of the later ones. It refuses a field that was read already.
-/
def Fields.with? (f : Fields) (key : String) (v : Literal) : Option Fields :=
  match key with
  | "status" => if f.status.isSome then none else do return { f with status := ← statusOf? v }
  | "message" => if f.message.isSome then none else do return { f with message := ← messageOf? v }
  | _ => some f

theorem ofMembers?_cons (key : List Char) (v : Literal) (rest : List (List Char × Literal)) :
    ofMembers? ((key, v) :: rest)
      = (ofMembers? rest).bind (fun f =>
        (unescape? key).bind (fun k => f.with? (String.ofList k) v)) := rfl

theorem with?_status_eq_some_iff {f' : Fields} :
    f.with? "status" v = some f'
      ↔ f.status = none ∧ ∃ n, statusOf? v = some n ∧ ⟨some n, f.message⟩ = f' := by
  show (if f.status.isSome then none else (statusOf? v).bind fun n => some ⟨some n, f.message⟩)
    = some f' ↔ _
  cases hstatus : f.status with
  | some n => simp
  | none => simp [Option.bind_eq_some_iff]

theorem with?_message_eq_some_iff {f' : Fields} :
    f.with? "message" v = some f'
      ↔ f.message = none ∧ ∃ s, messageOf? v = some s ∧ ⟨f.status, some s⟩ = f' := by
  show (if f.message.isSome then none else (messageOf? v).bind fun s => some ⟨f.status, some s⟩)
    = some f' ↔ _
  cases hmessage : f.message with
  | some s => simp
  | none => simp [Option.bind_eq_some_iff]

theorem with?_of_ne {k : String} (hstatus : k ≠ "status") (hmessage : k ≠ "message") :
    f.with? k v = some f := by
  unfold Fields.with?
  split
  · exact absurd rfl hstatus
  · exact absurd rfl hmessage
  · rfl

theorem under_cons (name : String) {k : List Char} (hkey : unescape? key = some k) :
    Literal.under name ((key, v) :: rest)
      = if String.ofList k = name then v :: Literal.under name rest
        else Literal.under name rest := by
  unfold Literal.under
  rw [List.filter_cons, hkey]
  by_cases h : String.ofList k = name <;> simp [h]

/-- **The fields of an object are those that are written once.** Every key has to be a text. By
induction from the last member, as the members are read. A field that is read twice is an error even
if both say the same. -/
theorem ofMembers?_eq_some_iff :
    ofMembers? members = some f
      ↔ (∀ m ∈ members, (unescape? m.1).isSome = true)
        ∧ Single statusOf? (Literal.under "status" members) f.status
        ∧ Single messageOf? (Literal.under "message" members) f.message := by
  induction members generalizing f with
  | nil =>
    obtain ⟨status, message⟩ := f
    cases status <;> cases message <;> simp [ofMembers?, Literal.under, Single]
  | cons m rest ih =>
    obtain ⟨key, v⟩ := m
    rw [ofMembers?_cons]
    cases hkey : unescape? key with
    | none => simp [hkey]
    | some k =>
      have hcons : (∀ m ∈ (key, v) :: rest, (unescape? m.1).isSome = true)
          ↔ ∀ m ∈ rest, (unescape? m.1).isSome = true := by
        simp [hkey]
      simp only [Option.bind_some, Option.bind_eq_some_iff, ih, under_cons _ hkey, hcons]
      -- a field that is written here is not written in the rest, and nothing was read of it there
      by_cases hstatus : String.ofList k = "status"
      · simp only [hstatus, if_true, if_neg (show ¬ "status" = "message" by decide),
          with?_status_eq_some_iff, single_cons_iff]
        constructor
        · rintro ⟨f', ⟨hkeys, hst, hms⟩, hnone, n, hn, rfl⟩
          exact ⟨hkeys, ⟨hnone ▸ hst, n, hn, rfl⟩, hms⟩
        · rintro ⟨hkeys, ⟨hst, n, hn, hf⟩, hms⟩
          exact ⟨⟨none, f.message⟩, ⟨hkeys, hst, hms⟩, rfl, n, hn, by rw [← hf]⟩
      · by_cases hmessage : String.ofList k = "message"
        · simp only [hmessage, if_true, if_neg (show ¬ "message" = "status" by decide),
            with?_message_eq_some_iff, single_cons_iff]
          constructor
          · rintro ⟨f', ⟨hkeys, hst, hms⟩, hnone, s, hs, rfl⟩
            exact ⟨hkeys, hst, hnone ▸ hms, s, hs, rfl⟩
          · rintro ⟨hkeys, hst, hms, s, hs, hf⟩
            exact ⟨⟨f.status, none⟩, ⟨hkeys, hst, hms⟩, rfl, s, hs, by rw [← hf]⟩
        · simp [hstatus, hmessage, with?_of_ne]

theorem says_iff :
    b.Says status message
      ↔ statusOf? status = some b.status ∧ messageOf? message = some b.message := by
  rw [statusOf?_eq_some_iff, messageOf?_eq_some_iff]
  exact ⟨fun h => ⟨⟨h.status, h.status_lt⟩, h.message⟩, fun h => ⟨h.1.1, h.1.2, h.2⟩⟩

theorem assemble_eq_some_iff :
    (assemble f).toOption = some b ↔ f = ⟨some b.status, some b.message⟩ := by
  obtain ⟨status, message⟩ := f
  obtain ⟨n, s⟩ := b
  cases status <;> cases message <;>
    simp [assemble, Json.requireField, bind, Except.bind, pure, Except.pure, Except.toOption]

/-- **A description is found in a text exactly if the text describes that failure.** A text that is
an object with one of the fields missing is no description, and neither is a list that is longer or
shorter than two. -/
theorem ofText?_eq_some_iff {text : String} : ofText? text = some b ↔ b.Written text := by
  unfold ofText?
  constructor
  · intro h
    obtain ⟨l, hread, h⟩ := Option.bind_eq_some_iff.mp h
    split at h
    · rename_i members
      obtain ⟨f, hf, h⟩ := Option.bind_eq_some_iff.mp h
      rw [assemble_eq_some_iff.mp h] at hf
      obtain ⟨hkeys, ⟨status, hstatus, hs⟩, message, hmessage, hm⟩ := ofMembers?_eq_some_iff.mp hf
      exact .object hread hkeys hstatus hmessage (says_iff.mpr ⟨hs, hm⟩)
    · rename_i status message
      obtain ⟨n, hs, h⟩ := Option.bind_eq_some_iff.mp h
      obtain ⟨s, hm, h⟩ := Option.bind_eq_some_iff.mp h
      cases h
      exact .list hread (says_iff.mpr ⟨hs, hm⟩)
    · cases h
  · intro h
    cases h with
    | object hread hkeys hstatus hmessage h =>
      obtain ⟨hs, hm⟩ := says_iff.mp h
      have hf : ofMembers? _ = some ⟨some b.status, some b.message⟩ :=
        ofMembers?_eq_some_iff.mpr ⟨hkeys, ⟨_, hstatus, hs⟩, ⟨_, hmessage, hm⟩⟩
      rw [hread]
      simp only [Option.bind_eq_bind, Option.bind_some, hf]
      rfl
    | list hread h =>
      obtain ⟨hs, hm⟩ := says_iff.mp h
      rw [hread]
      simp only [Option.bind_eq_bind, Option.bind_some, hs, hm]
      rfl

end ErrorBody

/-! ## What surfaces

From the reply to the error that a caller sees. The client hands over the text, the text has a
meaning, and the meaning has a status of its own. -/

namespace ControlError

/-- **The status of a refusal stays**, also where it becomes an error of another kind. Three
statuses become kinds of their own, and these have the same three statuses. -/
theorem httpStatus_ofEngine_refused (n : Nat) (text : String) :
    (ofEngine (.refused n text)).httpStatus = n := by
  unfold ofEngine
  split <;> simp_all [httpStatus]

end ControlError

namespace HttpReply

open HttpResponse (isSuccess meaning)

/-- **An engine describes a failure** in the text of its answer. The answer has to be whole. One
that is cut short describes nothing, however much of its text arrived. -/
inductive Describes (b : ErrorBody) : HttpReply → Prop
  | mk {status : Nat} {location : Option String} {body : List UInt8}
      (hfinal : isFinal status = true) (h : b.Written (text status body)) :
      Describes b (complete status location body)

variable {status : Nat} {location : Option String} {body : List UInt8} {written : String}
  {b : ErrorBody} {reply : HttpReply} {response : HttpResponse} {replies : Nat → HttpReply}

theorem not_written_empty (b : ErrorBody) : ¬ b.Written "" := by
  rw [← ErrorBody.ofText?_eq_some_iff]
  exact (show ErrorBody.ofText? "" = none by decide) ▸ nofun

theorem meaning_of_written (hstatus : isSuccess status = false) (h : b.Written written) :
    meaning status written = .error (.refused b.status b.message) := by
  rw [meaning, hstatus, HttpResponse.failure, ErrorBody.ofText?_eq_some_iff.mpr h]
  rfl

theorem meaning_of_not_written (hstatus : isSuccess status = false)
    (h : ∀ b : ErrorBody, ¬ b.Written written) :
    ∃ message, meaning status written = .error (.refused status message) := by
  have hnone : ErrorBody.ofText? written = none :=
    Option.eq_none_iff_forall_ne_some.mpr (fun b hb => h b (ErrorBody.ofText?_eq_some_iff.mp hb))
  rw [meaning, hstatus, HttpResponse.failure, hnone]
  exact ⟨_, rfl⟩

theorem describes_complete_iff :
    (complete status location body).Describes b
      ↔ isFinal status = true ∧ b.Written (text status body) := by
  constructor
  · rintro ⟨hfinal, hwritten⟩
    exact ⟨hfinal, hwritten⟩
  · rintro ⟨hfinal, hwritten⟩
    exact .mk hfinal hwritten

/-- A text describes one failure at most. Without this it would not be clear which failure should
surface. -/
theorem describes_unique {b' : ErrorBody} (h : reply.Describes b) (h' : reply.Describes b') :
    b = b' := by
  cases h with
  | mk _ hwritten =>
    cases h' with
    | mk _ hwritten' =>
      rw [← ErrorBody.ofText?_eq_some_iff] at hwritten hwritten'
      exact Option.some.inj (hwritten.symm.trans hwritten')

/-- What is not the end of an exchange describes nothing. A client goes on waiting after such an
answer. -/
theorem not_describes_of_lost (h : reply.status?.any isFinal = false) : ¬ reply.Describes b := by
  rintro ⟨hfinal, -⟩
  exact Bool.false_ne_true (h.symm.trans hfinal)

/-- **An answer without success is a failure**: the one that the engine describes, and otherwise one
with the status of the answer, or of the connection where the client does not get hold of the
answer. -/
theorem answer_of_refusal (timeout : Duration) (hhanded : reply.HandedOver response)
    (hreply : reply.status? = some status) (hstatus : isSuccess status = false) :
    (∃ b, reply.Describes b ∧ response.answer timeout = .error (.refused b.status b.message))
      ∨ (∀ b, ¬ reply.Describes b)
        ∧ ((∃ message, response.answer timeout = .error (.refused status message))
          ∨ ∃ fault, response.answer timeout = .error (HttpFault.error timeout fault)) := by
  cases hhanded with
  | @whole _ _ body hfinal =>
    cases hreply
    by_cases hwritten : ∃ b : ErrorBody, b.Written (text status body)
    · obtain ⟨b, hb⟩ := hwritten
      exact .inl ⟨b, .mk hfinal hb, meaning_of_written hstatus hb⟩
    · have hwritten := not_exists.mp hwritten
      exact .inr ⟨fun b h => hwritten b (describes_complete_iff.mp h).2,
        .inl (meaning_of_not_written hstatus hwritten)⟩
  | torn => exact .inr ⟨nofun, .inr ⟨_, rfl⟩⟩
  | bare =>
    cases hreply
    exact .inr ⟨nofun, .inl (meaning_of_not_written hstatus not_written_empty)⟩
  | lost h => exact .inr ⟨fun _ => not_describes_of_lost h, .inr ⟨_, rfl⟩⟩

theorem httpStatus_ofEngine_fault (timeout : Duration) (fault : HttpFault) :
    (ControlError.ofEngine (fault.error timeout)).httpStatus = 502 := by
  cases fault <;> rfl

/-- The answer to a request that was sent is made of what the client hands over. Nothing of the
request itself is left in it but the time-out. -/
theorem request_of_sent (client : HttpClient) {e : Endpoint} {r : Request}
    (hsent : (e.destination? r).isSome = true) (replies : Nat → HttpReply) :
    e.request client r replies = (client replies).answer e.timeout := by
  obtain ⟨url, hurl⟩ := Option.isSome_iff_exists.mp hsent
  rw [Endpoint.request, hurl]

/-- **A refusal surfaces with the status that the engine describes**, whatever that is, and
otherwise with that of the answer, or as a failure of the connection. So it passes for a success
exactly if the engine describes it as one.

The client is any that relays what does not send it elsewhere, and the request any that is for an
address. Of the replies it is the first that counts, the one to the request itself; what else the
client may be told does not matter, since nothing that is not a redirect makes it ask again. -/
theorem refusal_surfaces {client : HttpClient} (hclient : client.Relays) {e : Endpoint}
    {r : Request} (hsent : (e.destination? r).isSome = true)
    (hreply : (replies 0).status? = some status) (hstatus : isSuccess status = false)
    (hstays : (replies 0).redirects = false) :
    ∃ error, e.request client r replies = .error error
      ∧ (∀ b, (replies 0).Describes b → (ControlError.ofEngine error).httpStatus = b.status)
      ∧ ((∀ b, ¬ (replies 0).Describes b) →
        (ControlError.ofEngine error).httpStatus = status
          ∨ (ControlError.ofEngine error).httpStatus = 502)
      ∧ (isSuccess (ControlError.ofEngine error).httpStatus = true
        ↔ ∃ b, (replies 0).Describes b ∧ isSuccess b.status = true) := by
  have hrefused := ControlError.httpStatus_ofEngine_refused
  rw [request_of_sent client hsent]
  obtain ⟨b, hb, hanswer⟩ | ⟨hnone, hanswer⟩ :=
    answer_of_refusal e.timeout (hclient replies hstays) hreply hstatus
  · have heq (b' : ErrorBody) (hb' : (replies 0).Describes b') : b = b' := describes_unique hb hb'
    refine ⟨_, hanswer, fun b' hb' => by rw [hrefused, heq b' hb'],
      fun hnone => absurd hb (hnone b), ?_⟩
    rw [hrefused]
    constructor
    · exact fun h => ⟨b, hb, h⟩
    · rintro ⟨b', hb', h⟩
      exact heq b' hb' ▸ h
  · obtain ⟨error, hanswer, hsurfaces⟩ : ∃ error, (client replies).answer e.timeout = .error error
        ∧ ((ControlError.ofEngine error).httpStatus = status
          ∨ (ControlError.ofEngine error).httpStatus = 502) := by
      obtain ⟨message, hanswer⟩ | ⟨fault, hanswer⟩ := hanswer
      · exact ⟨_, hanswer, .inl (hrefused status message)⟩
      · exact ⟨_, hanswer, .inr (httpStatus_ofEngine_fault e.timeout fault)⟩
    refine ⟨error, hanswer, fun b hb => absurd hb (hnone b), fun _ => hsurfaces,
      iff_of_false ?_ (fun ⟨b, hb, _⟩ => hnone b hb)⟩
    obtain hsame | hgateway := hsurfaces
    · rw [hsame, hstatus]
      exact Bool.false_ne_true
    · rw [hgateway]
      decide

/-! ## Redirects

Where the reply is not the end: the client is sent elsewhere and what it is answered there is handed
over in place of the first answer. So a refusal that comes with a location may surface as a success.
-/

/-- **A redirect that is followed leaves no trace**: the answer is the one that the further request
gets, also if that is a success. -/
theorem request_of_redirect (hops : Nat) (e : Endpoint) (r : Request)
    (h : (replies 0).redirects = true) :
    e.request (.following (hops + 1)) r replies
      = e.request (.following hops) r fun k => replies (k + 1) := by
  have hfollowed : HttpClient.following (hops + 1) replies
      = HttpClient.following hops fun k => replies (k + 1) := by
    rw [HttpClient.following, if_pos h]
  unfold Endpoint.request
  rw [hfollowed]

section Examples

/-- An engine that is reached under some address. It is local, and asks for no credentials. -/
def reached : Endpoint where
  id := "e"
  baseUrl := "http://127.0.0.1:3080/v2"
  credentials := none
  timeout := ⟨30, 0⟩

/-- A question to it. It is the request that probes an engine. -/
def question : Request := .get "/version"

theorem question_sent : (reached.destination? question).isSome = true := by decide +kernel

/-- An engine may be more precise in the body than in the status line. The description's own status
decides about the kind of the error, and so about what the caller is told. -/
theorem conflict_surfaces :
    let replies := fun _ : Nat =>
      complete 500 none (Text.Utf8.encode "\x7b\"status\": 409, \"message\": \"in use\"\x7d")
    HttpClient.usual.Relays ∧ (reached.destination? question).isSome = true
      ∧ (replies 0).status? = some 500 ∧ isSuccess 500 = false ∧ (replies 0).redirects = false
      ∧ (replies 0).Describes ⟨409, "in use"⟩
      ∧ ∃ error, reached.request .usual question replies = .error error
        ∧ (ControlError.ofEngine error).httpStatus = 409
        ∧ isSuccess (ControlError.ofEngine error).httpStatus = false := by
  intro replies
  have hb : (replies 0).Describes ⟨409, "in use"⟩ :=
    .mk rfl (ErrorBody.ofText?_eq_some_iff.mp (by decide +kernel))
  have hreply : (replies 0).status? = some 500 := rfl
  have hrelays := HttpClient.following_relays HttpClient.usualHops
  obtain ⟨error, hanswer, hdescribed, -, -⟩ :=
    refusal_surfaces hrelays question_sent hreply rfl rfl
  have hconflict := hdescribed _ hb
  exact ⟨hrelays, question_sent, hreply, rfl, rfl, hb, error, hanswer, hconflict,
    by rw [hconflict]; rfl⟩

/-- **An engine that fails and says that it succeeded**: the failure surfaces as a success. Nobody
compares the two statuses, and the one in the description counts. -/
theorem described_success_surfaces :
    let replies := fun _ : Nat =>
      complete 500 none (Text.Utf8.encode "\x7b\"status\": 200, \"message\": \"ok\"\x7d")
    (replies 0).status? = some 500 ∧ isSuccess 500 = false ∧ (replies 0).redirects = false
      ∧ ∃ error, reached.request .usual question replies = .error error
        ∧ (ControlError.ofEngine error).httpStatus = 200 := by
  intro replies
  have hb : ErrorBody.Written ⟨200, "ok"⟩
      (text 500 (Text.Utf8.encode "\x7b\"status\": 200, \"message\": \"ok\"\x7d")) :=
    ErrorBody.ofText?_eq_some_iff.mp (by decide +kernel)
  refine ⟨rfl, rfl, rfl, .refused 200 "ok", ?_, rfl⟩
  rw [request_of_sent .usual question_sent]
  exact meaning_of_written rfl hb

/-- **An engine that sends the client elsewhere**, where it is answered: the call has succeeded, and
nobody has heard of the reply that was no success. -/
theorem redirected_refusal_succeeds :
    let replies : Nat → HttpReply := fun k =>
      if k = 0 then complete 307 (some "/v2/elsewhere") [] else complete 204 none []
    (replies 0).status? = some 307 ∧ isSuccess 307 = false ∧ (replies 0).redirects = true
      ∧ reached.request .usual question replies = .ok .null := by
  intro replies
  refine ⟨rfl, rfl, rfl, ?_⟩
  show reached.request (.following (9 + 1)) question replies = .ok .null
  rw [request_of_redirect 9 reached question rfl, request_of_sent _ question_sent]
  rfl

end Examples

end HttpReply

end Testbed

import Testbed.Text.Utf8

/-!
# Replies over HTTP

Between the control plane and an engine stands an HTTP client, which is a library of its own. All
that is known of it here is what it makes of the replies that it gets. Most of them it hands over as
they are: the status, and the text that the bytes of the body encode. But a reply may also send the
client elsewhere, with one of five statuses and a location (`HttpReply.redirects`). Then the client
sends a request to that location on its own account, and hands over what it is answered there. Who
uses the client never sees the reply that sent it away.

`HttpClient` is any such library, `HttpClient.Relays` is what it is relied on for, and
`HttpClient.following` is one that follows a number of redirects.
-/

namespace Testbed

/-- **What comes back** for a request. Of the headers only the location decides anything. A location
is an address or a reference that is resolved against one; here it only counts whether there is one.
-/
inductive HttpReply where
  /-- A complete answer. -/
  | complete (status : Nat) (location : Option String) (body : List UInt8)
  /-- An answer that ends before its announced length. -/
  | cutShort (status : Nat) (location : Option String)
  /-- The connection is closed without an answer. -/
  | closed
  /-- Nothing comes until the client gives up. -/
  | silence
  deriving DecidableEq

/-- Why a client does not get hold of an answer, or of its text. The two are kept apart because a
time-out is a failure of its own kind, and because everything else has no more than words. -/
inductive HttpFault where
  /-- It has waited for too long. -/
  | late
  /-- The connection failed, with the client's words for it. -/
  | broken (message : String)
  deriving DecidableEq

/-- **What a client hands over** when it is done with a request. An answer whose text could not be
had still has its status. -/
inductive HttpResponse where
  /-- There is no answer. -/
  | failed (fault : HttpFault)
  /-- There is an answer with some status, and its text unless that could not be had. -/
  | answered (status : Nat) (text : Except HttpFault String)

/-- **An HTTP client**: what it hands over when it is given a request, from the replies that it
gets. The first of these is the reply to the request itself, the others are replies to requests that
it sends on its own account. It is a function, so the same replies lead to the same response; how
long anything took is not part of it. -/
abbrev HttpClient := (Nat → HttpReply) → HttpResponse

namespace HttpReply

/-- Whether an answer with this status has no body, whatever was announced. Bytes that follow it are
not its own. -/
def isBodiless (status : Nat) : Bool := status == 101 || status == 204 || status == 304

/-- Whether a status ends an exchange. One of three digits does, unless it only informs, so that
the proper answer would have to follow it. -/
def isFinal (status : Nat) : Bool := status == 101 || (200 ≤ status && status ≤ 999)

/-- The statuses that may send a client elsewhere. Other statuses between 300 and 399 are answers
like any other. -/
def redirectStatuses : List Nat := [301, 302, 303, 307, 308]

/-- The status of an answer. An answer that is cut short has one, since the status comes first. -/
def status? : HttpReply → Option Nat
  | complete status _ _ | cutShort status _ => some status
  | closed | silence => none

/-- Where an answer says that the thing asked for is. It may be there with any status, and counts
with five of them only. -/
def location? : HttpReply → Option String
  | complete _ location _ | cutShort _ location => location
  | closed | silence => none

/-- Whether a reply sends the client elsewhere. An answer with one of the five statuses and no
location sends nobody anywhere and is handed over as it is. -/
def redirects (reply : HttpReply) : Bool :=
  reply.location?.isSome && reply.status?.any redirectStatuses.contains

/-- The text of an answer with some status. Bytes that are no UTF-8 are replaced and not complained
of. -/
def text (status : Nat) (body : List UInt8) : String :=
  if isBodiless status then "" else Text.Utf8.decodeLenient body

/-- What is handed over of a reply by a client that is not sent elsewhere by it. The wordings are
those of the client that is usual. -/
def handedOver : HttpReply → HttpResponse
  | complete status _ body =>
    if isFinal status then .answered status (.ok (text status body))
    else .failed (.broken "error sending request")
  | cutShort status _ =>
    if isBodiless status then .answered status (.ok "")
    else if isFinal status then .answered status (.error (.broken "error decoding response body"))
    else .failed (.broken "error sending request")
  | closed => .failed (.broken "error sending request")
  | silence => .failed .late

/-- **A reply is handed over**, by a client that is not sent elsewhere by it. How the client puts it
that something went wrong is its own affair. -/
inductive HandedOver : HttpReply → HttpResponse → Prop
  /-- A complete answer is handed over with its status and its text. -/
  | whole {status : Nat} {location : Option String} {body : List UInt8}
      (hfinal : isFinal status = true) :
      HandedOver (complete status location body) (.answered status (.ok (text status body)))
  /-- An answer that is cut short has no text. -/
  | torn {status : Nat} {location : Option String} {fault : HttpFault}
      (hfinal : isFinal status = true) :
      HandedOver (cutShort status location) (.answered status (.error fault))
  /-- Where no body belongs to the status, nothing is cut off. -/
  | bare {status : Nat} {location : Option String} (hbody : isBodiless status = true) :
      HandedOver (cutShort status location) (.answered status (.ok ""))
  /-- What is not the end of an exchange is no answer. -/
  | lost {reply : HttpReply} {fault : HttpFault} (h : reply.status?.any isFinal = false) :
      HandedOver reply (.failed fault)

theorem handedOver_handedOver (reply : HttpReply) : reply.HandedOver reply.handedOver := by
  cases reply with
  | complete status location body =>
    rw [handedOver]
    by_cases hfinal : isFinal status
    · rw [if_pos hfinal]
      exact .whole hfinal
    · rw [if_neg hfinal]
      exact .lost (Bool.eq_false_iff.mpr hfinal)
  | cutShort status location =>
    rw [handedOver]
    by_cases hbody : isBodiless status
    · rw [if_pos hbody]
      exact .bare hbody
    · rw [if_neg hbody]
      by_cases hfinal : isFinal status
      · rw [if_pos hfinal]
        exact .torn hfinal
      · rw [if_neg hfinal]
        exact .lost (Bool.eq_false_iff.mpr hfinal)
  | closed | silence => exact .lost rfl

end HttpReply

namespace HttpClient

/-- **A client relays replies**: one that does not send it elsewhere it hands over, whatever else it
may be told. Nothing is said of the others. -/
def Relays (client : HttpClient) : Prop :=
  ∀ replies : Nat → HttpReply,
    (replies 0).redirects = false → (replies 0).HandedOver (client replies)

/-- **A client that follows redirects**, so many at most. It takes every location for one that it
can go to. -/
def following : Nat → HttpClient
  | 0, replies =>
    if (replies 0).redirects then .failed (.broken "error following redirect")
    else (replies 0).handedOver
  | hops + 1, replies =>
    if (replies 0).redirects then following hops (fun k => replies (k + 1))
    else (replies 0).handedOver

/-- The number of redirects that are followed unless somebody says otherwise. -/
def usualHops : Nat := 10

/-- The client as it is unless somebody says otherwise. -/
def usual : HttpClient := following usualHops

theorem following_relays (hops : Nat) : (following hops).Relays := by
  intro replies hstays
  have hhanded : following hops replies = (replies 0).handedOver := by
    cases hops <;> rw [following, hstays, if_neg Bool.false_ne_true]
  exact hhanded ▸ (replies 0).handedOver_handedOver

end HttpClient

end Testbed

import Testbed.Engine.Client
import Testbed.Engine.Reply
import Testbed.Engine.Url
import Testbed.Json.Print
import Testbed.Text.Base64
import Testbed.Text.Blank

/-!
# One request over HTTP

What a built client sends for a request, and what it makes of that which its HTTP client hands over
(`HttpResponse`). Nothing here touches a network: replies are values, and the answer to a request is
a function of them (`Endpoint.request`).

A failure is taken from the engine's own description when the body holds one (`ErrorBody`), and from
the status line and the raw text otherwise. A success without text is `null`.

The order of the tests matters. A body that cannot be got hold of is a failure of the connection,
whatever the status. Then the status is looked at, and the body is searched for a description only
if the status reports no success; so a success whose body happens to look like a description of a
failure is a success.
-/

namespace Testbed

/-- What is sent. It is what a listener can see of a request, apart from the connection it comes
through. -/
structure SentRequest where
  /-- The method. -/
  method : Method
  /-- Path and query, encoded. -/
  target : String
  /-- The credentials, if any are sent. -/
  authorization : Option String
  /-- The type of the body, if one is sent. -/
  contentType : Option String
  /-- The body. -/
  body : String
  deriving DecidableEq

/-- The error that a fault is, for a client with some time-out. A fault that is late names the
time-out that was waited for, and not the time that has passed; every other one keeps its own
wording. -/
def HttpFault.error (timeout : Duration) : HttpFault → EngineError
  | late => .timeout timeout
  | broken message => .transport message

namespace HttpResponse

/-- The reasons that status codes stand for. They are the wordings of the HTTP client, which differ
here and there from those of the standard (203 is written without its hyphen). -/
def reasons : List (Nat × String) := [
  (100, "Continue"), (101, "Switching Protocols"), (102, "Processing"), (200, "OK"),
  (201, "Created"), (202, "Accepted"), (203, "Non Authoritative Information"),
  (204, "No Content"), (205, "Reset Content"), (206, "Partial Content"), (207, "Multi-Status"),
  (208, "Already Reported"), (226, "IM Used"), (300, "Multiple Choices"),
  (301, "Moved Permanently"), (302, "Found"), (303, "See Other"), (304, "Not Modified"),
  (305, "Use Proxy"), (307, "Temporary Redirect"), (308, "Permanent Redirect"),
  (400, "Bad Request"), (401, "Unauthorized"), (402, "Payment Required"), (403, "Forbidden"),
  (404, "Not Found"), (405, "Method Not Allowed"), (406, "Not Acceptable"),
  (407, "Proxy Authentication Required"), (408, "Request Timeout"), (409, "Conflict"),
  (410, "Gone"), (411, "Length Required"), (412, "Precondition Failed"),
  (413, "Payload Too Large"), (414, "URI Too Long"), (415, "Unsupported Media Type"),
  (416, "Range Not Satisfiable"), (417, "Expectation Failed"), (418, "I'm a teapot"),
  (421, "Misdirected Request"), (422, "Unprocessable Entity"), (423, "Locked"),
  (424, "Failed Dependency"), (425, "Too Early"), (426, "Upgrade Required"),
  (428, "Precondition Required"), (429, "Too Many Requests"),
  (431, "Request Header Fields Too Large"), (451, "Unavailable For Legal Reasons"),
  (500, "Internal Server Error"), (501, "Not Implemented"), (502, "Bad Gateway"),
  (503, "Service Unavailable"), (504, "Gateway Timeout"), (505, "HTTP Version Not Supported"),
  (506, "Variant Also Negotiates"), (507, "Insufficient Storage"), (508, "Loop Detected"),
  (510, "Not Extended"), (511, "Network Authentication Required")]

/-- The reason that a status code stands for. A status without an entry is worded too, so a blank
answer always fails with some message. -/
def reason (status : Nat) : String :=
  match reasons.find? (·.1 == status) with
  | some (_, text) => text
  | none => "unknown error"

/-- Whether a status reports success. There are exactly a hundred such statuses. A status of
information or of a redirect reports none, though it reports no failure either. -/
def isSuccess (status : Nat) : Bool := 200 ≤ status && status < 300

/-- The failure that an answer without success stands for. A description that the engine gives takes
the place of the status that was answered, so the two may differ. Without one the text itself is the
message, and the reason stands in for a text that is blank. -/
def failure (status : Nat) (text : String) : EngineError :=
  match ErrorBody.ofText? text with
  | some body => .refused body.status body.message
  | none => .refused status (if Text.allBlank text then reason status else text)

/-- What an answer's status and text mean. A success is read whole or not at all: a text that is not
JSON makes it a failure of its own kind, `EngineError.unreadable`. -/
def meaning (status : Nat) (text : String) : Answer :=
  if !isSuccess status then .error (failure status text)
  else if Text.allBlank text then .ok .null
  else
    match Json.parse? text with
    | some v => .ok v
    | none => .error (.unreadable "the body is not JSON")

/-- What is given back for what was handed over, by a client with some time-out. A fault below the
level of answers and a body that cannot be got hold of come to the same, and in neither case is the
status looked at. -/
def answer (timeout : Duration) : HttpResponse → Answer
  | failed fault | answered _ (.error fault) => .error (fault.error timeout)
  | answered status (.ok text) => meaning status text

end HttpResponse

namespace Endpoint

/-- Credentials as they are sent. The two are joined by a colon before they are encoded, so a colon
in the user's name cannot be told from the one that joins. -/
def authorization (user password : String) : String :=
  "Basic " ++ Text.Base64.encode (Text.Utf8.encode (user ++ ":" ++ password))

/-- The address that a request is for, if it is one. There is none where base address and path make
no address together, and then nothing is sent. -/
def destination? (e : Endpoint) (r : Request) : Option Url := Url.ofText? (e.url r.path)

/-- What is sent for a request to its address. The record's credentials come before those that stand
in the address. A body is written in its compact form, and its type is said only if there is one. -/
def sent (e : Endpoint) (r : Request) (url : Url) : SentRequest where
  method := r.method
  target := url.target
  authorization := (e.credentials.or url.credentials).map (fun (user, password) =>
    authorization user password)
  contentType := r.body.map (fun _ => "application/json")
  body := match r.body with
    | some v => v.compact
    | none => ""

/-- The answer to a request that is for no address. It is not even tried. The wording is that of the
HTTP client, which refuses to build such a request. -/
def unaddressed : Answer := .error (.transport "builder error")

/-- The answer to a request for which nobody listens. A client that was built names the address in
its message, as it is written after it was read. -/
def unreached (e : Endpoint) (r : Request) : Answer :=
  match e.destination? r with
  | some url => .error (.transport ("error sending request for url (" ++ url.text ++ ")"))
  | none => unaddressed

/-- **The answer to a request**, through an HTTP client that gets some replies. Of the replies it
sees what the HTTP client makes of them, and of the HTTP client only the one response that it hands
over: it asks once, and it does not ask again when that fails. -/
def request (client : HttpClient) (e : Endpoint) (r : Request) (replies : Nat → HttpReply) :
    Answer :=
  match e.destination? r with
  | some _ => (client replies).answer e.timeout
  | none => unaddressed

end Endpoint

/-- The answer to a request that leads nowhere. A supplied client has no address that could be
named, so its message is the shorter one. -/
def Call.unanswered (call : Call) : Answer :=
  match call.client with
  | .built _ e => e.unreached call.request
  | .supplied _ => .error (.transport "error sending request")

end Testbed

import Testbed.Engine.Host
import Testbed.Engine.Target

/-!
# Addresses of requests

The full address of a request, taken apart into what a client needs: whom to connect to, what to
ask for, and with which credentials. A text that cannot be taken apart is no address, and nothing
is sent for it.
-/

namespace Testbed

/-- **An address.** It is what remains of a text when it was understood; two texts may have the same
address. -/
structure Url where
  /-- The protocol. -/
  protocol : String
  /-- User and password in front of the host, if there are any. -/
  credentials : Option (String × String)
  /-- The host. -/
  host : Host
  /-- The port. -/
  port : Nat
  /-- Path and query in the form in which they are sent. -/
  target : String
  /-- What is looked for in the answer. It is not sent. -/
  fragment : Option String := none
  deriving DecidableEq, Repr

namespace Url

/-- Whether a character ends the part of an address that names the host. A backslash counts as a
slash here too. -/
def endsAuthority (c : Char) : Bool := c == '/' || c == '\\' || c == '?' || c == '#'

/-- The texts before and after the last character of a kind; nothing before if there is none.
Credentials may contain the mark themselves, so it is the last that counts. -/
def splitAtLast (mark : Char) (l : List Char) : List Char × List Char :=
  let after := (l.reverse.takeWhile (· != mark)).reverse
  (l.take (l.length - after.length - 1), after)

/-- The credentials in front of a host. A password without a user counts, and so does the reverse;
where both are empty there are none. -/
def credentials? (l : List Char) : Option (String × String) := do
  let user ← Host.unescaped? (l.takeWhile (· != ':'))
  let rest := (l.dropWhile (· != ':')).drop 1
  let password := if rest.isEmpty then none else Host.unescaped? rest
  if user.isEmpty ∧ password.isNone then none
  else return (String.ofList user, String.ofList (password.getD []))

/-- The text of a host and the text behind it. A colon ends a host outside brackets. Brackets
enclose a number with colons of its own. -/
def splitHost (inBrackets : Bool) : List Char → List Char × List Char
  | [] => ([], [])
  | c :: rest =>
    if c = ':' ∧ !inBrackets then ([], c :: rest)
    else
      let (host, after) :=
        splitHost (if c = '[' then true else if c = ']' then false else inBrackets) rest
      (c :: host, after)

/-- The greatest port. It is the last of 16 bits. -/
def greatestPort : Nat := 65535

/-- The port that is written behind a host, or the usual one. A colon without digits is as good as
none. -/
def port? (usual : Nat) (l : List Char) : Option Nat :=
  match l with
  | [] | [':'] => some usual
  | _ :: digits =>
    if digits.all Char.isDigit then
      let n := digits.foldl (fun n d => n * 10 + (d.toNat - '0'.toNat)) 0
      if n ≤ greatestPort then some n else none
    else none

/-- The port that is usual for a protocol. A protocol other than these two is none of an engine's.
-/
def usualPort (protocol : String) : Nat := if protocol = "https" then 443 else 80

/-- The fragment of an address in its written form, if it has one. It starts behind the first mark.
-/
def fragment? (l : List Char) : Option String :=
  match l.dropWhile (· != '#') with
  | [] => none
  | _ :: f => some (String.ofList (Target.encode Target.encodedInFragment f))

/-- **Reads an address** of the two protocols of the web. Any number of slashes, of either kind,
stands before the host. Blanks at both ends and line breaks anywhere are dropped first. Host and
port can spoil an address, and nothing else can. -/
def ofText? (text : String) : Option Url := do
  let l := ((text.toList.dropWhile Target.isEdge).reverse.dropWhile Target.isEdge).reverse
  let l := l.filter (!Target.isDropped ·)
  let protocol := String.ofList (l.takeWhile (· != ':'))
  let l := ((l.dropWhile (· != ':')).drop 1).dropWhile (fun c => c == '/' || c == '\\')
  let authority := l.takeWhile (!endsAuthority ·)
  let (user, place) := splitAtLast '@' authority
  let (host, port) := splitHost false place
  let rest := l.dropWhile (!endsAuthority ·)
  return {
    protocol
    credentials := credentials? user
    host := ← Host.ofChars? host
    port := ← port? (usualPort protocol) port
    target := Target.ofText (String.ofList rest)
    fragment := fragment? rest }

/-- The written form of an address. Credentials are not shown, and neither is the usual port. It is
what the message about a failed connection shows. -/
def text (u : Url) : String :=
  let port := if u.port = usualPort u.protocol then "" else ":" ++ toString u.port
  let fragment := match u.fragment with
    | some f => "#" ++ f
    | none => ""
  u.protocol ++ "://" ++ u.host.text ++ port ++ u.target ++ fragment

end Url

end Testbed

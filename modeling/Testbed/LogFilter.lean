import Testbed.LogPattern
import Testbed.Logging
import Testbed.Text.AlphanumericTable
import Testbed.Text.Blank
import Testbed.Text.Utf8

/-!
# Log filters

Which events are logged. A filter is a list of rules separated by commas: a level for everything, a
level for the parts whose names start in some way, or such a name alone, which lets everything of
it through. Of the rules that fit an event the most specific one counts – the one with the longest
name, then the one with more fields –, and of equally specific ones the later.

A rule may name a span and fields in brackets, `name[span{field=value}]=level`. Events lie in
no span and carry the field `message` alone, so rules that ask for a span, another field or a value
fit none of them.
-/

namespace Testbed

/-- A rule of a filter. A rule that names nothing is about everything. -/
structure LogRule where
  /-- What the names of the parts start with; nothing for all parts. -/
  target : Option String := none
  /-- The name of the span that an event should lie in. -/
  span : Option String := none
  /-- The fields that an event should have, and whether they should have a certain value. -/
  fields : List (String × Bool) := []
  /-- The most detailed level that is let through, if any is. -/
  level : Option LogLevel := some .trace
  deriving DecidableEq

namespace LogRule

/-- The levels by number, from none on. There are six, and a larger number is no level. -/
def numbered : List (Option LogLevel) :=
  [none, some .error, some .warn, some .info, some .debug, some .trace]

/-- Whether two words are the same, whatever the case of their letters. Only ASCII letters lose
their case. -/
def sameWord (a b : List Char) : Bool := a.map Char.toLower == b.map Char.toLower

/-- The level that a number writes. A plus sign may stand in front. -/
def levelNumbered? (l : List Char) : Option (Option LogLevel) :=
  let digits := match l with
    | '+' :: rest => rest
    | l => l
  if !digits.isEmpty && digits.all Char.isDigit then numbered[(String.ofList digits).toNat?.getD 6]?
  else none

/-- Reads a level: a number, a word, or nothing, which is the level of errors. Any other word has
none. -/
def level? (l : List Char) : Option (Option LogLevel) :=
  match levelNumbered? l with
  | some level => some level
  | none =>
    if l.isEmpty then some (some .error)
    else if sameWord l "off".toList then some none
    else ((LogLevel.words.find? (fun w => sameWord l w.1.toList)).map (fun w => some w.2))

/-- Whether a rule may start with a character, brackets apart. Letters of all scripts may. -/
def startsName (c : Char) : Bool :=
  c == '-' || c == ':' || c == '_' || Text.alphanumericSet.mem c

/-! ## Reading

Marks are looked for in a rule without the blanks around it, but the places where they are found
are counted in the rule as it stands, blanks and all, and that is what the pieces between them are
cut out of. So a rule with a blank before it means something else, and where a cut falls inside a
character there is no piece at all. -/

/-- What is wrong with a rule. A malformed rule is ignored with its filter; the other fault ends the
program. -/
inductive Fault where
  /-- It is malformed. -/
  | malformed
  /-- A cut falls inside a character. -/
  | splitCharacter
  deriving DecidableEq, Repr

/-- The characters of a text with the places of their first bytes, the first of which is given. They
are counted in bytes. -/
def places (start : Nat) : List Char → List (Nat × Char)
  | [] => []
  | c :: rest => (start, c) :: places (start + c.utf8Size) rest

/-- The rest of a text from the first of some marks on. There is nothing left if none of them
occurs. -/
def seek (marks : List Char) (l : List (Nat × Char)) : List (Nat × Char) :=
  l.dropWhile (fun p => !marks.contains p.2)

/-- Whether a place in some bytes is one where a character starts, or their end. A place beyond the
end counts as one. -/
def isBoundary (bytes : List UInt8) (place : Nat) : Bool :=
  match bytes[place]? with
  | some b => b.toNat < 0x80 || 0xc0 ≤ b.toNat
  | none => true

/-- The piece of a text between two places. It is empty where the second place is not behind the
first. -/
def piece (text : String) (start stop : Nat) : Except Fault String :=
  let bytes := Text.Utf8.encode text
  if isBoundary bytes start && isBoundary bytes stop then
    match Text.Utf8.decode? ((bytes.drop start).take (stop - start)) with
    | some s => .ok s
    | none => .error .splitCharacter
  else .error .splitCharacter

/-- Ends a rule with the level behind a place. Nothing there stands for all detail. A word that is
no level spoils the rule. -/
def withLevel (r : LogRule) (text : String) (start : Nat) : Except Fault LogRule := do
  let word ← piece text start text.utf8ByteSize
  if word = "" then return r
  else
    match level? word.toList with
    | some level => return { r with level }
    | none => throw .malformed

/-- Reads what follows brackets. Anything but a level is malformed. -/
def afterBrackets (r : LogRule) (text : String) : List (Nat × Char) → Except Fault LogRule
  | [] => .ok r
  | (i, '=') :: _ => withLevel r text (i + 1)
  | _ => .error .malformed

/-- Reads a field: its name and whether it should have a value. What stands behind a second equals
sign does not count. The value has to be a pattern. -/
def field? (l : List Char) : Option (String × Bool) :=
  let name := String.ofList (l.takeWhile (· != '='))
  match l.dropWhile (· != '=') with
  | [] => if l.isEmpty then none else some (name, false)
  | _ :: value =>
    if LogPattern.isValue (String.ofList (value.takeWhile (· != '='))) then some (name, true)
    else none

/-- Reads a field and what follows it. -/
def withField (r : LogRule) (text : String) (start : Nat) (l : List (Nat × Char)) :
    Except Fault LogRule := do
  match seek ['\x7d'] l with
  | [] => throw .malformed
  | (i, _) :: rest =>
    match field? (← piece text start i).toList, rest with
    | some field, (_, ']') :: rest => afterBrackets { r with fields := [field] } text rest
    | _, _ => throw .malformed

/-- Reads a span and what follows it. -/
def withSpan (r : LogRule) (text : String) (start : Nat) (l : List (Nat × Char)) :
    Except Fault LogRule := do
  match seek [']', '\x7b'] l with
  | [] => throw .malformed
  | (i, mark) :: rest =>
    let span ← piece text start i
    if mark = ']' then afterBrackets { r with span := some span } text rest
    else withField { r with span := if span = "" then none else some span } text (i + 1) rest

/-- Reads a rule. A rule that is a level alone is about all parts. -/
def ofText (text : String) : Except Fault LogRule :=
  let l := places 0 (Text.trimList text.toList)
  match l with
  | [] => .error .malformed
  | (_, '[') :: rest => withSpan {} text 1 rest
  | (_, c) :: _ =>
    if !startsName c then .error .malformed
    else
      match seek ['=', '['] l with
      | [] =>
        match level? text.toList with
        | some level => .ok { level }
        | none => .ok { target := some text }
      | (i, mark) :: rest => do
        let target := some (← piece text 0 i)
        if mark = '=' then withLevel { target } text (i + 1) else withSpan { target } text (i + 1) rest

/-! ## Events -/

/-- The field that events have. -/
def eventField : String := "message"

/-- Whether the rule is about the events of a part. A prefix need not end where a part of the name
does. -/
def fits (r : LogRule) (target : String) : Bool :=
  r.span.isNone && r.fields.all (· == (eventField, false))
    && match r.target with
      | none => true
      | some name => name.toList.isPrefixOf target.toList

/-- The length of the rule's name; a rule without one is shorter than all others. -/
def nameLength (r : LogRule) : Nat :=
  match r.target with
  | none => 0
  | some name => name.length + 1

/-- Whether the second rule is at least as specific as the first. Names are compared before fields.
-/
def yields (r other : LogRule) : Bool :=
  r.nameLength < other.nameLength
    || (r.nameLength == other.nameLength && r.fields.length ≤ other.fields.length)

/-- Whether the rule lets a level through. A rule that is off lets nothing through. -/
def lets (r : LogRule) (level : LogLevel) : Bool :=
  r.level.any (fun most => level.detail ≤ most.detail)

end LogRule

/-- A filter. The order matters only among rules that are equally specific. -/
abbrev LogFilter := List LogRule

namespace LogFilter

/-- The parts of a text between commas. There is one more of them than there are commas. -/
def parts : List Char → List (List Char)
  | [] => [[]]
  | c :: rest =>
    if c = ',' then [] :: parts rest
    else
      match parts rest with
      | [] => [[c]]
      | p :: more => (c :: p) :: more

/-- Reads a filter; one without rules lets errors through. Empty parts are left out. -/
def ofText (text : String) : Except LogRule.Fault LogFilter := do
  let rules ← ((parts text.toList).filter (!·.isEmpty)).mapM
    (fun part => LogRule.ofText (String.ofList part))
  return if rules.isEmpty then [{ level := some .error }] else rules

/-- The more specific of two rules; of equally specific ones the second. Rules are compared one
after another. -/
def stronger (best : Option LogRule) (r : LogRule) : Option LogRule :=
  match best with
  | some b => if b.yields r then some r else some b
  | none => some r

/-- Whether an event is let through. Where no rule fits, it is not. -/
def lets (f : LogFilter) (level : LogLevel) (target : String) : Bool :=
  ((f.filter (·.fits target)).foldl stronger none).any (·.lets level)

/-- The filter of the settings: the parts' events at the level in force. Other parts are silent. -/
def ofSettings (s : LogSettings) : LogFilter :=
  LogSettings.targets.map (fun t => { target := some t, level := some s.effective })

/-- The filter in force: the one that is asked for, unless it is malformed, or that of the settings.
One that is asked for replaces that of the settings altogether. -/
def inForce (asked : Option String) (s : LogSettings) : Except LogRule.Fault LogFilter :=
  match asked with
  | none => .ok (ofSettings s)
  | some text =>
    match ofText text with
    | .error .malformed => .ok (ofSettings s)
    | result => result

end LogFilter

end Testbed

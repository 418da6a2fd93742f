import Testbed.Json.Basic
import Testbed.Number.Layout
import Testbed.Text.Quoted

/-!
# Decoding values

Typed readers of JSON values, and the errors they end in. An error is a cause
(`DecodeError`) with one wording (`DecodeError.message`). Three shapes recur: a *named choice*
(a name, or an object with that name as its one key and `null` under it), a *record* (an object
whose further members are ignored, or an array of exactly its fields in order) and plain texts and
bounded integers. In an object the members present are read first, in key order; only then is a
missing field an error, in the order in which the record declares its fields.
-/

namespace Testbed

/-- Why a value could not be decoded. Each keeps what was found and what was expected, and is worded
only when somebody reads it. -/
inductive DecodeError where
  /-- The value is of another kind than expected. -/
  | invalidType (found : Json) (expected : String)
  /-- The value is of the expected kind and out of range. -/
  | invalidValue (found : Json) (expected : String)
  /-- An array has the wrong number of items. -/
  | invalidLength (found : Nat) (expected : String)
  /-- A field of a record is absent. -/
  | missingField (name : String)
  /-- A name is none of a choice's names. -/
  | unknownVariant (name : String) (expected : List String)
  deriving DecidableEq

namespace Json

/-- A value as a decoding error shows it. Of what is inside a list or an object nothing is shown. -/
def describe : Json → String
  | .null => "null"
  | .bool b => "boolean `" ++ (if b then "true" else "false") ++ "`"
  | .int n => "integer `" ++ toString n ++ "`"
  | .float x => "floating point `" ++ x.render .json ++ "`"
  | .str s => "string " ++ Text.quote s
  | .arr _ => "sequence"
  | .obj _ => "map"

end Json

namespace DecodeError

/-- A name between backticks. Backticks within the name are left alone. -/
def ticked (name : String) : String := "`" ++ name ++ "`"

/-- The names of a choice as an error lists them. Two names are joined by a word, and more of them
are a list. -/
def listNames : List String → String
  | [] => "there are no variants"
  | [a] => "expected " ++ ticked a
  | [a, b] => "expected " ++ ticked a ++ " or " ++ ticked b
  | names => "expected one of " ++ ", ".intercalate (names.map ticked)

/-- The wording of an error. The wording does not say where the value stood; whoever reads a record
adds that. -/
def message : DecodeError → String
  | invalidType found expected => "invalid type: " ++ found.describe ++ ", expected " ++ expected
  | invalidValue found expected => "invalid value: " ++ found.describe ++ ", expected " ++ expected
  | invalidLength found expected =>
    "invalid length " ++ toString found ++ ", expected " ++ expected
  | missingField name => "missing field " ++ ticked name
  | unknownVariant name expected =>
    "unknown variant " ++ ticked name ++ ", " ++ listNames expected

end DecodeError

namespace Json

/-- Decodes a text. Numbers are not taken for texts. -/
def decodeText (v : Json) : Except DecodeError String :=
  match v with
  | .str s => .ok s
  | v => .error (.invalidType v "a string")

/-- Decodes an unsigned integer of some bits. A float is none, even where it is whole. The error
names the width, and the value that does not fit it. -/
def decodeUnsigned (bits : Nat) (v : Json) : Except DecodeError Nat :=
  match v with
  | .int n =>
    if 0 ≤ n ∧ n < Nat.pow 2 bits then .ok n.toNat
    else .error (.invalidValue v ("u" ++ toString bits))
  | v => .error (.invalidType v ("u" ++ toString bits))

theorem decodeText_eq_ok {v : Json} {s : String} : v.decodeText = .ok s ↔ v = .str s := by
  cases v <;> simp [decodeText]

theorem decodeUnsigned_eq_ok {bits n : Nat} {v : Json} :
    v.decodeUnsigned bits = .ok n ↔ v = .nat n ∧ n < Nat.pow 2 bits := by
  unfold decodeUnsigned
  split
  · rename_i i
    constructor
    · intro h
      split at h
      · rename_i hbound
        obtain ⟨hnonneg, hlt⟩ := hbound
        cases h
        exact ⟨congrArg int (Int.toNat_of_nonneg hnonneg).symm, (Int.toNat_lt hnonneg).mpr hlt⟩
      · cases h
    · rintro ⟨hi, hlt⟩
      cases hi
      exact if_pos ⟨Int.natCast_nonneg n, Int.ofNat_lt.mpr hlt⟩
  · rename_i hint
    refine iff_of_false nofun ?_
    rintro ⟨rfl, -⟩
    exact hint _ rfl

/-- Decodes a value or its absence, written `null`. Absence as a missing member is the reader's own
affair; here it is written out. -/
def decodeOptional {α : Type} (decode : Json → Except DecodeError α) (v : Json) :
    Except DecodeError (Option α) :=
  match v with
  | .null => .ok none
  | v => (decode v).map some

/-- The choice with a name. The names are compared letter by letter. -/
def variantNamed {α : Type} (variants : List (String × α)) (name : String) :
    Except DecodeError α :=
  match variants.find? (·.1 == name) with
  | some (_, a) => .ok a
  | none => .error (.unknownVariant name (variants.map (·.1)))

/-- Decodes a named choice. The choices that are read here have nothing inside, so anything but
`null` under the name is an error. -/
def decodeVariant {α : Type} (variants : List (String × α)) (v : Json) : Except DecodeError α :=
  match v with
  | .str name => variantNamed variants name
  | .obj [(name, content)] => do
    let a ← variantNamed variants name
    match content with
    | .null => return a
    | content => throw (.invalidType content "unit")
  | .obj _ => .error (.invalidValue v "map with a single key")
  | v => .error (.invalidType v "string or map")

/-- The value of a field that was read, or the error of its absence. The name is that of the member,
and not of whatever the field is called elsewhere. -/
def requireField {α : Type} (name : String) (field : Option α) : Except DecodeError α :=
  match field with
  | some a => .ok a
  | none => .error (.missingField name)

end Json

end Testbed

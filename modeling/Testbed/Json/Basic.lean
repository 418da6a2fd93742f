import Testbed.Dict
import Testbed.Number.Binary64

/-!
# JSON values

The values that engines and callers exchange. Integers of up to 64 bits and floating-point numbers
are told apart: `1` and `1.0` are different values, and only the first is an integer anywhere. An
object is a list of members; the reader and all constructors used here keep their keys ascending,
and `Json.members?` gives them as a dictionary whatever their order.

Values are compared with `Json.same`, which differs from equality in one point: a zero is a zero
whatever its sign.
-/

namespace Testbed

/-- A JSON value. Integers and floats are two constructors. A text consists of characters, so half
of a surrogate pair has no value here. -/
inductive Json where
  | null
  | bool (b : Bool)
  | int (n : Int)
  | float (x : Binary64)
  | str (s : String)
  | arr (items : List Json)
  | obj (members : List (String × Json))
  deriving Inhabited

namespace Json

mutual

/-- Decides equality of values. It goes through both values at once; the cases that do not match are
listed so that a new constructor would be noticed. -/
def decEq : (a b : Json) → Decidable (a = b)
  | .null, .null => isTrue rfl
  | .bool a, .bool b => decidable_of_iff (a = b) (by simp)
  | .int a, .int b => decidable_of_iff (a = b) (by simp)
  | .float a, .float b => decidable_of_iff (a = b) (by simp)
  | .str a, .str b => decidable_of_iff (a = b) (by simp)
  | .arr a, .arr b =>
    have := decEqItems a b
    decidable_of_iff (a = b) (by simp)
  | .obj a, .obj b =>
    have := decEqMembers a b
    decidable_of_iff (a = b) (by simp)
  | .null, .bool _ | .null, .int _ | .null, .float _ | .null, .str _ | .null, .arr _
  | .null, .obj _ | .bool _, .null | .bool _, .int _ | .bool _, .float _ | .bool _, .str _
  | .bool _, .arr _ | .bool _, .obj _ | .int _, .null | .int _, .bool _ | .int _, .float _
  | .int _, .str _ | .int _, .arr _ | .int _, .obj _ | .float _, .null | .float _, .bool _
  | .float _, .int _ | .float _, .str _ | .float _, .arr _ | .float _, .obj _ | .str _, .null
  | .str _, .bool _ | .str _, .int _ | .str _, .float _ | .str _, .arr _ | .str _, .obj _
  | .arr _, .null | .arr _, .bool _ | .arr _, .int _ | .arr _, .float _ | .arr _, .str _
  | .arr _, .obj _ | .obj _, .null | .obj _, .bool _ | .obj _, .int _ | .obj _, .float _
  | .obj _, .str _ | .obj _, .arr _ => isFalse (by simp)

/-- Decides equality of lists of values. -/
def decEqItems : (a b : List Json) → Decidable (a = b)
  | [], [] => isTrue rfl
  | [], _ :: _ | _ :: _, [] => isFalse (by simp)
  | x :: a, y :: b =>
    have := decEq x y
    have := decEqItems a b
    decidable_of_iff (x = y ∧ a = b) (by simp)

/-- Decides equality of lists of members. -/
def decEqMembers : (a b : List (String × Json)) → Decidable (a = b)
  | [], [] => isTrue rfl
  | [], _ :: _ | _ :: _, [] => isFalse (by simp)
  | (k, x) :: a, (l, y) :: b =>
    have := decEq x y
    have := decEqMembers a b
    decidable_of_iff ((k = l ∧ x = y) ∧ a = b) (by simp)

end

instance : DecidableEq Json := decEq

mutual

/-- The value with the signs of zeros forgotten. It goes all the way down, into lists and members.
-/
def unsignedZeros : Json → Json
  | .float x => .float x.unsignedZero
  | .arr items => .arr (unsignedZerosItems items)
  | .obj members => .obj (unsignedZerosMembers members)
  | .null => .null
  | .bool b => .bool b
  | .int n => .int n
  | .str s => .str s

/-- `unsignedZeros` on each item. -/
def unsignedZerosItems : List Json → List Json
  | [] => []
  | x :: rest => unsignedZeros x :: unsignedZerosItems rest

/-- `unsignedZeros` on each member. -/
def unsignedZerosMembers : List (String × Json) → List (String × Json)
  | [] => []
  | (k, x) :: rest => (k, unsignedZeros x) :: unsignedZerosMembers rest

end

/-- Whether two values are the same, the sign of zeros aside. The order of members does not matter
to it where they are kept ascending, and an integer is never the same as a float. -/
def same (a b : Json) : Bool := a.unsignedZeros == b.unsignedZeros

/-- Whether two optional values are the same. An absent value is not the same as `null`. -/
def sameOpt : Option Json → Option Json → Bool
  | none, none => true
  | some a, some b => a.same b
  | _, _ => false

@[simp] theorem same_self (a : Json) : a.same a = true := by simp [same]

/-- The object with the members of a dictionary. Its members ascend, since a dictionary's entries
do. -/
def ofDict (d : Dict String Json) : Json := .obj d.entries

/-- The object with some members, given in any order. Of two with one key the later one counts. -/
def mkObj (members : List (String × Json)) : Json := ofDict (Dict.ofList members)

/-- The members of an object. There are none, not even an empty dictionary, where the value is no
object. -/
def members? : Json → Option (Dict String Json)
  | .obj members => some (Dict.ofList members)
  | _ => none

/-- The value under a key of an object. Of two members with one key the first one counts. -/
def get? (v : Json) (key : String) : Option Json :=
  match v with
  | .obj members => Dict.getEntry key members
  | _ => none

/-- The text of a string. -/
def str? : Json → Option String
  | .str s => some s
  | _ => none

/-- A truth value. -/
def bool? : Json → Option Bool
  | .bool b => some b
  | _ => none

/-- The items of an array. -/
def arr? : Json → Option (List Json)
  | .arr items => some items
  | _ => none

/-- An integer below a bound, zero included. The bound itself is excluded. A float is no integer,
and neither is a negative number. -/
def natBelow? (bound : Nat) : Json → Option Nat
  | .int n => if 0 ≤ n ∧ n < bound then some n.toNat else none
  | _ => none

/-- An unsigned integer of 32 bits. Counts of adapters and ports that are reported are read by it.
-/
def nat32? (v : Json) : Option Nat := v.natBelow? UInt32.size

/-- A natural number as a value. There is no bound: numbers of any size can be written. -/
def nat (n : Nat) : Json := .int n

/-- A text or `null`. -/
def strOrNull : Option String → Json
  | some s => .str s
  | none => .null

/-- A number or `null`. -/
def natOrNull : Option Nat → Json
  | some n => .nat n
  | none => .null

/-- Whether the value is `null`. -/
def isNull : Json → Bool
  | .null => true
  | _ => false

end Json

end Testbed

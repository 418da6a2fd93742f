import Testbed.Dict
import Testbed.Number.Layout
import Testbed.Toml.Datetime

/-!
# TOML values

The values that configuration files hold. A table is a list of entries; the reader keeps its keys
ascending, and `Toml.tableOf` is how one is built.

Whole numbers have no bound here, and tables no order in their type. That numbers fit into 64 bits
and keys ascend is what reading a text sees to.
-/

namespace Testbed

/-- A TOML value. An array of tables is an array like others. -/
inductive Toml where
  | str (s : String)
  | int (n : Int)
  | float (x : Binary64)
  | bool (b : Bool)
  | datetime (d : Datetime)
  | arr (items : List Toml)
  | table (entries : List (String × Toml))
  deriving Inhabited

namespace Toml

/-- What is wrong with a text that is no TOML, or with the first of its faults. The reader gives up
at the first fault, and this says which kind it was. -/
inductive Fault where
  /-- It breaks a rule of the format. -/
  | malformed
  /-- A key has too many parts. -/
  | keyTooLong
  deriving DecidableEq, Repr

/-- The table with some entries, given in any order. Of two entries with one key the later one
stays. -/
def tableOf (entries : List (String × Toml)) : Toml := .table (Dict.ofList entries).entries

/-- The text of a scalar. A number is given in a form of its own, which need not be the one in which
it was written. -/
def scalarText? : Toml → Option String
  | .str s => some s
  | .int n => some (toString n)
  | .float x => some (x.render .plain)
  | .bool b => some (if b then "true" else "false")
  | .datetime _ | .arr _ | .table _ => none

end Toml

end Testbed

import Testbed.Toml.Basic

/-!
# Growing tables

How the statements of a text build up its tables. A table can come into being in three ways – by a
header of its own, as a step on the way of another header, or by a key with dots – and which way it
was decides what may still be added to it: a header may stand once for a table, and only for one
that no dotted key made; dotted keys extend only what dotted keys made. Tables and arrays that are
written as values are complete as they stand.

A table that grows is a list of entries in the order of their first mention; `find_put` says what
is found in it after a change.
-/

namespace Testbed.Toml

/-- How a table came into being. The text itself counts as a table with a header. -/
inductive Origin where
  /-- A header stands for it, or it is the text itself. -/
  | header
  /-- It is a step on the way of a header. -/
  | passed
  /-- A key with dots made it. -/
  | dotted
  deriving DecidableEq, Repr

/-- What stands under a key while the text is read. Only the last two can still grow. -/
inductive Item where
  /-- A complete value. -/
  | value (v : Toml)
  /-- A table. -/
  | table (origin : Origin) (entries : List (String × Item))
  /-- Tables in a row, one header each; the last of them can grow. -/
  | tables (earlier : List (List (String × Item))) (last : List (String × Item))

/-- The entries of a table that grows, in the order of their keys' first mention. A key stands in it
once at most, as far as `put` has made it. -/
abbrev Outline := List (String × Item)

namespace Outline

/-- What stands under a key. Of two entries with one key it would be the first. -/
def find? (key : String) : Outline → Option Item
  | [] => none
  | (k, item) :: rest => if k = key then some item else find? key rest

/-- Puts an item under a key. An entry that was there keeps its place. -/
def put (key : String) (item : Item) : Outline → Outline
  | [] => [(key, item)]
  | (k, old) :: rest => if k = key then (key, item) :: rest else (k, old) :: put key item rest

/-- What is put under a key is found there, and everything else where it was. -/
theorem find_put (key other : String) (item : Item) (entries : Outline) :
    find? other (put key item entries) = if other = key then some item else find? other entries := by
  induction entries with
  | nil => simp [put, find?, eq_comm]
  | cons e rest ih =>
    obtain ⟨k, old⟩ := e
    by_cases hk : k = key
    · subst hk
      by_cases ho : other = k <;> simp [put, find?, ho, eq_comm]
    · by_cases ho : other = k
      · subst ho
        simp [put, find?, hk]
      · simp [put, find?, hk, Ne.symm ho, ih]

/-- A change of a table, which has come into being in some way. It is refused where the rules forbid
it, and then the text is malformed. -/
abbrev Change := Origin → Outline → Option Outline

/-- Makes a change at the end of a path. Tables that are missing on the way come into being. A table
in a row stands for its last one. What is written as a value cannot be passed, and a dotted key does
not pass a table that a header has made. -/
def atPath (made : Origin) (change : Change) (origin : Origin) :
    List String → Outline → Option Outline
  | [], entries => change origin entries
  | key :: path, entries =>
    match find? key entries with
    | none => do
      let inner ← atPath made change made path []
      return put key (.table made inner) entries
    | some (.table before inner) =>
      if made = .dotted ∧ before = .header then none
      else do
        let inner ← atPath made change before path inner
        return put key (.table before inner) entries
    | some (.tables earlier last) =>
      do
        let last ← atPath made change .header path last
        return put key (.tables earlier last) entries
    | some (.value _) => none

/-- Puts a value under a new key of a table that keys of this kind may extend. A key that is there
already is never replaced. -/
def putValue (key : String) (v : Toml) (isDotted : Bool) : Change := fun origin entries =>
  if (origin == .dotted) != isDotted then none
  else if (find? key entries).isSome then none
  else some (put key (.value v) entries)

/-- A key and its value, below a table. All parts of the key but the last are a path, which dotted
keys make. -/
def addPair (path : List String) (key : String) (v : Toml) : Change := fun origin entries =>
  atPath .dotted (putValue key v !path.isEmpty) origin path entries

/-- A header of a table. One that was passed on the way becomes a table with a header; any other
that is there is an error. -/
def openTable (key : String) : Change := fun _ entries =>
  match find? key entries with
  | none => some (put key (.table .header []) entries)
  | some (.table .passed inner) => some (put key (.table .header inner) entries)
  | some _ => none

/-- Adds a table to a row, which comes into being with its first. A table that is no row cannot
become one. -/
def addRow (key : String) (row : Outline) : Change := fun _ entries =>
  match find? key entries with
  | none => some (put key (.tables [] row) entries)
  | some (.tables earlier last) => some (put key (.tables (earlier ++ [last]) row) entries)
  | some _ => none

end Outline

mutual

/-- The value of an item when the text has been read. It does not matter any more how a table came
into being. -/
def Item.toToml : Item → Toml
  | .value v => v
  | .table _ entries => .tableOf (Item.entriesToml entries)
  | .tables earlier last =>
    .arr (Item.rowsToml earlier ++ [.tableOf (Item.entriesToml last)])

/-- The values of entries. They are in the order of their first mention still. -/
def Item.entriesToml : List (String × Item) → List (String × Toml)
  | [] => []
  | (key, item) :: rest => (key, item.toToml) :: Item.entriesToml rest

/-- The values of tables in a row. The order of a row is kept. -/
def Item.rowsToml : List (List (String × Item)) → List Toml
  | [] => []
  | row :: rest => .tableOf (Item.entriesToml row) :: Item.rowsToml rest

end

/-- The entries of a whole table, by key. This is where they are put in order. -/
def Outline.toDict (entries : Outline) : Dict String Toml := .ofList (Item.entriesToml entries)

end Testbed.Toml

/-!
# Joining paths

A path is a row of letters, one of which separates names and one of which is the dot. What the
letters are depends on who holds the path. The control plane writes its own paths as texts, so that
theirs are characters (`FilePath`); the file system keeps bytes, and these need not be a text
(`OsPath`). Everything that is done with a path looks at no other letter than those two, which is
why it is defined once, for any letters (`WrittenPath`).

Joining puts a relative path under a directory with one separator between them; an absolute path
replaces the directory. Nothing is normalised: an empty name leaves the separator, and dots stay.
-/

namespace Testbed

/-- What paths are written with: letters, with a separator and a dot among them. That the two are
different letters is true of both kinds of paths and not asked for here. -/
class PathLetter (α : Type) where
  /-- What stands between two names, and in front of an absolute path. -/
  separator : α
  /-- What the name of the directory itself is, and twice the step up. -/
  dot : α

instance : PathLetter Char := ⟨'/', '.'⟩

instance : PathLetter UInt8 := ⟨0x2f, 0x2e⟩

namespace WrittenPath

open PathLetter

variable {α : Type} [DecidableEq α] [PathLetter α]

/-- Whether a path starts at the root. The empty path is relative. -/
def isAbsolute (path : List α) : Bool := path.head? == some separator

/-- The directory with the separator that a name can follow. An empty directory stays empty, so that
what is joined to it stays relative. A separator that is there already is not doubled. -/
def withSeparator (directory : List α) : List α :=
  match directory.getLast? with
  | none => directory
  | some last => if last = separator then directory else directory ++ [separator]

/-- A path seen from a directory. The path is not looked at beyond its first letter, so it may well
lead out of the directory again. -/
def join (directory path : List α) : List α :=
  if isAbsolute path then path else withSeparator directory ++ path

/-- The names between separators. There is one more of them than there are separators, so some may
be empty. -/
def names : List α → List (List α)
  | [] => [[]]
  | c :: rest =>
    if c = separator then [] :: names rest
    else
      match names rest with
      | [] => [[c]]
      | n :: more => (c :: n) :: more

theorem names_ne_nil (l : List α) : names l ≠ [] := by
  cases l with
  | nil => simp [names]
  | cons c rest =>
    rw [names]
    split
    · simp
    · split <;> simp

/-- The names of a path that move: not an empty one and not a dot. The step up is one of them. -/
def moves (path : List α) : List (List α) :=
  (names path).filter (fun n => !n.isEmpty && n != [dot])

/-- The components of a path: an empty one for the root, a dot for the directory that a path
expressly starts in, and the names that move. They are what two paths have in common that differ
only in how they are written. -/
def components (path : List α) : List (List α) :=
  if isAbsolute path then [] :: moves path
  else if (names path).head? = some [dot] then [dot] :: moves path
  else moves path

/-- The name that steps up. To those who only look at names it is a name like others. -/
def up : List α := [dot, dot]

/-- One component on the way: a step up takes back the last step down, if there is one, and the root
and the dot lead nowhere. The names that lead to the place so far are kept with the last one first.
There is no step up from the root. -/
def walk (before : List (List α)) (n : List α) : List (List α) :=
  if n = up then before.tail
  else if n = [] ∨ n = [dot] then before
  else n :: before

/-- The names that lead from the root to the place of an absolute path. What a path leads to does
not depend on how often separators are repeated, on single dots, or on steps down that a step up
takes back. What a link on the way would lead to is not known here. -/
def place (path : List α) : List (List α) := ((components path).foldl walk []).reverse

end WrittenPath

namespace FilePath

/-- Whether a path starts at the root. A drive, or anything else that some systems put in front, is
not known. -/
def isAbsolute (path : String) : Bool := WrittenPath.isAbsolute path.toList

/-- A path seen from a directory. Paths of configuration files are made by it, and those of the
directories that a log file needs. -/
def join (directory path : String) : String :=
  String.ofList (WrittenPath.join directory.toList path.toList)

/-- The names between separators. -/
def names (path : String) : List (List Char) := WrittenPath.names path.toList

/-- The components of a path. -/
def components (path : String) : List (List Char) := WrittenPath.components path.toList

/-! ## Order

Paths are ordered by their components, so that what lies in a directory stays together. -/

/-- Steps that are no names of their own come first: the root, a dot, and the step up. The names
themselves are compared afterwards. -/
def rank (n : List Char) : Char :=
  if n = [] then '0' else if n = ['.'] then '1' else if n = ['.', '.'] then '2' else '3'

/-- What paths are ordered by. Every component carries its rank in front, so steps are compared
before names at each place. -/
def orderKey (path : String) : List (List Char) := (components path).map (fun n => rank n :: n)

/-- Whether a path comes before another one, or is at the same place. Two paths with the same
components precede each other. -/
def precedes (a b : String) : Bool := !(orderKey b < orderKey a)

/-- The paths in order. Paths at one place keep the order in which they came. -/
def sort (paths : List String) : List String := paths.mergeSort precedes

end FilePath

end Testbed

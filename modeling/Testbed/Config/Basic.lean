import Testbed.Config.Disk
import Testbed.Config.Section
import Testbed.OsPath

/-!
# Configurations

A configuration is read from several files, in order. Their tables become sections: the keys of the
outermost table form the section `DEFAULT`, every other table one of its own, named by its path with
dots. Later files win over earlier ones key by key, and settings that were made in memory win over
all files. A key that a section lacks is looked for in `DEFAULT`.

Reading is all or nothing: a file that cannot be read leaves the configuration as it was. A change
is noticed by the time of a file's last modification, so a reading that failed is tried again.

What a section holds after a change is given key by key by `get_named_set` and `get_named_overlay`,
and what a reader of the configuration finds by `get_sectionNamed`.

Sections and files are not told apart once they are read: nothing says which file a value came from.
What was set in memory is kept beside the sections, to be laid over them again after every reading.
-/

namespace Testbed

/-- The sections by name. A section of no values and a section that is not there are told apart by
`contains` and by nothing else. -/
abbrev Sections := Dict String Section

namespace Sections

/-- The name of the section that all others fall back on. A table of this name in a file adds to it.
-/
def fallback : String := "DEFAULT"

/-- The section of a name, empty if there is none. Whether there is one is not told by the values.
-/
def named (s : Sections) (name : String) : Section := (s.get? name).getD .empty

/-- Makes sure that there is a section of a name. It is what an empty table does. -/
def ensure (s : Sections) (name : String) : Sections := s.insert name (s.named name)

/-- Puts one value into a section. The section comes into being if need be. -/
def set (s : Sections) (name key : String) (v : Toml) : Sections :=
  s.insert name ((s.named name).insert key v)

/-- Lays values over a section. Keys that are not among them stay. -/
def overlay (s : Sections) (name : String) (values : Section) : Sections :=
  s.insert name ((s.named name).overlay values)

theorem named_insert (s : Sections) (name other : String) (v : Section) :
    named (s.insert name v) other = if other = name then v else s.named other := by
  by_cases h : other = name
  · subst h
    simp [named]
  · simp [named, h, Dict.get_insert_ne]

/-- Making sure of a section changes no look-up in any. -/
@[simp] theorem named_ensure (s : Sections) (name other : String) :
    (s.ensure name).named other = s.named other := by
  by_cases h : other = name <;> simp [ensure, named_insert, h]

/-- A value that is set is found under its section and key, and all others where they were. -/
theorem get_named_set (s : Sections) (name key other k : String) (v : Toml) :
    ((s.set name key v).named other).get? k
      = if other = name ∧ k = key then some v else (s.named other).get? k := by
  by_cases h : other = name
  · subst h
    by_cases hk : k = key
    · subst hk
      simp [set, named_insert]
    · simp [set, named_insert, hk, Dict.get_insert_ne]
  · simp [set, named_insert, h]

/-- Values laid over a section come first in it and nowhere else. -/
theorem get_named_overlay (s : Sections) (name other k : String) (values : Section) :
    ((s.overlay name values).named other).get? k
      = if other = name then (values.get? k).or ((s.named name).get? k)
        else (s.named other).get? k := by
  by_cases h : other = name
  · subst h
    simp [overlay, named_insert]
  · simp [overlay, named_insert, h]

/-- The name of the section of a table below another one. The key is not looked at, so a dot within
it cannot be told from the one that is put in between. -/
def below (parent : Option String) (key : String) : String :=
  match parent with
  | some parent => parent ++ "." ++ key
  | none => key

mutual

/-- Lays the entries of a table over the sections. They are laid in the order in which they stand,
tables and values mixed, and a later one wins. -/
def addTable (name : Option String) : List (String × Toml) → Sections → Sections
  | [], s => s
  | (key, v) :: rest, s => addTable name rest (addEntry name key v s)

/-- Lays one entry of a table over the sections. A table makes its section even if it is empty. A
value of the outermost table goes to the section that all fall back on, and a list is a value,
whatever is in it. -/
def addEntry (name : Option String) (key : String) : Toml → Sections → Sections
  | .table entries, s => addTable (some (below name key)) entries (s.ensure (below name key))
  | .str x, s => s.set (name.getD fallback) key (.str x)
  | .int x, s => s.set (name.getD fallback) key (.int x)
  | .float x, s => s.set (name.getD fallback) key (.float x)
  | .bool x, s => s.set (name.getD fallback) key (.bool x)
  | .datetime x, s => s.set (name.getD fallback) key (.datetime x)
  | .arr x, s => s.set (name.getD fallback) key (.arr x)

end

/-- Lays a whole table over the sections. Sections that a file does not mention keep what earlier
files have put there. -/
def addDocument (s : Sections) (table : Dict String Toml) : Sections :=
  addTable none table.entries s

end Sections

/-- **A configuration.** What is looked up is `sections` alone. The other members say how it came
about, so that it can be made again. -/
structure Config where
  /-- The files it is read from, in order. -/
  files : List String := []
  /-- The sections. -/
  sections : Sections := .empty
  /-- The files that were read, with the times of their last modification then. -/
  loaded : List (String × Int) := []
  /-- What was set in memory. -/
  overrides : Sections := .empty
  deriving Inhabited

namespace Config

/-- The configuration that a text alone gives. It has no files, so it never changes. -/
def parse (text : String) : Except ControlError Config :=
  match Toml.read text with
  | .error fault => .error (.config (.toml fault none))
  | .ok table => .ok { sections := Sections.addDocument .empty table }

/-- Takes note of a file that was read. Of paths with the same components the first stays, with the
time that was seen last. So a path that is listed twice is watched once. -/
def note (path : String) (modified : Int) : List (String × Int) → List (String × Int)
  | [] => [(path, modified)]
  | (known, before) :: rest =>
    if FilePath.components known = FilePath.components path then (known, modified) :: rest
    else (known, before) :: note path modified rest

/-- Reads files over some sections, and takes note of those that were there. The first that cannot
be read ends it with an error, and what was read before it is dropped. -/
def readFiles (disk : Disk) : List String → Sections → List (String × Int) →
    Except ControlError (Sections × List (String × Int))
  | [], sections, loaded => .ok (sections, loaded)
  | path :: rest, sections, loaded => do
    match ← disk.readToml path with
    | none => readFiles disk rest sections loaded
    | some (table, modified) =>
      readFiles disk rest (sections.addDocument table) (note path modified loaded)

/-- The sections with those set in memory over them. They win over whatever the files say. -/
def withOverrides (sections overrides : Sections) : Sections :=
  overrides.entries.foldl (fun s e => s.overlay e.1 e.2) sections

/-- Reads all files again. Nothing of the sections before is kept, except what was set in memory. -/
def read (disk : Disk) (c : Config) : Except ControlError Config := do
  let (sections, loaded) ← readFiles disk c.files .empty []
  return { c with sections := withOverrides sections c.overrides, loaded }

/-- The configuration that some files give. It is not a failure if none of them is there. -/
def fromFiles (disk : Disk) (files : List String) : Except ControlError Config :=
  read disk { files }

/-- Whether a file that was read has another time now. A file whose time cannot be told any more,
because it has vanished or may not be looked at, has not. A file that was not read cannot have
changed, even if it has come into being since. -/
def hasChanged (disk : Disk) (c : Config) : Bool :=
  c.loaded.any (fun (path, modified) => (disk.modified? path).any (· != modified))

/-- Reads all files again if one of them has changed. When the reading fails the configuration stays
as it was, with the times that it knew, so the next call tries again. -/
def reload (disk : Disk) (c : Config) : Except ControlError (Bool × Config) :=
  if c.hasChanged disk then (c.read disk).map (fun c => (true, c)) else .ok (false, c)

/-- The files that were read, in the order of their paths. A file that is named twice is listed
once. -/
def loadedFiles (c : Config) : List String := FilePath.sort (c.loaded.map (·.1))

/-- The section that all others fall back on. It may well be empty. -/
def defaultSection (c : Config) : Section := c.sections.named Sections.fallback

/-- **The section of a name**, laid over the one that all fall back on. There is one for every name,
and where no file mentions it, it is the fallback itself. -/
def sectionNamed (c : Config) (name : String) : Section :=
  c.defaultSection.overlay (c.sections.named name)

/-- A key of a section is looked for there first and in the fallback then. -/
theorem get_sectionNamed (c : Config) (name key : String) :
    (c.sectionNamed name).get? key
      = ((c.sections.named name).get? key).or (c.defaultSection.get? key) := by
  simp [sectionNamed]

/-- Whether there is a section of a name. The fallback is one only if some file or some setting has
made it. -/
def hasSection (c : Config) (name : String) : Bool := c.sections.contains name

/-- The names of the sections. They come in the order of their texts. -/
def sectionNames (c : Config) : List String := c.sections.keys

/-- Sets values in memory, where they outlive every reading of the files. Values for one key replace
each other, the last one winning. -/
def setSection (c : Config) (name : String) (values : Section) : Config :=
  { c with
    sections := c.sections.overlay name values
    overrides := c.overrides.overlay name values }

/-! ## Where configurations are looked for -/

/-- The program's name in paths. It is the last directory on the way to its files. -/
def programName : String := "lattice"

/-- The name of a configuration file. It is the same in all places. -/
def fileName : String := "controller.toml"

/-- The directory of a user's configurations: the one that is named, if it is absolute, or the usual
one. A relative one is not taken, as if it were not named. -/
def userDirectory (home : String) (named : Option String) : String :=
  match named.filter FilePath.isAbsolute with
  | some directory => directory
  | none => FilePath.join home ".config"

/-- The files that are read unless one is named. The user's own comes first and the one of the
working directory last, so the last wins. -/
def defaultFiles (home : String) (named : Option String) : List String :=
  [FilePath.join (FilePath.join (userDirectory home named) programName) fileName,
    FilePath.join (FilePath.join "/etc/xdg" programName) fileName, fileName]

/-- The directory of the projects unless one is set. It is named after the program and lies in the
user's home. -/
def defaultProjects (home : String) : OsPath :=
  ((OsPath.ofText home).join programName).join "projects"

end Config

end Testbed

import Testbed.ControlError
import Testbed.Text.Utf8
import Testbed.Toml.Read

/-!
# Files of a configuration

What is found under a path, and what a configuration file says. A path that leads to no file is no
error: there is nothing to read there. A file that is there but cannot be understood is one.

Whether there is a file is asked first, and it is the system that answers (`Disk.isFile`). It says
no of a directory, and it says no as well of a file that it does not let one look at, because some
directory on the way to it may not be searched. So it is not all the same why a file cannot be read.
One that is seen and may not be opened is an error; one that is not seen is passed over like a path
under which there is nothing.
-/

namespace Testbed

/-- What is found under a path. Times are whole numbers whose only use is to be compared. A link is
what it leads to, and one that leads nowhere is no entry. -/
inductive DiskEntry where
  /-- A file with its content and the time of its last modification. -/
  | file (content : List UInt8) (modified : Int)
  /-- A file that may not be read, with the system's words for it. -/
  | unreadable (fault : String) (modified : Int)
  /-- A file that may not even be looked at, since a directory on the way may not be searched. -/
  | hidden
  /-- A directory. -/
  | directory (modified : Int)
  /-- Something else, such as a device. -/
  | special (modified : Int)
  deriving Inhabited

namespace DiskEntry

/-- The time of the last modification, of what may be looked at. Of a hidden file nothing can be
told, its time included. -/
def modified? : DiskEntry → Option Int
  | file _ t | unreadable _ t | directory t | special t => some t
  | hidden => none

/-- Whether it is seen to be a file, be it one that may not be read. A file that may not be opened
is seen, since its directory may be searched. -/
def isFile : DiskEntry → Bool
  | file .. | unreadable .. => true
  | hidden | directory _ | special _ => false

end DiskEntry

/-- A disk, as seen at one moment. It is a function, so a path that is not among those of a
configuration has an entry or none as well. -/
abbrev Disk := String → Option DiskEntry

namespace Disk

/-- Whether a path is seen to lead to a file. It is false for a hidden file, which the disk holds
nevertheless. -/
def isFile (disk : Disk) (path : String) : Bool := (disk path).any DiskEntry.isFile

/-- The time of the last modification of what is under a path, if it can be told. A directory has a
time too, though nobody reads it. -/
def modified? (disk : Disk) (path : String) : Option Int := (disk path).bind DiskEntry.modified?

/-- The text of a file that is not encoded as it should be. The words do not say which file it was.
-/
def badEncoding : ControlError := .io "stream did not contain valid UTF-8"

/-- The table of a file with the time of its last modification, if a file is seen. A file that is
seen is read, decoded and parsed, and each of these can fail; only the last failure names the file.
What is no file, or is not seen to be one, is passed over without an error. -/
def readToml (disk : Disk) (path : String) :
    Except ControlError (Option (Dict String Toml × Int)) :=
  match disk path with
  | some (.file content modified) =>
    match Text.Utf8.decode? content with
    | none => .error badEncoding
    | some text =>
      match Toml.read text with
      | .error fault => .error (.config (.toml fault (some path)))
      | .ok table => .ok (some (table, modified))
  | some (.unreadable fault _) => .error (.io fault)
  | some .hidden | some (.directory _) | some (.special _) | none => .ok none

end Disk

end Testbed

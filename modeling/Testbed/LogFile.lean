import Testbed.Config.Disk
import Testbed.FilePath
import Testbed.Logging

/-!
# The log file

A log goes to the standard output or to a file, which is made if it is not there. Whether it can be
opened depends on what its path leads to: the directories on the way are looked at one after
another, and the last name must be one that a file can have. A path that ends in a separator or in
dots names a directory, whether there is one or not.
-/

namespace Testbed.LogFile

/-- Why a log file cannot be opened. They are told apart by the words that the system has for them.
-/
inductive Fault where
  /-- A directory on the way is not there. -/
  | missing
  /-- Something on the way is no directory. -/
  | noDirectory
  /-- A directory on the way may not be searched. -/
  | forbidden
  /-- A directory is in its place. -/
  | directory
  /-- A name, or the whole path, is too long. -/
  | tooLong
  /-- The path holds the character that ends paths. -/
  | endMark
  deriving DecidableEq, Repr

/-- The system's wording of a fault. Most of them have a number. -/
def Fault.message : Fault → String
  | missing => "No such file or directory (os error 2)"
  | noDirectory => "Not a directory (os error 20)"
  | forbidden => "Permission denied (os error 13)"
  | directory => "Is a directory (os error 21)"
  | tooLong => "File name too long (os error 36)"
  | endMark => "file name contained an unexpected NUL byte"

/-- A name has at most this many bytes. Characters beyond ASCII have several. -/
def nameLimit : Nat := 255

/-- A path has at most this many bytes. It is looked at before any of its names. -/
def pathLimit : Nat := 4095

/-- The names of a path, dots among them. Repeated separators make no difference. -/
def names (path : String) : List (List Char) :=
  (FilePath.names path).filter (!·.isEmpty)

/-- The names on the way to the last one, each with the path that leads to it. Dots are steps like
any other. -/
def steps (path : String) : List (List Char × String) :=
  let start := if FilePath.isAbsolute path then "/" else ""
  (names path).dropLast.foldl
    (fun before name =>
      let directory := match before.getLast? with
        | some (_, above) => above
        | none => start
      before ++ [(name, FilePath.join directory (String.ofList name))])
    []

/-- Whether a name has too many bytes. It is looked at before the disk is. -/
def isTooLong (name : List Char) : Bool := nameLimit < (String.ofList name).utf8ByteSize

/-- What keeps one from passing through a directory, if anything does. A file that may not be read
can be told from a directory. -/
def stepFault? (disk : Disk) (name : List Char) (path : String) : Option Fault :=
  if isTooLong name then some .tooLong
  else
    match disk path with
    | some (.directory _) => none
    | some (.file ..) | some (.unreadable ..) | some (.special _) => some .noDirectory
    | some .hidden => some .forbidden
    | none => some .missing

/-- What keeps a name in a directory from being a file's, if anything does. A name of which nothing
is there is fine, since the file is made. -/
def nameFault? (disk : Disk) (name : List Char) (path : String) : Option Fault :=
  if name = ['.'] ∨ name = ['.', '.'] ∨ path.toList.getLast? = some '/' then some .directory
  else if isTooLong name then some .tooLong
  else
    match disk path with
    | some (.directory _) => some .directory
    | some .hidden => some .forbidden
    | some (.file ..) | some (.unreadable ..) | some (.special _) | none => none

/-- What keeps a file from being opened for writing, if anything does. The first fault on the way
counts. -/
def fault? (disk : Disk) (path : String) : Option Fault :=
  if path.toList.contains '\x00' then some .endMark
  else if path = "" then some .missing
  else if pathLimit < path.utf8ByteSize then some .tooLong
  else
    match (steps path).findSome? (fun (name, path) => stepFault? disk name path) with
    | some fault => some fault
    | none =>
      match (names path).getLast? with
      | some name => nameFault? disk name path
      | none => some .directory

/-- Opens the log file of some settings, if they name one. Settings without a file have nothing that
could fail. -/
def check (disk : Disk) (s : LogSettings) : Except ControlError Unit :=
  match s.file with
  | none => .ok ()
  | some path =>
    match fault? disk path with
    | some fault => .error (.config (.logFile path fault.message))
    | none => .ok ()

/-- Sets up logging where it has been set up before. The file is looked at first. -/
def checkAgain (disk : Disk) (s : LogSettings) : ControlError :=
  match check disk s with
  | .error e => e
  | .ok () => .config .loggingTwice

end Testbed.LogFile

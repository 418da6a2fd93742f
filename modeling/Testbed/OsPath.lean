import Testbed.FilePath
import Testbed.Text.Utf8

/-!
# Paths of the file system

The directory of a project is wherever the settings, or a caller, say; and what they say is a path
of the file system, which keeps bytes. Every text names one such path, the one with its UTF-8
bytes. The converse fails: a path may hold bytes that are no UTF-8, and then no text names it.

Three things can be done with such a path where a text is asked for. It can be refused (`text?`);
it can be shown, with replacement characters for what is no text (`lossy`); and what was shown can
be taken for a path again, which then is another one. The last is a mistake, and the one that is
made where captures are started.
-/

namespace Testbed

/-- **A path of the file system**: bytes, which need not be a text. Two paths are equal if their
bytes are, and two ways to write one place are two paths. No byte is excluded, though a file system
may refuse some. -/
structure OsPath where
  /-- How the path is written. -/
  bytes : List UInt8
  deriving DecidableEq, Repr, Inhabited

namespace OsPath

/-- The path that a text names. Different texts name different paths. -/
def ofText (s : String) : OsPath := ⟨Text.Utf8.encode s⟩

instance : Coe String OsPath := ⟨ofText⟩

/-- The text that names a path, if one does. It is read strictly: one byte that does not fit and
there is none. -/
def text? (p : OsPath) : Option String := Text.Utf8.decode? p.bytes

/-- How a path is shown: its text, with a replacement character for every run of bytes that are
none. Paths that differ only in such runs may be shown alike, and what is shown always is a text. -/
def lossy (p : OsPath) : String := Text.Utf8.decodeLenient p.bytes

/-- Whether a path starts at the root. Only the first byte is looked at. -/
def isAbsolute (p : OsPath) : Bool := WrittenPath.isAbsolute p.bytes

/-- A path seen from a directory. Neither of the two has to be a text, and what comes out is one
only if both are, save for separators. -/
def join (directory path : OsPath) : OsPath := ⟨WrittenPath.join directory.bytes path.bytes⟩

/-- The components of a path. Single dots and repeated separators are gone, and double dots are
kept. -/
def components (p : OsPath) : List (List UInt8) := WrittenPath.components p.bytes

/-- The names that lead from the root to the place of an absolute path. A relative path has no place
of its own; what this gives for it is where it would lead from the root. -/
def place (p : OsPath) : List (List UInt8) := WrittenPath.place p.bytes

end OsPath

end Testbed

import Testbed.Node.Adapters

/-!
# Captures

Packets that pass an adapter can be captured into a file of the project. The caller is given the
file's full path, a path of the file system; the engine is told how that path is shown, since a
request holds texts and no bytes.
-/

namespace Testbed.Node

/-- The full path of a capture file. A file name that begins with a separator leads elsewhere, and
one with two dots may. -/
def captureFile (n : Node) (file : String) : OsPath := n.captureDir.join file

/-- Starts capturing an adapter's packets into a file. The file is not opened here and need not
exist. What is told and what is given back come from one path, but only the first of them is a text.
-/
def startCapture (index : Nat) (file : String) : Op OsPath := do
  requireCreated .startCapture
  requireAdapter index
  let n ← self
  let path := n.captureFile file
  let client ← findEngine
  let _ ← send client
    (.post (n.adapterPath index "start_capture")
      (some (.mkObj [("capture_file_path", .str path.lossy)])))
  return path

/-- Stops capturing an adapter's packets. The request names the adapter and nothing else. -/
def stopCapture (index : Nat) : Op Unit := do
  requireCreated .stopCapture
  requireAdapter index
  let client ← findEngine
  let n ← self
  let _ ← send client (.post (n.adapterPath index "stop_capture") none)
  return ()

end Testbed.Node

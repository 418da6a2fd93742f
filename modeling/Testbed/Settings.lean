import Testbed.Duration
import Testbed.Engine.Record
import Testbed.Logging
import Testbed.OsPath

/-!
# Settings

What the control plane works with once a configuration has been read: where projects are kept, how
long engines are waited for, how often the configuration is looked at again, what is logged, and
which engines there are.

Settings are complete: whatever a configuration leaves out has been filled in. They are handed over
as a whole, and two settings are compared as values.
-/

namespace Testbed

/-- **The settings of the control plane.** A change of the time-out or of the engines takes effect
when settings are applied, while the directory of the projects is looked at once, when the control
plane starts. -/
structure Settings where
  /-- The directory of the projects. -/
  projectsPath : OsPath
  /-- How long an engine's answer is waited for. -/
  rpcTimeout : Duration := ⟨30, 0⟩
  /-- The time between two looks at the configuration. -/
  reloadInterval : Duration := ⟨1, 0⟩
  /-- What is logged. -/
  logging : LogSettings := {}
  /-- The configured engines. -/
  engines : List EngineRecord := []
  deriving DecidableEq, Inhabited

end Testbed

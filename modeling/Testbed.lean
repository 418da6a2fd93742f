import Testbed.Cli.Arguments
import Testbed.Cli.Program
import Testbed.Config.Basic
import Testbed.Config.Disk
import Testbed.Config.Section
import Testbed.Config.Settings
import Testbed.Config.Watch
import Testbed.ControlError
import Testbed.Controller.Basic
import Testbed.Controller.Engines
import Testbed.Controller.Nodes
import Testbed.Controller.Projects
import Testbed.Dict
import Testbed.Duration
import Testbed.Engine.Client
import Testbed.Engine.Error
import Testbed.Engine.Exchange
import Testbed.Engine.Host
import Testbed.Engine.Record
import Testbed.Engine.Reply
import Testbed.Engine.Request
import Testbed.Engine.Scripted
import Testbed.Engine.Target
import Testbed.Engine.Url
import Testbed.FilePath
import Testbed.Json.Basic
import Testbed.Json.Decode
import Testbed.Json.Literal
import Testbed.Json.Print
import Testbed.Json.Read
import Testbed.LogFile
import Testbed.LogFilter
import Testbed.LogPattern
import Testbed.Logging
import Testbed.Main
import Testbed.Nio
import Testbed.Node.Adapters
import Testbed.Node.Basic
import Testbed.Node.Capture
import Testbed.Node.Operations
import Testbed.Node.Route
import Testbed.Node.Status
import Testbed.Node.Update
import Testbed.Number.Binary64
import Testbed.Number.DecimalText
import Testbed.Number.Layout
import Testbed.Number.Shortest
import Testbed.OsPath
import Testbed.Process
import Testbed.Project
import Testbed.Proofs.Cli.Listing
import Testbed.Proofs.Config.Course
import Testbed.Proofs.Config.Dotted
import Testbed.Proofs.Config.Engines
import Testbed.Proofs.Config.Following
import Testbed.Proofs.Config.Layers
import Testbed.Proofs.Config.Notice
import Testbed.Proofs.Config.Retry
import Testbed.Proofs.Config.WatcherAndFollower
import Testbed.Proofs.Controller.Alone
import Testbed.Proofs.Controller.ApplyingSteps
import Testbed.Proofs.Controller.ConcurrentSettings
import Testbed.Proofs.Controller.Conduct
import Testbed.Proofs.Controller.Locks
import Testbed.Proofs.Controller.Origins
import Testbed.Proofs.Controller.Reached
import Testbed.Proofs.Controller.Reapplied
import Testbed.Proofs.Controller.Serial
import Testbed.Proofs.Controller.Settings
import Testbed.Proofs.Controller.Shutdown
import Testbed.Proofs.Controller.State
import Testbed.Proofs.Controller.Work
import Testbed.Proofs.Dict
import Testbed.Proofs.Engine.Refusals
import Testbed.Proofs.FilePath
import Testbed.Proofs.Nio
import Testbed.Proofs.Node.Addresses
import Testbed.Proofs.Node.Bindings
import Testbed.Proofs.Node.Captures
import Testbed.Proofs.Node.Conduct
import Testbed.Proofs.Node.CreateExchange
import Testbed.Proofs.Node.Creation
import Testbed.Proofs.Node.Descriptions
import Testbed.Proofs.Node.Destruction
import Testbed.Proofs.Node.Determinism
import Testbed.Proofs.Node.Existence
import Testbed.Proofs.Node.Identity
import Testbed.Proofs.Node.Life
import Testbed.Proofs.Node.Lifecycle
import Testbed.Proofs.Node.Paths
import Testbed.Proofs.Node.Performance
import Testbed.Proofs.Node.Plan
import Testbed.Proofs.Node.Repetition
import Testbed.Proofs.Node.Replay
import Testbed.Proofs.Node.ReportOrder
import Testbed.Proofs.Node.Reports
import Testbed.Proofs.Node.Resubmission
import Testbed.Proofs.Node.Settings
import Testbed.Proofs.Node.SettingsInvariants
import Testbed.Proofs.Node.SingleRequest
import Testbed.Proofs.Node.Stage
import Testbed.Proofs.Node.Staged
import Testbed.Proofs.Node.StagedUpdate
import Testbed.Proofs.Node.Updated
import Testbed.Proofs.Outcome
import Testbed.Proofs.Process.Crew
import Testbed.Proofs.Process.Dialogue
import Testbed.Proofs.Process.Interference
import Testbed.Proofs.Process.Log
import Testbed.Proofs.Process.Loop
import Testbed.Proofs.Process.Protocol
import Testbed.Proofs.Process.Transcript
import Testbed.Proofs.Project.AddDeleteSteps
import Testbed.Proofs.Project.Addition
import Testbed.Proofs.Project.ClaimLog
import Testbed.Proofs.Project.Claims
import Testbed.Proofs.Project.Closable
import Testbed.Proofs.Project.Closing
import Testbed.Proofs.Project.Closure
import Testbed.Proofs.Project.Course
import Testbed.Proofs.Project.Deletion
import Testbed.Proofs.Project.Existence
import Testbed.Proofs.Project.Halt
import Testbed.Proofs.Project.Ledger
import Testbed.Proofs.Project.NodeCallInvariant
import Testbed.Proofs.Project.NodeCallLog
import Testbed.Proofs.Project.NodeCalls
import Testbed.Proofs.Project.OpenCloseSteps
import Testbed.Proofs.Project.Removal
import Testbed.Proofs.Registry.Calls
import Testbed.Proofs.Registry.Course
import Testbed.Proofs.Registry.Lookup
import Testbed.Proofs.Registry.Operation
import Testbed.Proofs.Registry.Order
import Testbed.Proofs.Registry.Reach
import Testbed.Proofs.Registry.Retention
import Testbed.Proofs.Registry.Sharing
import Testbed.Proofs.Registry.Supplied
import Testbed.Proofs.Registry.Table
import Testbed.Proofs.ShownPath
import Testbed.Proofs.Toml.Tables
import Testbed.Proofs.Utf8
import Testbed.Proofs.Uuid
import Testbed.Registry.Basic
import Testbed.Registry.Error
import Testbed.Registry.Operations
import Testbed.Scenario.Basic
import Testbed.Scenario.Step
import Testbed.Settings
import Testbed.Text.AlphanumericTable
import Testbed.Text.Base64
import Testbed.Text.Blank
import Testbed.Text.CaseTable
import Testbed.Text.CodePointSet
import Testbed.Text.EscapedTable
import Testbed.Text.Letterform
import Testbed.Text.Lowercase
import Testbed.Text.Quoted
import Testbed.Text.Utf8
import Testbed.Toml.Basic
import Testbed.Toml.Datetime
import Testbed.Toml.Form
import Testbed.Toml.Outline
import Testbed.Toml.Quoted
import Testbed.Toml.Read
import Testbed.Toml.Scalar
import Testbed.Toml.Token
import Testbed.Uuid

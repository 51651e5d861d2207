import Provision.Archive
import Provision.Bootstrap
import Provision.Command
import Provision.CommandLine.Given
import Provision.CommandLine.Help
import Provision.CommandLine.Invocation
import Provision.CommandLine.Refusal
import Provision.CommandLine.Vocabulary
import Provision.CommandLine.Word
import Provision.Config
import Provision.Config.Decode
import Provision.Detection
import Provision.Digest.Sha256
import Provision.Doctor
import Provision.Download
import Provision.Failure
import Provision.FileSystem.Basic
import Provision.FileSystem.Lookup
import Provision.FileSystem.Operations
import Provision.FileSystem.Permission
import Provision.Host.Executable
import Provision.Host.Outcome
import Provision.Host.Programs
import Provision.Host.Runner
import Provision.Host.Switches
import Provision.IoError
import Provision.Json
import Provision.Layout
import Provision.Log.Expression
import Provision.Log.Filter
import Provision.Log.Note
import Provision.Log.Transcript
import Provision.Main
import Provision.Packages
import Provision.Path
import Provision.Plan
import Provision.Platform
import Provision.Privilege
import Provision.Proofs.ArchiveNames
import Provision.Proofs.ArchivePhase
import Provision.Proofs.BuildArchive
import Provision.Proofs.Calls
import Provision.Proofs.ChecksumGate
import Provision.Proofs.ChildFailure
import Provision.Proofs.Cleanup
import Provision.Proofs.CommandWords
import Provision.Proofs.Confinement
import Provision.Proofs.Contexts
import Provision.Proofs.Detours
import Provision.Proofs.Directories
import Provision.Proofs.DownloadAtomic
import Provision.Proofs.Envelopes
import Provision.Proofs.Escalation
import Provision.Proofs.Examination
import Provision.Proofs.ExportBytes
import Provision.Proofs.ExportReading
import Provision.Proofs.ExportRun
import Provision.Proofs.Exports
import Provision.Proofs.FailedInstall
import Provision.Proofs.FaithfulReport
import Provision.Proofs.Files
import Provision.Proofs.Installation
import Provision.Proofs.Lookup
import Provision.Proofs.PackagePhase
import Provision.Proofs.Parents
import Provision.Proofs.PathArguments
import Provision.Proofs.PlannedRun
import Provision.Proofs.Preflight
import Provision.Proofs.Progress
import Provision.Proofs.ReadOnly
import Provision.Proofs.Readiness
import Provision.Proofs.Removal
import Provision.Proofs.Reporting
import Provision.Proofs.Reruns
import Provision.Proofs.RunReport
import Provision.Proofs.SearchLists
import Provision.Proofs.Segments
import Provision.Proofs.Settings
import Provision.Proofs.Silence
import Provision.Proofs.StagedRun
import Provision.Proofs.Stages
import Provision.Proofs.StubPlan
import Provision.Proofs.StubRun
import Provision.Proofs.Unlinking
import Provision.Report
import Provision.Scene
import Provision.SearchPath
import Provision.Shell.Arithmetic
import Provision.Shell.Builtin
import Provision.Shell.Condition
import Provision.Shell.Expansion
import Provision.Shell.Floating
import Provision.Shell.Format
import Provision.Shell.Glyph
import Provision.Shell.Integer
import Provision.Shell.Interpreter
import Provision.Shell.Octets
import Provision.Shell.Pattern
import Provision.Shell.Process
import Provision.Shell.Program
import Provision.Shell.Redirection
import Provision.Shell.Run
import Provision.Shell.Script
import Provision.Shell.Signal
import Provision.Shell.State
import Provision.Shell.Token
import Provision.Stubs
import Provision.Text.Alphanumeric
import Provision.Text.Blank
import Provision.Text.Bytes
import Provision.Text.Composition
import Provision.Text.Direction
import Provision.Text.Extender
import Provision.Text.Folding
import Provision.Text.Ranges
import Provision.Text.Terminal
import Provision.Text.Unseen
import Provision.Tool
import Provision.Url
import Provision.Url.Escape
import Provision.Url.Host
import Provision.Url.Name
import Provision.Url.Number
import Provision.Url.Punycode
import Provision.Url.Route
import Provision.Work

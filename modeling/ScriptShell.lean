import ScriptShell.Text.Decode
import ScriptShell.Text.Lines
import ScriptShell.Text.Wide
import ScriptShell.Decimal.Layout
import ScriptShell.Decimal.Read
import ScriptShell.CommandLine.Parse
import ScriptShell.Sampling.Sampler
import ScriptShell.Profile.Record
import ScriptShell.ExceptionInfo
import ScriptShell.Files
import ScriptShell.Log
import ScriptShell.Log.Directives
import ScriptShell.Source
import ScriptShell.Session.Basic
import ScriptShell.Program
import ScriptShell.Language.Interpreter
import ScriptShell.Language.Regions
import ScriptShell.Main
import ScriptShell.Proofs.Session.Ending
import ScriptShell.Proofs.Session.Course
import ScriptShell.Proofs.Session.Closure
import ScriptShell.Proofs.Session.Following
import ScriptShell.Proofs.Session.Accounting
import ScriptShell.Proofs.Session.Batch
import ScriptShell.Proofs.Session.Frames
import ScriptShell.Proofs.Session.Jobs
import ScriptShell.Proofs.Session.Leftovers
import ScriptShell.Proofs.Session.Halting
import ScriptShell.Proofs.Session.Loading
import ScriptShell.Proofs.Session.Visits
import ScriptShell.Proofs.Session.ProfileLog
import ScriptShell.Proofs.Text.Chunks
import ScriptShell.Proofs.Text.Utf8
import ScriptShell.Proofs.Text.Lines
import ScriptShell.Proofs.Text.WellFormed
import ScriptShell.Proofs.Text.Decoding
import ScriptShell.Proofs.Text.SourceFiles
import ScriptShell.Proofs.Session.Moves
import ScriptShell.Proofs.Session.Input
import ScriptShell.Proofs.Session.Conversation
import ScriptShell.Proofs.Session.Reading
import ScriptShell.Proofs.Session.FileCalls
import ScriptShell.Proofs.Session.Answers
import ScriptShell.Proofs.Session.Crossing
import ScriptShell.Proofs.Session.Twins
import ScriptShell.Proofs.Session.Parallel
import ScriptShell.Proofs.Session.Lifecycles
import ScriptShell.Proofs.Options.Assignment
import ScriptShell.Proofs.Options.Listing
import ScriptShell.Proofs.Options.Dump
import ScriptShell.Proofs.CommandLine.Grammar
import ScriptShell.Proofs.CommandLine.Rendering
import ScriptShell.Proofs.Program.Phases
import ScriptShell.Proofs.Sampling.Windows
import ScriptShell.Proofs.Session.Splitting
import ScriptShell.Proofs.Session.Samples
import ScriptShell.Proofs.Session.Transparency
import ScriptShell.Proofs.Session.Replies
import ScriptShell.Proofs.Program.Profiling
import ScriptShell.Proofs.Log.Shown
import ScriptShell.Proofs.Log.Directives
import ScriptShell.Proofs.Session.Telling
import ScriptShell.Proofs.Session.DriverTrace
import ScriptShell.Proofs.Program.Logging
import ScriptShell.Proofs.CommandLine.Reordering
import ScriptShell.Proofs.Session.Unreadable
import ScriptShell.Proofs.Session.SyntaxChecks
import ScriptShell.Proofs.Session.StackReports
import ScriptShell.Proofs.Files.ReadBack
import ScriptShell.Proofs.Profile.Tokens
import ScriptShell.Proofs.Profile.Documents
import ScriptShell.Proofs.Profile.Spacing
import ScriptShell.Proofs.Profile.Numbers
import ScriptShell.Proofs.Profile.RoundTrip
import ScriptShell.Proofs.Sampling.FlagSets
import ScriptShell.Proofs.Session.Conversions
import ScriptShell.Proofs.Session.Printing
import ScriptShell.Proofs.Session.FlagNatives
import ScriptShell.Proofs.Text.CodeUnits
import ScriptShell.Proofs.Language.Objects
import ScriptShell.Proofs.Language.Realms
import ScriptShell.Proofs.Language.Writing
import ScriptShell.Proofs.Session.Heap
import ScriptShell.Proofs.Language.Heap
import ScriptShell.Proofs.Session.NewRealms
import ScriptShell.Proofs.Session.Growth
import ScriptShell.Proofs.Session.HostText
import ScriptShell.Proofs.Likeness.Engines
import ScriptShell.Proofs.Likeness.Sessions
import ScriptShell.Proofs.Likeness.Actions
import ScriptShell.Proofs.Likeness.Limits
import ScriptShell.Proofs.Likeness.ThroughLoad
import ScriptShell.Proofs.Likeness.Executions
import ScriptShell.Proofs.Language.Steady
import ScriptShell.Proofs.Language.LoadCalls
import ScriptShell.Proofs.Likeness.LoadedFiles
import ScriptShell.Proofs.Isolation.Division
import ScriptShell.Proofs.Isolation.Confined
import ScriptShell.Proofs.Isolation.Evaluations
import ScriptShell.Proofs.Isolation.Natives
import ScriptShell.Proofs.Isolation.Steps
import ScriptShell.Proofs.Isolation.Turns
import ScriptShell.Proofs.Isolation.Replay
import ScriptShell.Proofs.Isolation.Places
import ScriptShell.Proofs.Isolation.Regions
import ScriptShell.Proofs.Isolation.Environments

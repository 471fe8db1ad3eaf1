import OutputArranger.Collection
import OutputArranger.CommandLine.Basic
import OutputArranger.CommandLine.Help
import OutputArranger.CommandLine.Outcome
import OutputArranger.CommandLine.Reading
import OutputArranger.Config.Basic
import OutputArranger.Config.Command
import OutputArranger.Config.File
import OutputArranger.Config.Issue
import OutputArranger.Config.Json
import OutputArranger.Config.Ron
import OutputArranger.Config.Toml
import OutputArranger.Config.Watch
import OutputArranger.Control.Message
import OutputArranger.Control.Reception
import OutputArranger.Daemon.Basic
import OutputArranger.Daemon.Boot
import OutputArranger.Display.Client
import OutputArranger.Display.Compositor
import OutputArranger.Display.Connection
import OutputArranger.Display.Message
import OutputArranger.Files.Content
import OutputArranger.Files.Tree
import OutputArranger.Head.Basic
import OutputArranger.Head.Report
import OutputArranger.Instance
import OutputArranger.Json.Basic
import OutputArranger.Json.Reader
import OutputArranger.Json.Token
import OutputArranger.Json.Writer
import OutputArranger.Layout.Desire
import OutputArranger.Layout.Geometry
import OutputArranger.Layout.Placement
import OutputArranger.Lid
import OutputArranger.Log.Filter
import OutputArranger.Log.Notice
import OutputArranger.Main
import OutputArranger.Mode
import OutputArranger.Number.Binary64
import OutputArranger.Number.Decimal
import OutputArranger.Number.Int32
import OutputArranger.Number.Literal
import OutputArranger.Number.Staged
import OutputArranger.Outputs
import OutputArranger.Pattern.Bracket
import OutputArranger.Pattern.Count
import OutputArranger.Pattern.Escape
import OutputArranger.Pattern.Expression
import OutputArranger.Pattern.Fault
import OutputArranger.Pattern.Flags
import OutputArranger.Pattern.Group
import OutputArranger.Pattern.NamePattern
import OutputArranger.Pattern.Property
import OutputArranger.Pattern.Reading
import OutputArranger.Proofs.Collection
import OutputArranger.Proofs.Config.Commands
import OutputArranger.Proofs.Config.Repair
import OutputArranger.Proofs.Config.Saved
import OutputArranger.Proofs.Control.Arrival
import OutputArranger.Proofs.Display.Agreement
import OutputArranger.Proofs.Display.KnownObjects
import OutputArranger.Proofs.Fulfilment
import OutputArranger.Proofs.Json.FloatText
import OutputArranger.Proofs.Json.ReadingBack
import OutputArranger.Proofs.Json.Tokens
import OutputArranger.Proofs.Layout.BestMode
import OutputArranger.Proofs.Layout.Decision
import OutputArranger.Proofs.Layout.ExactScale
import OutputArranger.Proofs.Layout.HeadOrder
import OutputArranger.Proofs.Layout.ModeChoice
import OutputArranger.Proofs.Layout.Recomputation
import OutputArranger.Proofs.Layout.Targets
import OutputArranger.Proofs.Layout.Tiling
import OutputArranger.Proofs.Layout.TurnedSize
import OutputArranger.Proofs.Layout.WantedScale
import OutputArranger.Proofs.Number.Positional
import OutputArranger.Proofs.Number.Rounding
import OutputArranger.Proofs.Number.Shortest
import OutputArranger.Proofs.Outputs
import OutputArranger.Proofs.Recording
import OutputArranger.Proofs.RefusedMode
import OutputArranger.Proofs.ReportedOnce
import OutputArranger.Proofs.RequestReport
import OutputArranger.Proofs.RequestShape
import OutputArranger.Proofs.Session.AfterCancellation
import OutputArranger.Proofs.Session.Announcements
import OutputArranger.Proofs.Session.Answers
import OutputArranger.Proofs.Session.AtRest
import OutputArranger.Proofs.Session.ComputedAnew
import OutputArranger.Proofs.Session.Convergence
import OutputArranger.Proofs.Session.Discovery
import OutputArranger.Proofs.Session.EveryHead
import OutputArranger.Proofs.Session.FailingHead
import OutputArranger.Proofs.Session.FailuresInRow
import OutputArranger.Proofs.Session.HeadChanges
import OutputArranger.Proofs.Session.HeadPolicy
import OutputArranger.Proofs.Session.Inventory
import OutputArranger.Proofs.Session.Mirror
import OutputArranger.Proofs.Session.OfferedModes
import OutputArranger.Proofs.Session.OpenRequest
import OutputArranger.Proofs.Session.OtherHeads
import OutputArranger.Proofs.Session.OwedPass
import OutputArranger.Proofs.Session.OwnWrites
import OutputArranger.Proofs.Session.Pass
import OutputArranger.Proofs.Session.Refusal
import OutputArranger.Proofs.Session.Replay
import OutputArranger.Proofs.Session.RequestedScale
import OutputArranger.Proofs.Session.RetryBudget
import OutputArranger.Proofs.Session.Rounds
import OutputArranger.Proofs.Session.Run
import OutputArranger.Proofs.Session.SettledAnswers
import OutputArranger.Proofs.Session.SharedBudget
import OutputArranger.Proofs.Session.StaysRefused
import OutputArranger.Proofs.Session.Step
import OutputArranger.Proofs.Session.StrandedChanges
import OutputArranger.Proofs.Session.UnmarkedReports
import OutputArranger.Proofs.Session.WantedMode
import OutputArranger.Proofs.Text.Utf8
import OutputArranger.Proofs.Toml.FloatText
import OutputArranger.Proofs.Toml.QuotedText
import OutputArranger.Proofs.Toml.Statements
import OutputArranger.Proofs.Toml.Tables
import OutputArranger.Request
import OutputArranger.Ron.Basic
import OutputArranger.Ron.Reader
import OutputArranger.Ron.Token
import OutputArranger.Scale
import OutputArranger.Session.Basic
import OutputArranger.Session.Event
import OutputArranger.Session.Json
import OutputArranger.Session.Pass
import OutputArranger.Session.Recording
import OutputArranger.Session.Rest
import OutputArranger.Session.Ron
import OutputArranger.Session.Snapshot
import OutputArranger.Session.Turn
import OutputArranger.Terminal
import OutputArranger.Text.Quoted
import OutputArranger.Text.Utf8
import OutputArranger.Toml.Document
import OutputArranger.Toml.Reader
import OutputArranger.Toml.Scalar
import OutputArranger.Toml.Text
import OutputArranger.Toml.Value
import OutputArranger.Transform
import OutputArranger.Unicode.AgeTable
import OutputArranger.Unicode.Binary
import OutputArranger.Unicode.CaseTable
import OutputArranger.Unicode.CategoryTable
import OutputArranger.Unicode.CodeSet
import OutputArranger.Unicode.FurtherTable
import OutputArranger.Unicode.Lowercase
import OutputArranger.Unicode.PropertyTable
import OutputArranger.Unicode.ScriptTable
import OutputArranger.Unicode.ScriptUseTable
import OutputArranger.Unicode.Segmentation

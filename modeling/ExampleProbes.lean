import ExampleProbes.Command.Analysis
import ExampleProbes.Command.Arguments
import ExampleProbes.Command.Display
import ExampleProbes.Command.Failure
import ExampleProbes.Command.Registry
import ExampleProbes.Command.Settings
import ExampleProbes.Command.SettingsReader
import ExampleProbes.Decimal.Layout
import ExampleProbes.Decimal.Shortest
import ExampleProbes.Files.Fault
import ExampleProbes.Files.Input
import ExampleProbes.Files.Path
import ExampleProbes.Files.Tree
import ExampleProbes.Guest.Call
import ExampleProbes.Guest.Fault
import ExampleProbes.Guest.Interpreter
import ExampleProbes.Guest.Script
import ExampleProbes.Guest.Value
import ExampleProbes.Json.Basic
import ExampleProbes.Json.Cursor
import ExampleProbes.Json.Numeral
import ExampleProbes.Json.Read
import ExampleProbes.Json.StringReader
import ExampleProbes.Json.Write
import ExampleProbes.Main
import ExampleProbes.Markup.Element
import ExampleProbes.Markup.Marker
import ExampleProbes.Markup.Reference
import ExampleProbes.Markup.Tag
import ExampleProbes.Probe.Annotations
import ExampleProbes.Probe.Basic
import ExampleProbes.Probe.Evaluation
import ExampleProbes.Probe.Observation
import ExampleProbes.Probe.ToJson
import ExampleProbes.Proofs.Report.Lookup
import ExampleProbes.Proofs.Run.CourseLaws
import ExampleProbes.Proofs.Run.Entry
import ExampleProbes.Proofs.Run.HookRelease
import ExampleProbes.Proofs.Run.StageLaws
import ExampleProbes.Proofs.Run.Striking
import ExampleProbes.Report.Basic
import ExampleProbes.Report.Change
import ExampleProbes.Report.ToJson
import ExampleProbes.Run.Course
import ExampleProbes.Run.Examples
import ExampleProbes.Run.Firing
import ExampleProbes.Run.Machine
import ExampleProbes.Run.Reporter
import ExampleProbes.Source.Document
import ExampleProbes.Source.DriveLetter
import ExampleProbes.Source.Signature
import ExampleProbes.Terminal.Options
import ExampleProbes.Terminal.Response
import ExampleProbes.Text.Lines
import ExampleProbes.Text.Percent
import ExampleProbes.Text.Printable
import ExampleProbes.Text.Quoted
import ExampleProbes.Text.Space
import ExampleProbes.Time.Span
import ExampleProbes.Proofs.Run.EventCount
import ExampleProbes.Proofs.Report.Growth
import ExampleProbes.Proofs.Run.OwnObservations
import ExampleProbes.Proofs.Run.Independence
import ExampleProbes.Proofs.Command.LastNotification
import ExampleProbes.Proofs.Report.Places
import ExampleProbes.Proofs.Report.Extension
import ExampleProbes.Proofs.Report.Enumeration
import ExampleProbes.Proofs.Report.History
import ExampleProbes.Proofs.Report.Filters
import ExampleProbes.Proofs.Run.Spelling
import ExampleProbes.Proofs.Command.FilteredReports
import ExampleProbes.Proofs.Probe.Concatenation
import ExampleProbes.Proofs.Markup.Grammar
import ExampleProbes.Proofs.Markup.Reading
import ExampleProbes.Proofs.Source.WrittenSignature
import ExampleProbes.Proofs.Probe.WrittenExample
import ExampleProbes.Proofs.Probe.Triggers
import ExampleProbes.Proofs.Report.Blank
import ExampleProbes.Proofs.Report.LineOrder
import ExampleProbes.Proofs.Run.Hits
import ExampleProbes.Proofs.Command.PlannedFiles
import ExampleProbes.Proofs.Command.DocumentOrder
import ExampleProbes.Proofs.Run.OwnRecords
import ExampleProbes.Proofs.Run.CallSequence
import ExampleProbes.Proofs.Command.KeptReports
import ExampleProbes.Proofs.Command.Replies
import ExampleProbes.Proofs.Command.Budgets
import ExampleProbes.Proofs.Command.PushIndependence
import ExampleProbes.Proofs.Probe.LineBounds
import ExampleProbes.Proofs.Report.Placement
import ExampleProbes.Proofs.Command.AcceptedChanges
import ExampleProbes.Proofs.Command.LineNumbers
import ExampleProbes.Proofs.Command.Deadlines
import ExampleProbes.Proofs.Markup.References
import ExampleProbes.Proofs.Command.TargetSpelling
import ExampleProbes.Proofs.Run.PushTimes
import ExampleProbes.Proofs.Run.FiredLine
import ExampleProbes.Proofs.Probe.PassedLines
import ExampleProbes.Proofs.Probe.DeclaredProbes
import ExampleProbes.Proofs.Probe.CodeEdits
import ExampleProbes.Proofs.Source.FoundSignature
import ExampleProbes.Proofs.Markup.WellFormedTags
import ExampleProbes.Proofs.Probe.BoundExamples
import ExampleProbes.Proofs.Probe.Refusals
import ExampleProbes.Proofs.Json.WrittenNumbers
import ExampleProbes.Proofs.Probe.Verdicts
import ExampleProbes.Proofs.Source.LeftmostMatch
import ExampleProbes.Proofs.Json.WrittenObjects
import ExampleProbes.Proofs.Command.WrittenSettings
import ExampleProbes.Proofs.Command.AcceptedSettings
import ExampleProbes.Proofs.Terminal.PrintedSettings
import ExampleProbes.Proofs.Source.DriveSpellings
import ExampleProbes.Proofs.Probe.EqualValues
import ExampleProbes.Proofs.Command.Registrations

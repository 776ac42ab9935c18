import LabelPress.Link.Rehearsal
import LabelPress.Log.Template
import LabelPress.Main
import LabelPress.Proofs.Session.Course
import LabelPress.Proofs.Session.Requests
import LabelPress.Proofs.Action
import LabelPress.Proofs.Link.Regular
import LabelPress.Proofs.Link.Build
import LabelPress.Proofs.Link.Live
import LabelPress.Proofs.Session.Faults
import LabelPress.Proofs.Session.DryRun
import LabelPress.Proofs.Session.Outcome
import LabelPress.Proofs.Session.Calls
import LabelPress.Proofs.Session.Sockets
import LabelPress.Proofs.Session.History
import LabelPress.Proofs.Label.Imprint
import LabelPress.Proofs.Text.Digits
import LabelPress.Proofs.Text.Lines
import LabelPress.Proofs.Zpl.Lines
import LabelPress.Proofs.Value.Table
import LabelPress.Proofs.Schema.Rules
import LabelPress.Proofs.Label.Due
import LabelPress.Proofs.Label.Description
import LabelPress.Proofs.Json.Reader
import LabelPress.Proofs.Files.Tree
import LabelPress.Proofs.Label.Loading
import LabelPress.Proofs.Program.Run
import LabelPress.Proofs.Files.Write
import LabelPress.Proofs.Text.Utf8
import LabelPress.Proofs.Program.Detour
import LabelPress.Proofs.Link.Runs
import LabelPress.Proofs.Session.BareKinds
import LabelPress.Proofs.Number.Binary64
import LabelPress.Proofs.Settings.Loading
import LabelPress.Proofs.Settings.Port
import LabelPress.Proofs.Link.Open
import LabelPress.Proofs.Label.Encoding
import LabelPress.Proofs.Program.Files
import LabelPress.Proofs.Arguments.Reader
import LabelPress.Proofs.Program.Plan
import LabelPress.Proofs.Session.Summary
import LabelPress.Proofs.Program.Sending
import LabelPress.Proofs.Zpl.Commands
import LabelPress.Proofs.Label.Format
import LabelPress.Proofs.Label.Changes
import LabelPress.Proofs.Text.Order
import LabelPress.Proofs.Schema.Order
import LabelPress.Proofs.Program.Reordering
import LabelPress.Proofs.Json.LineEnds
import LabelPress.Proofs.Label.Sources
import LabelPress.Proofs.Printer.Host
import LabelPress.Proofs.Session.FirstFault
import LabelPress.Proofs.Session.Records
import LabelPress.Proofs.Session.Phases
import LabelPress.Proofs.Session.FailingClose
import LabelPress.Proofs.Session.Reports
import LabelPress.Proofs.Link.Rehearsed
import LabelPress.Proofs.Settings.TimeLimit
import LabelPress.Proofs.Json.Quoted
import LabelPress.Proofs.Json.Writer
import LabelPress.Proofs.Log.Line
import LabelPress.Proofs.Text.Ascii
import LabelPress.Proofs.Printer.Device
import LabelPress.Proofs.Number.Rational
import LabelPress.Proofs.Label.Badge

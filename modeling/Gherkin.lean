import Gherkin.Document.Writer
import Gherkin.Main
import Gherkin.Proofs.Command.Repetition
import Gherkin.Proofs.Command.Sources
import Gherkin.Proofs.Command.Verdict
import Gherkin.Proofs.Counter.Handler
import Gherkin.Proofs.Document.Appended
import Gherkin.Proofs.Document.Buffered
import Gherkin.Proofs.Document.Conservation
import Gherkin.Proofs.Document.Layout
import Gherkin.Proofs.Document.Line
import Gherkin.Proofs.Document.LineOrder
import Gherkin.Proofs.Document.Numbered
import Gherkin.Proofs.Document.Passage
import Gherkin.Proofs.Document.Placement
import Gherkin.Proofs.Document.Printable
import Gherkin.Proofs.Document.Reader
import Gherkin.Proofs.Document.Regular
import Gherkin.Proofs.Document.Renumbered
import Gherkin.Proofs.Document.Resolved
import Gherkin.Proofs.Document.RoundTrip
import Gherkin.Proofs.Document.Row
import Gherkin.Proofs.Document.RowEnd
import Gherkin.Proofs.Document.Taken
import Gherkin.Proofs.Document.WellRead
import Gherkin.Proofs.NameFilter
import Gherkin.Proofs.NameSet
import Gherkin.Proofs.Outline.Blocks
import Gherkin.Proofs.Outline.Expansion
import Gherkin.Proofs.Path.FileText
import Gherkin.Proofs.Path.Modes
import Gherkin.Proofs.Path.Printed
import Gherkin.Proofs.Path.Spec
import Gherkin.Proofs.Path.TrailingLines
import Gherkin.Proofs.Report.Collection
import Gherkin.Proofs.Report.Recount
import Gherkin.Proofs.Run.Account
import Gherkin.Proofs.Run.Confinement
import Gherkin.Proofs.Run.Entries
import Gherkin.Proofs.Run.Isolation
import Gherkin.Proofs.Run.Planned
import Gherkin.Proofs.Run.Trace
import Gherkin.Proofs.Selection
import Gherkin.Proofs.Selection.Labels
import Gherkin.Proofs.Settings.Environment
import Gherkin.Proofs.Settings.Typing
import Gherkin.Proofs.Step.Attributes
import Gherkin.Proofs.Step.Filling
import Gherkin.Proofs.Step.History
import Gherkin.Proofs.Step.Linearization
import Gherkin.Proofs.Step.Renewal
import Gherkin.Proofs.Step.Resolution
import Gherkin.Proofs.Step.Sharing
import Gherkin.Proofs.Tag.Filter
import Gherkin.Proofs.Tag.Listing
import Gherkin.Proofs.Tag.Merging
import Gherkin.Proofs.Tag.Stages
import Gherkin.Proofs.Text.Blank
import Gherkin.Proofs.Text.Lines
import Gherkin.Proofs.Text.LowerCase
import Gherkin.Proofs.Text.Numeral

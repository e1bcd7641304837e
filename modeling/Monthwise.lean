import Monthwise.Award
import Monthwise.Calendar.Date
import Monthwise.Calendar.DateText
import Monthwise.Calendar.MonthNumber
import Monthwise.CommandLine.Arguments
import Monthwise.CommandLine.Command
import Monthwise.CommandLine.Run
import Monthwise.Coverage
import Monthwise.Entry.Basic
import Monthwise.Entry.Wire
import Monthwise.Instant.Basic
import Monthwise.Instant.Scan
import Monthwise.Journal.Basic
import Monthwise.Journal.Directory
import Monthwise.Journal.Error
import Monthwise.Journal.Event
import Monthwise.Journal.FileTree
import Monthwise.Journal.Level
import Monthwise.Journal.Session
import Monthwise.Json.Basic
import Monthwise.Json.Decoder
import Monthwise.Json.Numeral
import Monthwise.Json.Printer
import Monthwise.Json.Reader
import Monthwise.Json.Record
import Monthwise.Main
import Monthwise.Period.Algebra
import Monthwise.Period.Basic
import Monthwise.Period.Months
import Monthwise.Period.Relation
import Monthwise.Period.Wire
import Monthwise.Period.Written
import Monthwise.Proofs.ByDays.Algebra
import Monthwise.Proofs.ByDays.Calls
import Monthwise.Proofs.ByDays.Draws
import Monthwise.Proofs.ByDays.MonthSteps
import Monthwise.Proofs.ByDays.Sweep
import Monthwise.Proofs.ByDays.Words
import Monthwise.Proofs.Calendar.MonthGrid
import Monthwise.Proofs.Calendar.ScannedDate
import Monthwise.Proofs.CommandLine.Covered
import Monthwise.Proofs.CommandLine.ReadBack
import Monthwise.Proofs.Coverage.Containment
import Monthwise.Proofs.Coverage.Dates
import Monthwise.Proofs.Coverage.Decomposition
import Monthwise.Proofs.Coverage.Joining
import Monthwise.Proofs.Coverage.Months
import Monthwise.Proofs.Coverage.Overlapping
import Monthwise.Proofs.Coverage.Reduction
import Monthwise.Proofs.Coverage.Remainder
import Monthwise.Proofs.Entry.WireForm
import Monthwise.Proofs.Journal.Lines
import Monthwise.Proofs.Journal.Listeners
import Monthwise.Proofs.Journal.Origins
import Monthwise.Proofs.Journal.WriteOnce
import Monthwise.Proofs.Json.Records
import Monthwise.Proofs.Period.DateAlgebra
import Monthwise.Proofs.Period.Ends
import Monthwise.Proofs.Period.Grammar
import Monthwise.Proofs.Period.MonthPairs
import Monthwise.Proofs.Period.TextAndRecord
import Monthwise.Proofs.Period.WireForm
import Monthwise.Proofs.Period.WrittenText
import Monthwise.Proofs.Runs
import Monthwise.Proofs.Settings
import Monthwise.Proofs.Timeline.Bisection
import Monthwise.Proofs.Timeline.Bookkeeping
import Monthwise.Proofs.Timeline.Compaction
import Monthwise.Proofs.Timeline.InnerWindow
import Monthwise.Proofs.Timeline.Lookup
import Monthwise.Proofs.Timeline.Narrowing
import Monthwise.Proofs.Timeline.Overlay
import Monthwise.Proofs.Timeline.Painting
import Monthwise.Proofs.Timeline.Ranking
import Monthwise.Proofs.Timeline.Rekeying
import Monthwise.Proofs.Timeline.Revision
import Monthwise.Proofs.Timeline.Segments
import Monthwise.Proofs.Timeline.Shifting
import Monthwise.Proofs.Timeline.Size
import Monthwise.Proofs.Timeline.Strength
import Monthwise.Settings
import Monthwise.Text.Basic
import Monthwise.Text.Decimal
import Monthwise.Text.Quoted
import Monthwise.Text.Scan
import Monthwise.Text.ShortestDecimal
import Monthwise.Timeline.Basic
import Monthwise.Uuid

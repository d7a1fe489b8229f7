import SeriesImport.Archive.Crc32
import SeriesImport.Archive.Gzip
import SeriesImport.Archive.Inflate
import SeriesImport.Context
import SeriesImport.Csv.Rows
import SeriesImport.Csv.Step
import SeriesImport.Dispatch.Batch
import SeriesImport.Dispatch.Line
import SeriesImport.Dispatch.Record
import SeriesImport.Dispatch.Store
import SeriesImport.Document.Result
import SeriesImport.Document.Series
import SeriesImport.Error
import SeriesImport.Field
import SeriesImport.Import
import SeriesImport.InputFile
import SeriesImport.InputFormat
import SeriesImport.InputFormat.Registry
import SeriesImport.InputFormat.Step
import SeriesImport.Json.Read
import SeriesImport.Json.Records
import SeriesImport.LineProtocol.Read
import SeriesImport.LineProtocol.Step
import SeriesImport.LineProtocol.Table
import SeriesImport.Number.Binary
import SeriesImport.Number.Finite
import SeriesImport.Number.Layout
import SeriesImport.Number.Read
import SeriesImport.Number.Shortest
import SeriesImport.Point
import SeriesImport.Proofs.Csv.Comments
import SeriesImport.Proofs.Csv.Header
import SeriesImport.Proofs.Csv.Step
import SeriesImport.Proofs.Dispatch.Calls
import SeriesImport.Proofs.Dispatch.ColumnStore
import SeriesImport.Proofs.Dispatch.Columns
import SeriesImport.Proofs.Dispatch.Effects
import SeriesImport.Proofs.Dispatch.Plain
import SeriesImport.Proofs.Dispatch.Registry
import SeriesImport.Proofs.Dispatch.Requests
import SeriesImport.Proofs.Dispatch.Rows
import SeriesImport.Proofs.Dispatch.Sizes
import SeriesImport.Proofs.Dispatch.Steady
import SeriesImport.Proofs.Dispatch.Written
import SeriesImport.Proofs.Import.Csv
import SeriesImport.Proofs.Import.Flow
import SeriesImport.Proofs.Import.Isolation
import SeriesImport.Proofs.Import.LineProtocol
import SeriesImport.Proofs.Import.Transports
import SeriesImport.Proofs.LineProtocol.Directives
import SeriesImport.Proofs.LineProtocol.Points
import SeriesImport.Proofs.LineProtocol.Refusals
import SeriesImport.Proofs.LineProtocol.RoundTrip
import SeriesImport.Proofs.Number.Numerals
import SeriesImport.Proofs.Time.Instant
import SeriesImport.Settings
import SeriesImport.Settings.File
import SeriesImport.Text.Blank
import SeriesImport.Text.Case
import SeriesImport.Text.Cased
import SeriesImport.Text.Digit
import SeriesImport.Text.Literal
import SeriesImport.Text.Printable
import SeriesImport.Text.Utf8
import SeriesImport.Time.Calendar
import SeriesImport.Time.Instant
import SeriesImport.Value
import SeriesImport.Value.Access
import SeriesImport.Value.Arith
import SeriesImport.Value.Order
import SeriesImport.Yaml.Node
import SeriesImport.Yaml.Read
import SeriesImport.Yaml.Scalar
import SeriesImport.Yaml.Token
import SeriesImport.Proofs.Dispatch.Reported
import SeriesImport.Proofs.Import.Unmasked
import SeriesImport.Proofs.Import.Accounting
import SeriesImport.Proofs.Csv.Times
import SeriesImport.Proofs.Json.Search
import SeriesImport.Proofs.LineProtocol.Blocks
import SeriesImport.Proofs.Import.Outcomes
import SeriesImport.Proofs.Import.Cancelled
import SeriesImport.Proofs.Number.Whole
import SeriesImport.Proofs.LineProtocol.Forms
import SeriesImport.Proofs.Document.Series
import SeriesImport.Proofs.Import.Interrupted
import SeriesImport.Proofs.Number.Interval
import SeriesImport.Proofs.Number.ShortestDigits
import SeriesImport.Proofs.Number.Positional

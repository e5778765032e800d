import MailAudit.Batch.JsonLines
import MailAudit.Batch.Pipeline
import MailAudit.Batch.Scan
import MailAudit.Batch.Totals
import MailAudit.Batch.Window
import MailAudit.Check
import MailAudit.CommandLine.EnvironmentFile
import MailAudit.CommandLine.Grammar
import MailAudit.CommandLine.Invocation
import MailAudit.CommandLine.Usage
import MailAudit.Csv.Raw
import MailAudit.Csv.Records
import MailAudit.Dns.International
import MailAudit.Dns.Name
import MailAudit.Dns.Resolver
import MailAudit.Dns.Zone
import MailAudit.DomainCheck.Check
import MailAudit.DomainCheck.Crew
import MailAudit.DomainCheck.Hosts
import MailAudit.DomainCheck.World
import MailAudit.Http.Framing
import MailAudit.Http.Response
import MailAudit.Json.Decoder
import MailAudit.Json.Magnitude
import MailAudit.Json.Printer
import MailAudit.Json.Reader
import MailAudit.Json.Token
import MailAudit.Json.Value
import MailAudit.Keyed
import MailAudit.Log
import MailAudit.Log.Filter
import MailAudit.Log.Line
import MailAudit.Main
import MailAudit.MtaSts.Audit
import MailAudit.MtaSts.Consistency
import MailAudit.MtaSts.Fetch
import MailAudit.MtaSts.Mode
import MailAudit.MtaSts.Policy
import MailAudit.MtaSts.Record
import MailAudit.Network
import MailAudit.PolicyList
import MailAudit.Program.Digest
import MailAudit.Program.Directory
import MailAudit.Program.Initialization
import MailAudit.Program.Run
import MailAudit.Report.Domain
import MailAudit.Report.Host
import MailAudit.Report.Policy
import MailAudit.Revalidation.Pass
import MailAudit.Revalidation.Store
import MailAudit.Revalidation.Timer
import MailAudit.Scans.Address
import MailAudit.Scans.Cache
import MailAudit.Scans.Database
import MailAudit.Scans.Store
import MailAudit.Scans.StoreError
import MailAudit.Scans.Table
import MailAudit.Settings
import MailAudit.Smtp.Fault
import MailAudit.Smtp.Probe
import MailAudit.Smtp.Reply
import MailAudit.Smtp.Stream
import MailAudit.Sum
import MailAudit.Tally
import MailAudit.Text.Alphanumeric
import MailAudit.Text.Blank
import MailAudit.Text.CharClass
import MailAudit.Text.Decimal
import MailAudit.Text.Direction
import MailAudit.Text.GraphemeExtend
import MailAudit.Text.Joining
import MailAudit.Text.Mark
import MailAudit.Text.Pattern
import MailAudit.Text.Pattern.Bracket
import MailAudit.Text.Pattern.Cursor
import MailAudit.Text.Pattern.Escape
import MailAudit.Text.Pattern.Fault
import MailAudit.Text.Pattern.Reader
import MailAudit.Text.PlainForm
import MailAudit.Text.Punycode
import MailAudit.Text.Quoted
import MailAudit.Text.Terminal
import MailAudit.Text.Unprintable
import MailAudit.Text.Utf16
import MailAudit.Text.Utf8
import MailAudit.Time.Calendar
import MailAudit.Time.Duration
import MailAudit.Time.Instant
import MailAudit.Time.Rfc3339
import MailAudit.Tls.Address
import MailAudit.Tls.Admission
import MailAudit.Tls.Certificate
import MailAudit.Tls.Der.Element
import MailAudit.Tls.Der.Strict
import MailAudit.Tls.Der.Time
import MailAudit.Tls.DistinguishedName
import MailAudit.Tls.Handshake
import MailAudit.Tls.Inspection
import MailAudit.Tls.ObjectId
import MailAudit.Tls.ServerName
import MailAudit.Verdict
import MailAudit.Proofs.Keyed
import MailAudit.Proofs.Json.Scanning
import MailAudit.Proofs.Json.Printed
import MailAudit.Proofs.Report.Decoding
import MailAudit.Proofs.Report.Untimed
import MailAudit.Proofs.Scans.Store
import MailAudit.Proofs.DomainCheck.Effects
import MailAudit.Proofs.DomainCheck.Verdict
import MailAudit.Proofs.DomainCheck.Step
import MailAudit.Proofs.DomainCheck.Counting
import MailAudit.Proofs.DomainCheck.Tracking
import MailAudit.Proofs.DomainCheck.Crew
import MailAudit.Proofs.DomainCheck.SharedCache
import MailAudit.Proofs.DomainCheck.Outset
import MailAudit.Proofs.DomainCheck.Written
import MailAudit.Proofs.DomainCheck.Foresight
import MailAudit.Proofs.DomainCheck.Scheduling
import MailAudit.Proofs.Batch.Step
import MailAudit.Proofs.Batch.Conservation
import MailAudit.Proofs.Batch.Progress
import MailAudit.Proofs.Batch.Delivery
import MailAudit.Proofs.Batch.Cancellation
import MailAudit.Proofs.Smtp.Line
import MailAudit.Proofs.Smtp.Grammar
import MailAudit.Proofs.Smtp.Segmentation
import MailAudit.Proofs.Text.Decimal
import MailAudit.Proofs.Time.Calendar
import MailAudit.Proofs.Time.Rfc3339
import MailAudit.Proofs.Report.RoundTrip
import MailAudit.Proofs.Smtp.Course
import MailAudit.Proofs.Report.Severity
import MailAudit.Proofs.DomainCheck.Answer
import MailAudit.Proofs.Batch.JsonLines
import MailAudit.Proofs.Batch.Accounting
import MailAudit.Proofs.HostName
import MailAudit.Proofs.Revalidation.Pass
import MailAudit.Proofs.Revalidation.Store
import MailAudit.Proofs.DomainCheck.Landing
import MailAudit.Proofs.Scans.Durable
import MailAudit.Proofs.Scans.Expiry
import MailAudit.Proofs.DomainCheck.Expiry
import MailAudit.Proofs.Batch.Fault
import MailAudit.Proofs.Text.Blank
import MailAudit.Proofs.MtaSts.Entries
import MailAudit.Proofs.MtaSts.Policy
import MailAudit.Proofs.MtaSts.Layout
import MailAudit.Proofs.MtaSts.Pattern
import MailAudit.Proofs.MtaSts.Record
import MailAudit.Proofs.MtaSts.Fetch
import MailAudit.Proofs.Smtp.Limits
import MailAudit.Proofs.Smtp.Counting
import MailAudit.Proofs.Smtp.Plaintext
import MailAudit.Proofs.Scans.Freshness
import MailAudit.Proofs.DomainCheck.Upkeep
import MailAudit.Proofs.DomainCheck.Refresh
import MailAudit.Proofs.Batch.Backpressure
import MailAudit.Proofs.Batch.SingleWorker
import MailAudit.Proofs.Batch.Totals
import MailAudit.Proofs.Batch.TotalsProgress
import MailAudit.Proofs.Scans.Pruning
import MailAudit.Proofs.DomainCheck.Events
import MailAudit.Proofs.DomainCheck.Balance
import MailAudit.Proofs.Batch.CutShort
import MailAudit.Proofs.DomainCheck.Convoy
import MailAudit.Proofs.Batch.Window
import MailAudit.Proofs.Program.Check
import MailAudit.Proofs.Revalidation.Cut
import MailAudit.Proofs.Revalidation.Timer
import MailAudit.Proofs.Check
import MailAudit.Proofs.PoolSize
import MailAudit.Proofs.Program.Pool
import MailAudit.Proofs.Report.Explained
import MailAudit.Proofs.HostName.Canonical
import MailAudit.Proofs.Report.Leaves

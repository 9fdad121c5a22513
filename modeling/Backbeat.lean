import Backbeat.Bucket.Host
import Backbeat.Bucket.Parts
import Backbeat.Bucket.Request
import Backbeat.Bucket.Request.Json
import Backbeat.Bucket.Service
import Backbeat.Bucket.Store
import Backbeat.Calendar.Date
import Backbeat.Calendar.Instant
import Backbeat.Catalog.Beat
import Backbeat.Catalog.Beat.Json
import Backbeat.Catalog.Choice
import Backbeat.Catalog.Filter
import Backbeat.Catalog.Filter.Query
import Backbeat.Catalog.Memory
import Backbeat.Catalog.Repository
import Backbeat.Config
import Backbeat.Data.Action
import Backbeat.Data.Capacity
import Backbeat.Data.Crowd
import Backbeat.Data.Process
import Backbeat.Data.Table
import Backbeat.Digest.Base64Url
import Backbeat.Digest.Hmac
import Backbeat.Digest.Sha256
import Backbeat.Failure
import Backbeat.Failure.Report
import Backbeat.Feed.Bounds
import Backbeat.Feed.Error
import Backbeat.Feed.Selector
import Backbeat.History.Memory
import Backbeat.History.Memory.Steps
import Backbeat.History.Plain
import Backbeat.History.Redis
import Backbeat.History.Redis.Steps
import Backbeat.History.Request
import Backbeat.History.Retry
import Backbeat.History.Store
import Backbeat.Json.Printer
import Backbeat.Json.Reader
import Backbeat.Json.Record
import Backbeat.Json.Value
import Backbeat.Media.Copy
import Backbeat.Media.Copy.Stages
import Backbeat.Media.Error
import Backbeat.Media.Fault
import Backbeat.Media.Json
import Backbeat.Media.Kind
import Backbeat.Media.Limits
import Backbeat.Media.Pipe
import Backbeat.Media.Pipe.Stages
import Backbeat.Media.Range
import Backbeat.Media.Range.Header
import Backbeat.Media.Service
import Backbeat.Media.Service.Steps
import Backbeat.Media.Settings
import Backbeat.Media.Signature
import Backbeat.Media.Sink
import Backbeat.Media.Source
import Backbeat.Media.Store
import Backbeat.Media.Store.Memory
import Backbeat.Media.Stream
import Backbeat.Media.Upload
import Backbeat.Proofs.Bucket.Agreement
import Backbeat.Proofs.Bucket.Asking
import Backbeat.Proofs.Bucket.Conversation
import Backbeat.Proofs.Bucket.Laws
import Backbeat.Proofs.Bucket.Likeness
import Backbeat.Proofs.Bucket.Parts
import Backbeat.Proofs.Bucket.Service
import Backbeat.Proofs.Bucket.Showing
import Backbeat.Proofs.Bucket.Standard
import Backbeat.Proofs.Bucket.Uploading
import Backbeat.Proofs.Calendar.Instant
import Backbeat.Proofs.Catalog.Candidates
import Backbeat.Proofs.Catalog.Filter.Reading
import Backbeat.Proofs.Catalog.Filter.Spelling
import Backbeat.Proofs.Catalog.Offering
import Backbeat.Proofs.Catalog.RoundTrip
import Backbeat.Proofs.Data.Agreement
import Backbeat.Proofs.Data.Discipline
import Backbeat.Proofs.Data.Outcomes
import Backbeat.Proofs.Data.Turns
import Backbeat.Proofs.Feed.AntiRepeat
import Backbeat.Proofs.Feed.Effect
import Backbeat.Proofs.Feed.Listing
import Backbeat.Proofs.Feed.Recency
import Backbeat.Proofs.Feed.Selection
import Backbeat.Proofs.Feed.Serving
import Backbeat.Proofs.History.Accounting
import Backbeat.Proofs.History.Agreement
import Backbeat.Proofs.History.Memory
import Backbeat.Proofs.History.Memory.Versions
import Backbeat.Proofs.History.Redis.Alone
import Backbeat.Proofs.History.Redis.Connections
import Backbeat.Proofs.History.Retry
import Backbeat.Proofs.Json.Record
import Backbeat.Proofs.Media.Bytes
import Backbeat.Proofs.Media.Copying
import Backbeat.Proofs.Media.Counting
import Backbeat.Proofs.Media.Delivery
import Backbeat.Proofs.Media.Intake
import Backbeat.Proofs.Media.Loop
import Backbeat.Proofs.Media.Pipe
import Backbeat.Proofs.Media.Piping
import Backbeat.Proofs.Media.Range.Grammar
import Backbeat.Proofs.Media.Range.Places
import Backbeat.Proofs.Media.Replacing
import Backbeat.Proofs.Media.Signing
import Backbeat.Proofs.Media.Stages
import Backbeat.Proofs.Redis.Laws
import Backbeat.Proofs.Redis.Server
import Backbeat.Proofs.Server.Lifetime
import Backbeat.Proofs.Server.Precedence
import Backbeat.Proofs.Server.Settings
import Backbeat.Proofs.Text.Decimal
import Backbeat.Proofs.Text.Splitting
import Backbeat.Proofs.Text.Trimming
import Backbeat.Proofs.Text.Unreserved
import Backbeat.Proofs.Web.Answering
import Backbeat.Proofs.Web.Hiding
import Backbeat.Proofs.Web.Issuing
import Backbeat.Proofs.Web.Ownership
import Backbeat.Proofs.Web.Streaming
import Backbeat.Proofs.Web.Uploading
import Backbeat.Redis.Command
import Backbeat.Redis.Host
import Backbeat.Redis.Server
import Backbeat.Rehearsal.Attempts
import Backbeat.Rehearsal.Bucket
import Backbeat.Rehearsal.Calls
import Backbeat.Rehearsal.Exchanges
import Backbeat.Rehearsal.History
import Backbeat.Rehearsal.Looks
import Backbeat.Rehearsal.Repository
import Backbeat.Rehearsal.Sample
import Backbeat.Rehearsal.Session
import Backbeat.Rehearsal.Sink
import Backbeat.Rehearsal.Store
import Backbeat.Rehearsal.Visits
import Backbeat.Server.Setting
import Backbeat.Server.Settings
import Backbeat.Server.Settings.Json
import Backbeat.Server.Start
import Backbeat.Text.Blank
import Backbeat.Text.Caseless
import Backbeat.Text.Form
import Backbeat.Text.Header
import Backbeat.Text.Hex
import Backbeat.Text.Integer
import Backbeat.Text.Percent
import Backbeat.Text.Printable
import Backbeat.Text.Quoted
import Backbeat.Text.Utf8
import Backbeat.Uuid
import Backbeat.Web.App
import Backbeat.Web.Archive
import Backbeat.Web.Archive.Steps
import Backbeat.Web.Error
import Backbeat.Web.Feed
import Backbeat.Web.Message
import Backbeat.Web.Route
import Backbeat.Web.Service
import Backbeat.Web.Stream
import Backbeat.Web.Target
import Backbeat.Web.Upload

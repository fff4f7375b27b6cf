import Newsdesk.Admission.Certificate
import Newsdesk.Admission.FeedRules
import Newsdesk.Admission.FieldError
import Newsdesk.Admission.GroupRules
import Newsdesk.Admission.HotNewsRules
import Newsdesk.Admission.Review
import Newsdesk.Admission.Router
import Newsdesk.Admission.Webhook
import Newsdesk.Aggregator
import Newsdesk.Api.Request
import Newsdesk.Backoff
import Newsdesk.Calendar.Date
import Newsdesk.Calendar.Timestamp
import Newsdesk.Cluster.Basic
import Newsdesk.Cluster.Script
import Newsdesk.Cluster.Store
import Newsdesk.Cluster.Timeline
import Newsdesk.Cluster.Watching
import Newsdesk.Controller.Basic
import Newsdesk.Duration
import Newsdesk.Failure.Basic
import Newsdesk.Failure.Reason
import Newsdesk.Http.Exchange
import Newsdesk.Http.MediaType
import Newsdesk.Json.Basic
import Newsdesk.Json.Decode
import Newsdesk.Json.MergePatch
import Newsdesk.Json.Patch
import Newsdesk.Json.Printer
import Newsdesk.Json.Reader
import Newsdesk.Main
import Newsdesk.Metrics.Event
import Newsdesk.Metrics.Text
import Newsdesk.Number.Binary64
import Newsdesk.Number.Rounding
import Newsdesk.Number.Shortest
import Newsdesk.Operator
import Newsdesk.Program.Basic
import Newsdesk.Program.Calls
import Newsdesk.Program.Run
import Newsdesk.Proofs.Association
import Newsdesk.Proofs.Json.Fields
import Newsdesk.Proofs.Json.Records
import Newsdesk.Query.Groups
import Newsdesk.Query.Summary
import Newsdesk.Reconcile.Feed
import Newsdesk.Reconcile.HotNews
import Newsdesk.Reconcile.Lifecycle
import Newsdesk.Reconcile.Status
import Newsdesk.Resource.Condition
import Newsdesk.Resource.Definition
import Newsdesk.Resource.Metadata
import Newsdesk.Resource.Object
import Newsdesk.Resource.Ownership
import Newsdesk.Resource.Schema
import Newsdesk.Settings.Basic
import Newsdesk.Settings.CommandLine
import Newsdesk.Text.Blank
import Newsdesk.Text.CombiningClass
import Newsdesk.Text.Composition
import Newsdesk.Text.Decomposition
import Newsdesk.Text.Direction
import Newsdesk.Text.Joining
import Newsdesk.Text.Mark
import Newsdesk.Text.Quoted
import Newsdesk.Text.Replacement
import Newsdesk.Text.Unassigned
import Newsdesk.Url.Address
import Newsdesk.Url.Basic
import Newsdesk.Url.Domain
import Newsdesk.Url.Encoding
import Newsdesk.Url.Error
import Newsdesk.Url.Host
import Newsdesk.Url.Mapping
import Newsdesk.Url.Punycode
import Newsdesk.Url.Query
import Newsdesk.Url.Reader
import Newsdesk.Watch.Affected
import Newsdesk.Watch.Generation
import Newsdesk.Watch.Triggers
import Newsdesk.Proofs.Json.Merging
import Newsdesk.Proofs.Resource.Reading
import Newsdesk.Proofs.Cluster.Written
import Newsdesk.Proofs.Cluster.Server
import Newsdesk.Proofs.Program.Conduct
import Newsdesk.Proofs.Ownership.Plan
import Newsdesk.Proofs.Ownership.Sync
import Newsdesk.Proofs.Ownership.Concurrent
import Newsdesk.Proofs.Feed.Calls
import Newsdesk.Proofs.Feed.Lifetime
import Newsdesk.Proofs.Cluster.Store
import Newsdesk.Proofs.Program.Outcome
import Newsdesk.Proofs.Cluster.Quiet
import Newsdesk.Proofs.HotNews.Reconciled
import Newsdesk.Proofs.Json.Difference
import Newsdesk.Proofs.Json.Pointer
import Newsdesk.Proofs.Admission.Defaults
import Newsdesk.Proofs.Watch.Trace
import Newsdesk.Proofs.Text.Names
import Newsdesk.Proofs.Query.Groups
import Newsdesk.Proofs.Admission.Resolved
import Newsdesk.Proofs.Url.Form
import Newsdesk.Proofs.Query.Sources
import Newsdesk.Proofs.Cluster.Reads
import Newsdesk.Proofs.Cluster.Tended
import Newsdesk.Proofs.Cluster.Stored
import Newsdesk.Proofs.Resource.Reported
import Newsdesk.Proofs.Reconcile.Spared
import Newsdesk.Proofs.Feed.Repeated
import Newsdesk.Proofs.Feed.Failed
import Newsdesk.Proofs.HotNews.Repeated
import Newsdesk.Proofs.HotNews.Failed
import Newsdesk.Proofs.Reconcile.Repeated
import Newsdesk.Proofs.Calendar.Reading
import Newsdesk.Proofs.Query.Dates
import Newsdesk.Proofs.Admission.Answered
import Newsdesk.Proofs.Admission.Updates
import Newsdesk.Proofs.Watch.Concerned
import Newsdesk.Proofs.Watch.Groups
import Newsdesk.Proofs.Admission.Feeds
import Newsdesk.Proofs.Admission.Groups
import Newsdesk.Proofs.Admission.Completed
import Newsdesk.Proofs.Cluster.Faults
import Newsdesk.Proofs.Watch.Feeds
import Newsdesk.Proofs.Cluster.Sparing
import Newsdesk.Proofs.Ownership.Partial
import Newsdesk.Proofs.Reconcile.Sent
import Newsdesk.Proofs.HotNews.Unrefreshed
import Newsdesk.Proofs.Controller.Retries
import Newsdesk.Proofs.Json.Forms
import Newsdesk.Proofs.Resource.Forms
import Newsdesk.Proofs.Reconcile.Recorded
import Newsdesk.Proofs.Cluster.Conflicts
import Newsdesk.Proofs.Reconcile.Unconflicted
import Newsdesk.Proofs.Query.Listed
import Newsdesk.Proofs.Ownership.Rounds
import Newsdesk.Proofs.Url.Rooted
import Newsdesk.Proofs.Aggregator.Endpoints
import Newsdesk.Proofs.Admission.Queries
import Newsdesk.Proofs.Url.Segments
import Newsdesk.Proofs.Url.Folders
import Newsdesk.Proofs.Aggregator.Services
import Newsdesk.Proofs.Query.Address
import Newsdesk.Proofs.HotNews.History
import Newsdesk.Proofs.Program.Traced
import Newsdesk.Proofs.Admission.Counted
import Newsdesk.Proofs.Resource.Transitions

import IssueTracker.Backlog
import IssueTracker.CommandLine
import IssueTracker.Comment
import IssueTracker.Config
import IssueTracker.Decimal
import IssueTracker.Decimal.Scaled
import IssueTracker.Declarations
import IssueTracker.Files
import IssueTracker.Form
import IssueTracker.Http.Basic
import IssueTracker.Http.Bearer
import IssueTracker.Http.MediaType
import IssueTracker.Issue.Basic
import IssueTracker.Issue.Patch
import IssueTracker.Issue.Validation
import IssueTracker.Json.Basic
import IssueTracker.Json.Buffered
import IssueTracker.Json.Codec
import IssueTracker.Json.Described
import IssueTracker.Json.Lawful
import IssueTracker.Json.Parser
import IssueTracker.Json.Printer
import IssueTracker.Json.Record
import IssueTracker.Json.RoundTrip
import IssueTracker.Json.Scanning
import IssueTracker.Json.Token
import IssueTracker.ListQuery
import IssueTracker.Listing
import IssueTracker.Main
import IssueTracker.Paging
import IssueTracker.Plan
import IssueTracker.Plan.Turns
import IssueTracker.Project
import IssueTracker.Proofs.Answers
import IssueTracker.Proofs.Effect
import IssueTracker.Proofs.Integrity
import IssueTracker.Proofs.Ledger
import IssueTracker.Proofs.Recomputing
import IssueTracker.Proofs.Routing
import IssueTracker.Proofs.Spelling
import IssueTracker.Proofs.Steps
import IssueTracker.Proofs.Tallies
import IssueTracker.Proofs.Unchanged
import IssueTracker.Proofs.Untouched
import IssueTracker.Proofs.Wp
import IssueTracker.Proofs.Writes
import IssueTracker.Recompute
import IssueTracker.Route.Clash
import IssueTracker.Route.Resource
import IssueTracker.Route.Router
import IssueTracker.Route.Template
import IssueTracker.Service.Access
import IssueTracker.Service.App
import IssueTracker.Service.Basic
import IssueTracker.Service.Concurrent
import IssueTracker.Service.History
import IssueTracker.Service.Operations
import IssueTracker.Severity
import IssueTracker.Sha256
import IssueTracker.Sorting
import IssueTracker.Startup
import IssueTracker.Startup.Database
import IssueTracker.Startup.Listen
import IssueTracker.Store.Accounts
import IssueTracker.Store.Affinity
import IssueTracker.Store.Basic
import IssueTracker.Store.Comments
import IssueTracker.Store.Issues
import IssueTracker.Store.Projects
import IssueTracker.Store.Repair
import IssueTracker.Store.Selection
import IssueTracker.Store.Statement
import IssueTracker.Store.Summaries
import IssueTracker.Target
import IssueTracker.Text.Blank
import IssueTracker.Text.Hex
import IssueTracker.Text.Pieces
import IssueTracker.Text.Printable
import IssueTracker.Text.Quoted
import IssueTracker.Text.Utf8
import IssueTracker.Timestamp.Basic
import IssueTracker.Timestamp.Pattern
import IssueTracker.Timestamp.Printer
import IssueTracker.Timestamp.Reader
import IssueTracker.Uri
import IssueTracker.Uuid
import IssueTracker.Proofs.Access
import IssueTracker.Proofs.Isolation
import IssueTracker.Proofs.Keys
import IssueTracker.Proofs.Lockstep
import IssueTracker.Proofs.Ordering
import IssueTracker.Proofs.Listings
import IssueTracker.Proofs.Alike
import IssueTracker.Proofs.Noninterference
import IssueTracker.Proofs.Chronology
import IssueTracker.Proofs.Paging
import IssueTracker.Proofs.Walking
import IssueTracker.Proofs.Admission
import IssueTracker.Proofs.Rows
import IssueTracker.Proofs.Limits
import IssueTracker.Proofs.Querying
import IssueTracker.Proofs.Members
import IssueTracker.Proofs.Documented
import IssueTracker.Proofs.Provenance
import IssueTracker.Proofs.Instants
import IssueTracker.Proofs.Wire
import IssueTracker.Proofs.Segments
import IssueTracker.Proofs.Serving
import IssueTracker.Proofs.Agreement
import IssueTracker.Proofs.Gate
import IssueTracker.Proofs.Turning
import IssueTracker.Proofs.Following
import IssueTracker.Proofs.Pinning
import IssueTracker.Proofs.Serializing
import IssueTracker.Proofs.Sequential
import IssueTracker.Proofs.Linking
import IssueTracker.Proofs.Outcomes
import IssueTracker.Proofs.Reporting
import IssueTracker.Proofs.Revising
import IssueTracker.Proofs.Discussing
import IssueTracker.Proofs.Merging
import IssueTracker.Proofs.Waiting
import IssueTracker.Proofs.Numerals
import IssueTracker.Proofs.Configuring
import IssueTracker.Proofs.Draining
import IssueTracker.Proofs.Stepping
import IssueTracker.Proofs.Sorting
import IssueTracker.Proofs.Casing

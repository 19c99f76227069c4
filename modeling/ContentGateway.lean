import ContentGateway.Api.Router
import ContentGateway.Depot.Report
import ContentGateway.Isolation
import ContentGateway.Json.Strings
import ContentGateway.Session
import ContentGateway.Startup
import ContentGateway.Proofs.Action
import ContentGateway.Proofs.Catalog.Entries
import ContentGateway.Proofs.Catalog.Changes
import ContentGateway.Proofs.Catalog.Search
import ContentGateway.Proofs.Reconciler.Attempts
import ContentGateway.Proofs.Reconciler.Walk
import ContentGateway.Proofs.Depot.Calls
import ContentGateway.Proofs.Depot.Replicas
import ContentGateway.Proofs.Reconciler.Completeness
import ContentGateway.Proofs.Reconciler.Invariant
import ContentGateway.Proofs.Service.Removal
import ContentGateway.Proofs.Service.Replication
import ContentGateway.Proofs.Service.Runs
import ContentGateway.Proofs.Service.Convergence
import ContentGateway.Proofs.Elastic.Meaning
import ContentGateway.Proofs.Catalog.GeneratedIds
import ContentGateway.Proofs.Sorting.Ranks
import ContentGateway.Proofs.Sorting.Block
import ContentGateway.Proofs.Sorting.Run
import ContentGateway.Proofs.Sorting.Pivot
import ContentGateway.Proofs.Catalog.Arranging
import ContentGateway.Proofs.Catalog.Paging
import ContentGateway.Proofs.Indexer.Calls
import ContentGateway.Proofs.Catalog.History
import ContentGateway.Proofs.Decimal.Shortest
import ContentGateway.Proofs.Json.Numbers
import ContentGateway.Proofs.Json.Numerals
import ContentGateway.Proofs.Json.Characters
import ContentGateway.Proofs.Text.Utf8
import ContentGateway.Proofs.Json.Text
import ContentGateway.Proofs.Json.Record
import ContentGateway.Proofs.Json.Values
import ContentGateway.Proofs.Elastic.Exchange
import ContentGateway.Proofs.Catalog.Values
import ContentGateway.Proofs.Elastic.Mirrors
import ContentGateway.Proofs.Elastic.Simulation
import ContentGateway.Proofs.Stream
import ContentGateway.Proofs.Text.Samples
import ContentGateway.Proofs.ContentType
import ContentGateway.Proofs.Text.Blank
import ContentGateway.Proofs.Catalog.Contents
import ContentGateway.Proofs.Service.Reading
import ContentGateway.Proofs.Service.Indexing
import ContentGateway.Proofs.Service.Uploads
import ContentGateway.Proofs.Service.Healthy
import ContentGateway.Proofs.Service.Undisturbed
import ContentGateway.Proofs.Service.Addressing
import ContentGateway.Proofs.Service.Leaks
import ContentGateway.Proofs.Parallel
import ContentGateway.Proofs.Service.Parallel
import ContentGateway.Proofs.Service.Interference
import ContentGateway.Proofs.Depot.Parallel
import ContentGateway.Proofs.Session.Parallel
import ContentGateway.Proofs.Api.Disclosure
import ContentGateway.Proofs.Service.Retention
import ContentGateway.Proofs.Service.ContentTypes
import ContentGateway.Proofs.Service.Window
import ContentGateway.Proofs.Query.RoundTrip
import ContentGateway.Proofs.Catalog.Holders
import ContentGateway.Proofs.Service.ContentLookup
import ContentGateway.Proofs.Reconciler.Front
import ContentGateway.Proofs.Api.Runs
import ContentGateway.Proofs.Api.Deletion
import ContentGateway.Proofs.Query.Order
import ContentGateway.Proofs.Catalog.Sorting
import ContentGateway.Proofs.Depot.Ordinary
import ContentGateway.Proofs.Service.Screening
import ContentGateway.Proofs.Service.Payloads
import ContentGateway.Proofs.Page.RoundTrip
import ContentGateway.Proofs.Ipfs.Errands
import ContentGateway.Proofs.Ipfs.Unpinning
import ContentGateway.Proofs.Api.Forms
import ContentGateway.Proofs.Text.Ascii
import ContentGateway.Proofs.Url.Percent
import ContentGateway.Proofs.Url.Building
import ContentGateway.Proofs.Elastic.Addresses
import ContentGateway.Proofs.Text.Pieces
import ContentGateway.Proofs.DomainName
import ContentGateway.Proofs.Url.Segments
import ContentGateway.Proofs.Url.Authority
import ContentGateway.Proofs.Url.Joining
import ContentGateway.Proofs.Url.Opening
import ContentGateway.Proofs.Http.Form
import ContentGateway.Proofs.Ipfs.Chores
import ContentGateway.Proofs.Ipfs.Endpoints
import ContentGateway.Proofs.Query.Phrases
import ContentGateway.Proofs.Ipfs.Multiaddress
import ContentGateway.Proofs.Url.Hosts
import ContentGateway.Proofs.Ipfs.HostList
import ContentGateway.Proofs.Ipfs.PinLists
import ContentGateway.Proofs.Elastic.MissingValues

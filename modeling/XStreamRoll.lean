import XStreamRoll.Transition
import XStreamRoll.Time
import XStreamRoll.Processing.Session
import XStreamRoll.Processing.Session.Pump
import XStreamRoll.Processing.Session.Outcome
import XStreamRoll.Processing.Session.Silence
import XStreamRoll.Lease
import XStreamRoll.Processing.LeaderElection
import XStreamRoll.Processing.LeaderElection.Fencing
import XStreamRoll.Processing.SessionRegistry
import XStreamRoll.Processing.SessionRegistry.Roster
import XStreamRoll.Processing.SessionRegistry.Refinement
import XStreamRoll.Processing.SessionRegistry.Capacity
import XStreamRoll.Processing.SessionRegistry.Holding
import XStreamRoll.Processing.Cluster
import XStreamRoll.Processing.Cluster.Ownership
import XStreamRoll.Processing.Cluster.Publisher
import XStreamRoll.Processing.Cluster.Routing
import XStreamRoll.Api.PendingEvents
import XStreamRoll.Processing.SessionRegistry.Workload
import XStreamRoll.Processing.SessionRegistry.Delivery
import XStreamRoll.Processing.Worker
import XStreamRoll.Processing.Worker.Redelivery
import XStreamRoll.Processing.Worker.Order
import XStreamRoll.Processing.Worker.Coverage
import XStreamRoll.Processing.Session.Terminal
import XStreamRoll.Processing.LeaderElection.Agreement
import XStreamRoll.Processing.SessionRegistry.Coherence
import XStreamRoll.Processing.SessionRegistry.Drain
import XStreamRoll.Processing.SessionRegistry.Heartbeat
import XStreamRoll.Processing.SessionRegistry.Gauge
import XStreamRoll.Processing.Cluster.Shutdown
import XStreamRoll.Api.Auth
import XStreamRoll.Api.Auth.Calls
import XStreamRoll.Api.Auth.Logout
import XStreamRoll.Api.Auth.Revocation
import XStreamRoll.Api.Webhooks
import XStreamRoll.Api.Webhooks.Attempts
import XStreamRoll.Api.Webhooks.Success
import XStreamRoll.Processing.EventFilter
import XStreamRoll.Processing.EventFilter.Convergence
import XStreamRoll.Json
import XStreamRoll.Json.Text
import XStreamRoll.Processing.DeadLetterStore
import XStreamRoll.Processing.DeadLetterStore.Durable
import XStreamRoll.Api.Auth.Secrets
import XStreamRoll.Api.Auth.Reset
import XStreamRoll.Api.Sanitize
import XStreamRoll.Api.Auth.Passwords
import XStreamRoll.Like
import XStreamRoll.OffsetPaging
import XStreamRoll.Api.Streams
import XStreamRoll.Api.Streams.Visibility
import XStreamRoll.Api.Streams.Service
import XStreamRoll.Api.Streams.Repositories
import XStreamRoll.Api.Streams.Pages
import XStreamRoll.Api.Streams.Updates
import XStreamRoll.Api.Streams.Gateway
import XStreamRoll.Api.Streams.Backends
import XStreamRoll.Processing.DeadLetterStore.Keys
import XStreamRoll.Processing.DeadLetterStore.Listing
import XStreamRoll.Processing.LeaderElection.Reentrance
import XStreamRoll.Processing.EventFilter.Startup
import XStreamRoll.Processing.EventFilter.OwnChanges
import XStreamRoll.Processing.Worker.Legacy
import XStreamRoll.Processing.Worker.RouteErrors
import XStreamRoll.Sdk.Http
import XStreamRoll.Sdk.Pagination
import XStreamRoll.Sdk.Client
import XStreamRoll.Sdk.Pagination.Resume
import XStreamRoll.Sdk.Signature
import XStreamRoll.App.Rooms
import XStreamRoll.App.Reconnects
import XStreamRoll.App.QueryKeys
import XStreamRoll.App.FetchJson
import XStreamRoll.App.Mounts
import XStreamRoll.App.TagMutations
import XStreamRoll.Api.Tags
import XStreamRoll.Api.Tags.Agreement
import XStreamRoll.Api.Tags.Slugs
import XStreamRoll.Api.Tags.Catalogue
import XStreamRoll.Api.Tags.References
import XStreamRoll.Processing.DeadLetterStore.Canonical
import XStreamRoll.Processing.Lifecycle
import XStreamRoll.Processing.Session.Lifecycle
import XStreamRoll.Processing.LeaderElection.Timers
import XStreamRoll.Processing.EventFilter.Wire
import XStreamRoll.Api.Webhooks.Repositories
import XStreamRoll.Api.Webhooks.Lifecycle
import XStreamRoll.Api.Webhooks.Records
import XStreamRoll.Loop
import XStreamRoll.Batches
import XStreamRoll.Api.Notifications
import XStreamRoll.Api.Webhooks.Sweeps
import XStreamRoll.Api.Auth.Identity
import XStreamRoll.Lists
import XStreamRoll.Table
import XStreamRoll.Replace
import XStreamRoll.Api.Sanitize.Entities
import XStreamRoll.Api.Sanitize.Markup
import XStreamRoll.Api.Sanitize.Bodies
import XStreamRoll.Api.Streams.Search
import XStreamRoll.Api.Streams.Ingest
import XStreamRoll.Api.Streams.Subscriptions
import XStreamRoll.Api.Streams.Connections
import XStreamRoll.Api.Auth.Alone
import XStreamRoll.Api.Auth.Atomic
import XStreamRoll.Api.Auth.Recovery
import XStreamRoll.Api.Auth.ResetMail
import XStreamRoll.Api.Auth.Admins
import XStreamRoll.Yaml
import XStreamRoll.Scripts.NetworkPolicies
import XStreamRoll.Transition.Images
import XStreamRoll.Api.Webhooks.Controller
import XStreamRoll.Api.Webhooks.Owners
import XStreamRoll.Api.Webhooks.Concealment
import XStreamRoll.Api.Notifications.Inbox
import XStreamRoll.Api.Notifications.Pushes
import XStreamRoll.Api.Notifications.History
import XStreamRoll.OffsetPaging.Growing
import XStreamRoll.Sdk.Pagination.Growing
import XStreamRoll.Sdk.Pagination.Streams
import XStreamRoll.Lines
import XStreamRoll.Scripts.YamlStream
import XStreamRoll.App.StreamSocket
import XStreamRoll.Exposition
import XStreamRoll.Processing.MetricsServer
import XStreamRoll.Buckets
import XStreamRoll.Api.Streams.Analytics
import XStreamRoll.Api.Streams.Controller
import XStreamRoll.Transition.Past
import XStreamRoll.Api.Streams.Owners

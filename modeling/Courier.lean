import Courier.Action
import Courier.Admission
import Courier.Calendar.Clock
import Courier.Calendar.Date
import Courier.Calendar.DateText
import Courier.Calendar.Duration
import Courier.Calendar.Instant
import Courier.Calendar.InstantText
import Courier.Calendar.SharedClock
import Courier.Data.Dict
import Courier.Data.OrderedSet
import Courier.Database.Catalogue
import Courier.Database.Columns
import Courier.Database.Directory
import Courier.Database.EventLog
import Courier.Database.Pattern
import Courier.Database.Queues
import Courier.Database.Schema
import Courier.Database.SendStore
import Courier.Database.Session
import Courier.Database.TableChange
import Courier.Database.Value
import Courier.Delivery.Client
import Courier.Delivery.Header
import Courier.Delivery.Network
import Courier.Delivery.Outcome
import Courier.Delivery.Request
import Courier.Delivery.Response
import Courier.Error
import Courier.Event.Directory
import Courier.Event.Event
import Courier.Event.State
import Courier.Identity.Id
import Courier.Identity.Uuid
import Courier.Idna.ClassTable
import Courier.Idna.Domain
import Courier.Idna.MappingTable
import Courier.Idna.Punycode
import Courier.Json.Codec
import Courier.Json.Decode
import Courier.Json.Node
import Courier.Json.Number
import Courier.Json.Token
import Courier.Json.Value
import Courier.Number.Binary64
import Courier.Number.Shortest
import Courier.Partition.Daily
import Courier.Partition.Manager
import Courier.Partition.Plan
import Courier.Partition.Window
import Courier.Polling.Cycle
import Courier.Polling.Loop
import Courier.Retry.Backoff
import Courier.Sending.Journal
import Courier.Sending.MemoryStore
import Courier.Sending.Pipeline
import Courier.Sending.Store
import Courier.Settings.Field
import Courier.Settings.Masking
import Courier.Settings.RawValue
import Courier.Settings.Settings
import Courier.Settings.Variable
import Courier.Text.Base64
import Courier.Text.Blank
import Courier.Text.CaseTable
import Courier.Text.CharSet
import Courier.Text.Decimal
import Courier.Text.Enclosed
import Courier.Text.Hex
import Courier.Text.LowerCase
import Courier.Text.Normal
import Courier.Text.NormalTable
import Courier.Text.PrintTable
import Courier.Text.Quoted
import Courier.Text.Search
import Courier.Text.Utf8
import Courier.Toml.Document
import Courier.Toml.Quoted
import Courier.Toml.Scalar
import Courier.Url.Address
import Courier.Url.Host
import Courier.Url.Percent
import Courier.Url.Url
import Courier.Workers.Dispatch
import Courier.Workers.Pool
import Courier.Workers.Size
import Courier.Workers.Timetable
import Courier.Proofs.Retry.Decision
import Courier.Proofs.Sending.Recording
import Courier.Proofs.Sending.Scheduling
import Courier.Proofs.Sending.Effect
import Courier.Proofs.Queues.Account
import Courier.Proofs.Queues.Ledger
import Courier.Proofs.Queues.Pollers
import Courier.Proofs.Polling.AllOrNothing
import Courier.Proofs.Polling.Cadence
import Courier.Proofs.Admission.Checks
import Courier.Proofs.Admission.Exactness
import Courier.Proofs.Partition.Canonical
import Courier.Proofs.Partition.Convergence
import Courier.Proofs.Partition.Retention
import Courier.Proofs.Partition.Schedule
import Courier.Proofs.Workers.Dispatch
import Courier.Proofs.Json.RoundTrip
import Courier.Proofs.Delivery.KeptText
import Courier.Proofs.Polling.Attribution
import Courier.Proofs.Settings.Layers
import Courier.Proofs.Settings.Masking
import Courier.Proofs.Settings.QueryPassword
import Courier.Proofs.Delivery.Reading
import Courier.Proofs.Delivery.Taxonomy
import Courier.Proofs.Delivery.Forwarding
import Courier.Proofs.Retry.Agreement
import Courier.Proofs.Retry.Retention
import Courier.Proofs.Sending.FollowUp
import Courier.Proofs.Sending.Independence
import Courier.Proofs.Sending.Batching
import Courier.Proofs.Admission.Secrecy
import Courier.Proofs.Partition.Wording
import Courier.Proofs.Partition.Rolling
import Courier.Proofs.Partition.Offsets
import Courier.Proofs.Partition.Tiling
import Courier.Proofs.Partition.Listing
import Courier.Proofs.Calendar.SharedClock

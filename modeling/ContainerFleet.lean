import ContainerFleet.Client.Cache
import ContainerFleet.Client.Endpoint
import ContainerFleet.Client.Pool
import ContainerFleet.Container.Call
import ContainerFleet.Container.Error
import ContainerFleet.Container.Identity
import ContainerFleet.Container.Memory
import ContainerFleet.Container.Removal
import ContainerFleet.Data.Json
import ContainerFleet.Data.Value
import ContainerFleet.Definition.Basic
import ContainerFleet.Definition.Reading
import ContainerFleet.Dict
import ContainerFleet.Drift.Correlation
import ContainerFleet.Drift.Report
import ContainerFleet.Engine.Exchange
import ContainerFleet.Engine.Request
import ContainerFleet.Engine.Response
import ContainerFleet.Fleet.Availability
import ContainerFleet.Fleet.Capacity
import ContainerFleet.Fleet.Cloud
import ContainerFleet.Fleet.CloudSweep
import ContainerFleet.Fleet.Creation
import ContainerFleet.Fleet.Error
import ContainerFleet.Fleet.Job
import ContainerFleet.Fleet.Planning
import ContainerFleet.Fleet.Reap
import ContainerFleet.Fleet.Status
import ContainerFleet.Fleet.State
import ContainerFleet.Fleet.Sweep
import ContainerFleet.Fleet.Termination
import ContainerFleet.Id.Error
import ContainerFleet.Id.Name
import ContainerFleet.Id.Tagged
import ContainerFleet.Id.Ulid
import ContainerFleet.Label.Expr
import ContainerFleet.Label.Parser
import ContainerFleet.Label.Token
import ContainerFleet.Main
import ContainerFleet.Node.Connector
import ContainerFleet.Node.Registry
import ContainerFleet.Node.Retention
import ContainerFleet.Node.State
import ContainerFleet.Proofs.Account
import ContainerFleet.Proofs.Age
import ContainerFleet.Proofs.Alone
import ContainerFleet.Proofs.BusyNodes
import ContainerFleet.Proofs.Capacity
import ContainerFleet.Proofs.CapacityRun
import ContainerFleet.Proofs.Caps
import ContainerFleet.Proofs.CreationRun
import ContainerFleet.Proofs.Dict
import ContainerFleet.Proofs.FirstFit
import ContainerFleet.Proofs.IdText
import ContainerFleet.Proofs.Leases
import ContainerFleet.Proofs.Ledger
import ContainerFleet.Proofs.Matching
import ContainerFleet.Proofs.Memory
import ContainerFleet.Proofs.Orderly
import ContainerFleet.Proofs.Ownership
import ContainerFleet.Proofs.ReapPass
import ContainerFleet.Proofs.Registry
import ContainerFleet.Proofs.Removal
import ContainerFleet.Proofs.Scene
import ContainerFleet.Proofs.SharedEndpoint
import ContainerFleet.Proofs.Sighting
import ContainerFleet.Proofs.Stage
import ContainerFleet.Proofs.Staleness
import ContainerFleet.Proofs.SweepCompany
import ContainerFleet.Proofs.SweepCourse
import ContainerFleet.Proofs.SweepEffect
import ContainerFleet.Proofs.SweepHistory
import ContainerFleet.Proofs.SweepOrder
import ContainerFleet.Proofs.SweepRace
import ContainerFleet.Proofs.SweepRun
import ContainerFleet.Proofs.SweepStrand
import ContainerFleet.Proofs.SweepTurn
import ContainerFleet.Proofs.Turn
import ContainerFleet.Proofs.Walk
import ContainerFleet.Rehearsal.Operation
import ContainerFleet.Rehearsal.Schedule
import ContainerFleet.Rehearsal.Site
import ContainerFleet.Rehearsal.World
import ContainerFleet.Settings
import ContainerFleet.Text.Blank
import ContainerFleet.Uri.Percent
import ContainerFleet.Text.Visible
import ContainerFleet.Text.Utf8
import ContainerFleet.Time.Calendar
import ContainerFleet.Time.Duration
import ContainerFleet.Time.Rfc3339
import ContainerFleet.Time.Timestamp
import ContainerFleet.Toml.Document
import ContainerFleet.Toml.Scalar
import ContainerFleet.Toml.Text
import ContainerFleet.Toml.Tree
import ContainerFleet.Uri.Address
import ContainerFleet.Uri.Basic
import ContainerFleet.Uri.DomainName
import ContainerFleet.Uri.Host
import ContainerFleet.Uri.Path
import ContainerFleet.Uri.Punycode
import ContainerFleet.Proofs.Cache
import ContainerFleet.Proofs.CacheMaps
import ContainerFleet.Proofs.CacheRun
import ContainerFleet.Proofs.PoolRun
import ContainerFleet.Proofs.TerminationRun
import ContainerFleet.Proofs.TerminationRace
import ContainerFleet.Proofs.Breaker
import ContainerFleet.Proofs.ReapRun
import ContainerFleet.Proofs.Convergence
import ContainerFleet.Proofs.Lexeme
import ContainerFleet.Proofs.LabelGrammar
import ContainerFleet.Proofs.LabelReader
import ContainerFleet.Proofs.LabelParse
import ContainerFleet.Proofs.LabelRefusal
import ContainerFleet.Proofs.LabelRoundTrip
import ContainerFleet.Proofs.JsonText
import ContainerFleet.Proofs.IdValue
import ContainerFleet.Proofs.Utf8
import ContainerFleet.Proofs.FormText
import ContainerFleet.Proofs.EngineRequest
import ContainerFleet.Proofs.Words
import ContainerFleet.Proofs.DefinitionCheck
import ContainerFleet.Proofs.RegistryRun
import ContainerFleet.Proofs.RemovalOutcome
import ContainerFleet.Proofs.UriParts
import ContainerFleet.Proofs.CreationTime
import ContainerFleet.Proofs.DriftReport
import ContainerFleet.Proofs.HostText
import ContainerFleet.Proofs.EndpointPort
import ContainerFleet.Proofs.CorrelationRun
import ContainerFleet.Proofs.CachePurge
import ContainerFleet.Proofs.AvailabilityRun
import ContainerFleet.Proofs.RetentionVerdict
import ContainerFleet.Proofs.GraceOrder
import ContainerFleet.Proofs.TextOctets
import ContainerFleet.Proofs.IdOrder
import ContainerFleet.Proofs.NameCheck
import ContainerFleet.Proofs.NodeNames
import ContainerFleet.Proofs.LabelSpacing
import ContainerFleet.Proofs.TaggedData
import ContainerFleet.Proofs.MemoryRun
import ContainerFleet.Proofs.Startup

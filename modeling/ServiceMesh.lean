import ServiceMesh.Main
import ServiceMesh.Registry.Consul
import ServiceMesh.Registry.Peers
import ServiceMesh.Report.Options
import ServiceMesh.Report.Services
import ServiceMesh.Scenario.Registries
import ServiceMesh.Scenario.Resources
import ServiceMesh.Proofs.Fault.Expiry
import ServiceMesh.Proofs.Registry.InitialLoad
import ServiceMesh.Proofs.Registry.LastKnown
import ServiceMesh.Proofs.Resource.SharedHandles
import ServiceMesh.Proofs.Snapshot.Coupling
import ServiceMesh.Proofs.Snapshot.Deliveries
import ServiceMesh.Proofs.Snapshot.FullRebuild
import ServiceMesh.Proofs.Snapshot.NoLostUpdate
import ServiceMesh.Proofs.Snapshot.PublicationOrder
import ServiceMesh.Proofs.Snapshot.Streams
import ServiceMesh.Proofs.Zone.Interleaving
import ServiceMesh.Proofs.Zone.Remote
import ServiceMesh.Proofs.Json.Records
import ServiceMesh.Proofs.Text.Utf8
import ServiceMesh.Proofs.Service.RoundTrip
import ServiceMesh.Proofs.Pipeline.Merge
import ServiceMesh.Proofs.Pipeline.Standard
import ServiceMesh.Proofs.Pipeline.Idempotence
import ServiceMesh.Proofs.Pipeline.Outcome
import ServiceMesh.Proofs.Sorting
import ServiceMesh.Proofs.Snapshot.Presentation
import ServiceMesh.Proofs.ControlPlane
import ServiceMesh.Proofs.Zone.Sharing
import ServiceMesh.Proofs.Wire.Message
import ServiceMesh.Proofs.Resource.WireForm
import ServiceMesh.Proofs.Resource.Batches
import ServiceMesh.Proofs.Snapshot.ParallelBuilds
import ServiceMesh.Proofs.Snapshot.Readiness
import ServiceMesh.Proofs.Snapshot.ParallelTick
import ServiceMesh.Proofs.Snapshot.ParallelRuns
import ServiceMesh.Proofs.ControlPlane.Routability
import ServiceMesh.Proofs.ControlPlane.Weights
import ServiceMesh.Proofs.Snapshot.FaultRules
import ServiceMesh.Proofs.Admin.Addressing
import ServiceMesh.Proofs.Registry.RequestSpacing
import ServiceMesh.Proofs.Snapshot.Comparison
import ServiceMesh.Proofs.Snapshot.GlobalHistory
import ServiceMesh.Proofs.Admin.Submission
import ServiceMesh.Proofs.Admin.Rejection
import ServiceMesh.Proofs.Snapshot.Alignment
import ServiceMesh.Proofs.Snapshot.BuilderSession
import ServiceMesh.Proofs.ConsumerGroup
import ServiceMesh.Proofs.Pattern.Rounds
import ServiceMesh.Proofs.Pattern.Search
import ServiceMesh.Proofs.Pipeline.Conservation
import ServiceMesh.Proofs.Pattern.Classes
import ServiceMesh.Proofs.Pattern.Groups
import ServiceMesh.Proofs.Pattern.Progress
import ServiceMesh.Proofs.Pipeline.Denylist
import ServiceMesh.Proofs.Snapshot.VersionIdentity
import ServiceMesh.Proofs.Number.Decimal
import ServiceMesh.Proofs.Duration.Grammar
import ServiceMesh.Proofs.Duration.RoundTrip
import ServiceMesh.Proofs.Fault.Texts
import ServiceMesh.Proofs.Registry.Mapping
import ServiceMesh.Proofs.Registry.ServicePath
import ServiceMesh.Proofs.Snapshot.Reuse
import ServiceMesh.Proofs.Pattern.Capture
import ServiceMesh.Proofs.Pattern.Escape
import ServiceMesh.Proofs.Number.Integer

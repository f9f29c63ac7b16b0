import CensusLink.Bench
import CensusLink.Main
import CensusLink.Proofs.Json.Documents
import CensusLink.Proofs.Json.RecordReading
import CensusLink.Proofs.Instant.RoundTrip
import CensusLink.Proofs.Json.RoundTrip
import CensusLink.Proofs.Latest
import CensusLink.Proofs.Linking.Attempts
import CensusLink.Proofs.Linking.Idempotence
import CensusLink.Proofs.Linking.Stability
import CensusLink.Proofs.Linking.Concurrent
import CensusLink.Proofs.Linking.Soundness
import CensusLink.Proofs.BenchRuns
import CensusLink.Proofs.Services.Operations
import CensusLink.Proofs.Retry.Absorption
import CensusLink.Proofs.Linking.Footprint
import CensusLink.Proofs.Linking.Independence
import CensusLink.Proofs.Inbound.Handling
import CensusLink.Proofs.Linking.Overlap
import CensusLink.Proofs.Inbound.Redelivery
import CensusLink.Proofs.Json.Spelled
import CensusLink.Proofs.Json.Depth
import CensusLink.Proofs.Json.Limit
import CensusLink.Proofs.Store.RecordFile
import CensusLink.Proofs.Store.Disk
import CensusLink.Proofs.Store.Backends
import CensusLink.Proofs.Store.OneMap
import CensusLink.Proofs.Json.Height
import CensusLink.Proofs.Services.Agreement
import CensusLink.Proofs.Services.Indifference
import CensusLink.Proofs.Services.BothBackends
import CensusLink.Proofs.Registry.Catalogue
import CensusLink.Proofs.Instant.Form
import CensusLink.Proofs.Linking.Shown
import CensusLink.Proofs.Uuid.Form
import CensusLink.Proofs.Json.Forms
import CensusLink.Proofs.Retry.Stream
import CensusLink.Proofs.Pool
import CensusLink.Proofs.Inbound.Verdict
import CensusLink.Proofs.Inbound.Ingest
import CensusLink.Proofs.Inbound.Upsert
import CensusLink.Proofs.Services.Publishing
import CensusLink.Proofs.Selection
import CensusLink.Proofs.Store.Rewriting
import CensusLink.Proofs.Binary64.Rounding
import CensusLink.Proofs.Binary64.Power
import CensusLink.Proofs.Retry.Delay
import CensusLink.Proofs.Store.Naming
import CensusLink.Proofs.Services.Configured

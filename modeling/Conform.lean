import Conform.Main
import Conform.Proofs.Checking.Walk
import Conform.Proofs.Number.Order
import Conform.Proofs.Schema.Parts
import Conform.Proofs.Schema.Fields
import Conform.Resolver.Remote
import Conform.Run.Explanation
import Conform.Proofs.Schema.Built
import Conform.Proofs.Checking.Conformance
import Conform.Proofs.Compile.Built
import Conform.Proofs.Source.Grammar
import Conform.Proofs.Source.Reading
import Conform.Proofs.Source.Soundness
import Conform.Proofs.Source.Completeness
import Conform.Proofs.Resolver.Effect
import Conform.Proofs.Resolver.SingleFlight
import Conform.Proofs.Random.Drawing
import Conform.Proofs.Sample.Conformance
import Conform.Proofs.Checking.Completeness
import Conform.Proofs.Compile.Versions
import Conform.Proofs.Compile.Sandbox
import Conform.Proofs.Compile.Failures
import Conform.Proofs.Resolver.Cancellation
import Conform.Proofs.Resolver.Orphans
import Conform.Proofs.Source.Writing
import Conform.Proofs.Checking.Policies
import Conform.Proofs.Checking.Dispatch
import Conform.Proofs.Source.Partition
import Conform.Proofs.Compile.Filler
import Conform.Proofs.Compile.Diagnostics
import Conform.Proofs.Source.Spans
import Conform.Proofs.Run.Outcome
import Conform.Proofs.Run.Reception
import Conform.Proofs.Run.Sessions
import Conform.Proofs.Run.Disturbance
import Conform.Proofs.Run.Batches
import Conform.Proofs.Sample.Bounds
import Conform.Proofs.Checking.Unions
import Conform.Proofs.Sample.Affixes
import Conform.Proofs.Sample.Unions
import Conform.Proofs.Sample.Multiples
import Conform.Proofs.Checking.Tags
import Conform.Proofs.Run.Sending
import Conform.Proofs.Checking.Shapes
import Conform.Proofs.Schema.Merging
import Conform.Proofs.Schema.Descriptions
import Conform.Proofs.Pattern.Respelling
import Conform.Proofs.Source.Escapes
import Conform.Proofs.Schema.Formats
import Conform.Proofs.Schema.Dates
import Conform.Proofs.Telemetry.Hooks
import Conform.Proofs.Sample.Formats
import Conform.Proofs.Sample.Timestamps
import Conform.Proofs.Config.Merging
import Conform.Proofs.Datum.Composition
import Conform.Proofs.Config.Overrides

import ShapeSum.CommandLine.Run
import ShapeSum.Files.Tree
import ShapeSum.Main
import ShapeSum.Union.Tagged
import ShapeSum.Value.Equality
import ShapeSum.Proofs.Generation.Run
import ShapeSum.Proofs.Schema.Documents
import ShapeSum.Proofs.Decode.Selection
import ShapeSum.Proofs.Generation.Likeness
import ShapeSum.Proofs.Generation.Overtaking
import ShapeSum.Proofs.Generation.Rollback
import ShapeSum.Proofs.Decode.Returning
import ShapeSum.Proofs.Generation.Describing
import ShapeSum.Proofs.Generation.Reuse
import ShapeSum.Proofs.Value.Hashing
import ShapeSum.Proofs.Decode.Shape
import ShapeSum.Proofs.Schema.Reach
import ShapeSum.Proofs.Schema.Chains
import ShapeSum.Proofs.Generation.Nesting
import ShapeSum.Proofs.Generation.Conformance
import ShapeSum.Proofs.Generation.RoundTrip
import ShapeSum.Proofs.Decode.Overlapping
import ShapeSum.Proofs.Generation.Declaring
import ShapeSum.Proofs.Generation.Homes
import ShapeSum.Proofs.Generation.Variants
import ShapeSum.Proofs.Generation.Uniting
import ShapeSum.Proofs.Generation.Recursion
import ShapeSum.Proofs.Decode.Embedded
import ShapeSum.Proofs.Generation.Closing
import ShapeSum.Proofs.Canonical.Congruence
import ShapeSum.Proofs.Decode.Order
import ShapeSum.Proofs.Generation.Enumerations
import ShapeSum.Proofs.Generation.Gathering
import ShapeSum.Proofs.Canonical.Fingerprints
import ShapeSum.Proofs.Naming.TypeNames
import ShapeSum.Proofs.Naming.FieldNames
import ShapeSum.Proofs.Report.Summaries
import ShapeSum.Proofs.Schema.Locations
import ShapeSum.Proofs.CommandLine.Endings
import ShapeSum.Proofs.Schema.Caching
import ShapeSum.Proofs.Generation.Lookup
import ShapeSum.Proofs.Generation.Finiteness

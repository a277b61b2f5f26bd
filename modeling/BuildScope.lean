import BuildScope.Main
import BuildScope.Proofs.Pairing.ByRank
import BuildScope.Proofs.Pairing.Queues
import BuildScope.Proofs.Matching.Passes
import BuildScope.Proofs.Matching.Stability
import BuildScope.Proofs.Matching.Ranking
import BuildScope.Proofs.Matching.PaddingOnce
import BuildScope.Proofs.Deltas.Arrangement
import BuildScope.Proofs.Diff.Coverage
import BuildScope.Proofs.Pairing.Invariance
import BuildScope.Proofs.Matching.Exhaustion
import BuildScope.Proofs.Matching.Symmetry
import BuildScope.Proofs.Matching.Locality
import BuildScope.Proofs.Pairing.Blocks
import BuildScope.Proofs.Deltas.Regrouping
import BuildScope.Proofs.Deltas.Growth
import BuildScope.Proofs.Matching.Charges
import BuildScope.Proofs.Diff.Conservation
import BuildScope.Proofs.Deltas.Flatness
import BuildScope.Proofs.Deltas.Range
import BuildScope.Proofs.Diff.Success
import BuildScope.Proofs.Json.Range
import BuildScope.Proofs.Json.Lexing
import BuildScope.Proofs.Json.Rereading
import BuildScope.Proofs.Snapshot.RoundTrip
import BuildScope.Proofs.Matching.Counts
import BuildScope.Proofs.Buildbucket.Sessions
import BuildScope.Proofs.Text.ByteOrder
import BuildScope.Proofs.Builder.LookupOrder
import BuildScope.Proofs.Number.Exponents
import BuildScope.Proofs.Matching.Identity
import BuildScope.Proofs.Deltas.Standstill
import BuildScope.Proofs.Diff.Identity
import BuildScope.Proofs.Matching.SegmentTotals
import BuildScope.Proofs.Name.Numbers
import BuildScope.Proofs.Name.Shortening
import BuildScope.Proofs.Name.Clones
import BuildScope.Proofs.Name.Placeholders
import BuildScope.Proofs.Diff.ContainerLists
import BuildScope.Proofs.Diff.Flattening
import BuildScope.Proofs.Deltas.GroupStatus
import BuildScope.Proofs.Number.Units
import BuildScope.Proofs.Number.Grid
import BuildScope.Proofs.Deltas.Shares
import BuildScope.Proofs.Deltas.GainedAliases
import BuildScope.Proofs.Deltas.Totals
import BuildScope.Proofs.Snapshot.FirstFault
import BuildScope.Proofs.Diff.Summary
import BuildScope.Proofs.Deltas.Sorting
import BuildScope.Proofs.Deltas.Numbers
import BuildScope.Proofs.Diff.Listing
import BuildScope.Proofs.Command.DiffReport
import BuildScope.Proofs.Padding.Segments
import BuildScope.Proofs.Builder.Search
import BuildScope.Proofs.Builder.Narrowing
import BuildScope.Proofs.Builder.MirrorNames
import BuildScope.Proofs.Builder.Listings

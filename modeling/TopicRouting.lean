import TopicRouting.Main
import TopicRouting.Proofs.Forest.Borrowed
import TopicRouting.Proofs.Linked.Boundaries
import TopicRouting.Proofs.Linked.Exhaustion
import TopicRouting.Proofs.Linked.Interference
import TopicRouting.Proofs.Linked.Listing
import TopicRouting.Proofs.Linked.Naming
import TopicRouting.Proofs.Linked.Safety
import TopicRouting.Proofs.Linked.Spanning
import TopicRouting.Proofs.Linked.Tokenizing
import TopicRouting.Proofs.Linked.Tracing
import TopicRouting.Proofs.Linked.Withdrawal
import TopicRouting.Proofs.RouteFile.Acceptance
import TopicRouting.Proofs.Table.Clearing
import TopicRouting.Proofs.Table.Coherence
import TopicRouting.Proofs.Table.Observation
import TopicRouting.Proofs.Table.Provenance
import TopicRouting.Proofs.Table.Reconciliation
import TopicRouting.Proofs.Table.Reordering
import TopicRouting.Proofs.Table.Reversal
import TopicRouting.Proofs.Table.Sharing
import TopicRouting.Proofs.Workload.Resolution

import ClusterRpc.Main
import ClusterRpc.Proofs.Arrival
import ClusterRpc.Proofs.Ledger
import ClusterRpc.Proofs.Prospect
import ClusterRpc.Proofs.Isolation
import ClusterRpc.Proofs.Failover
import ClusterRpc.Proofs.Exhaustion
import ClusterRpc.Proofs.Agreement
import ClusterRpc.Proofs.Completion
import ClusterRpc.Proofs.Leader
import ClusterRpc.Proofs.Rearrangement
import ClusterRpc.Proofs.Patience
import ClusterRpc.Proofs.Cancellation
import ClusterRpc.Proofs.Login
import ClusterRpc.Proofs.Confinement
import ClusterRpc.Proofs.Arguments
import ClusterRpc.Proofs.Alternation
import ClusterRpc.Proofs.Persistence
import ClusterRpc.Proofs.Indifference
import ClusterRpc.Proofs.Extent
import ClusterRpc.Proofs.Heading
import ClusterRpc.Proofs.Separation
import ClusterRpc.Proofs.Requests
import ClusterRpc.Proofs.Documents
import ClusterRpc.Proofs.Preface
import ClusterRpc.Proofs.Addresses
import ClusterRpc.Proofs.Division
import ClusterRpc.Proofs.Interruption
import ClusterRpc.Proofs.Redialling
import ClusterRpc.Proofs.Transmission
import ClusterRpc.Proofs.Splitting
import ClusterRpc.Proofs.Printing
import ClusterRpc.Proofs.Replacement
import ClusterRpc.Proofs.Storage
import ClusterRpc.Proofs.Reception
import ClusterRpc.Proofs.Reporting

import HostOverlay.Journal.Exposition
import HostOverlay.Session.Run
import HostOverlay.Settings.Loading
import HostOverlay.Topology.Validity
import HostOverlay.Proofs.Labels
import HostOverlay.Proofs.Naming
import HostOverlay.Proofs.Substitution.Convergence
import HostOverlay.Proofs.Substitution.References
import HostOverlay.Proofs.Substitution.Paths
import HostOverlay.Proofs.Substitution.Dependence
import HostOverlay.Proofs.Substitution.Finality
import HostOverlay.Proofs.Bridge.Discovery
import HostOverlay.Proofs.Bridge.Repetition
import HostOverlay.Proofs.Rewriting.Network
import HostOverlay.Proofs.Rewriting.Resolution
import HostOverlay.Proofs.Rewriting.Run
import HostOverlay.Proofs.Store
import HostOverlay.Proofs.Topology.Candidates
import HostOverlay.Proofs.Topology.Locality
import HostOverlay.Proofs.Fetching.Calls
import HostOverlay.Proofs.Topology.Order
import HostOverlay.Proofs.Fetching.Run
import HostOverlay.Proofs.Journal.History
import HostOverlay.Proofs.Journal.Calls
import HostOverlay.Proofs.Journal.Run
import HostOverlay.Proofs.Bridge.Interleaving
import HostOverlay.Proofs.Bridge.Run
import HostOverlay.Proofs.Topology.Selection
import HostOverlay.Proofs.Topology.Routers
import HostOverlay.Proofs.Topology.Locals
import HostOverlay.Proofs.Bridge.Choice
import HostOverlay.Proofs.Bridge.Effect
import HostOverlay.Proofs.Inspection.Decision
import HostOverlay.Proofs.Inspection.Containment
import HostOverlay.Proofs.Address.RoundTrip
import HostOverlay.Proofs.Inspection.Netmasks
import HostOverlay.Proofs.Substitution.Spelling
import HostOverlay.Proofs.Fetching.Isolation
import HostOverlay.Proofs.Validation.Reports
import HostOverlay.Proofs.Validation.Dumps
import HostOverlay.Proofs.Validation.Validity
import HostOverlay.Proofs.Journal.Metrics

import DpService.Foundations.Machine
import DpService.Foundations.Arena
import DpService.Foundations.Table
import DpService.Foundations.BigEndian
import DpService.Foundations.Batch
import DpService.Base
import DpService.Ipsec.Association
import DpService.Ipsec.Database
import DpService.Ipsec.Ownership
import DpService.Ipsec.Consistency
import DpService.Ipsec.Contract
import DpService.Ipsec.Rekey
import DpService.Grpc.Hex
import DpService.Grpc.SecurityAssociation
import DpService.Grpc.RoundTrip
import DpService.Packet.Mbuf
import DpService.Dataplane.Ports
import DpService.Nodes.Tunnel
import DpService.Nodes.Crypto
import DpService.Nodes.Burst
import DpService.Nodes.CryptoSafety
import DpService.Nodes.NullEsp
import DpService.Nodes.SaSeparation
import DpService.Nodes.Transparency
import DpService.Flow.Key
import DpService.Foundations.Holders
import DpService.Flow.NatPorts
import DpService.Flow.Store
import DpService.Dataplane.Network
import DpService.Nodes.Rewrite
import DpService.Nodes.Conntrack
import DpService.Nodes.Nat
import DpService.Nodes.Forwarding
import DpService.Dataplane.Interface
import DpService.Graph.World
import DpService.Dataplane.Roles
import DpService.Dataplane.NatRequests
import DpService.Graph.Hops
import DpService.Graph.Policy
import DpService.Graph.Protection
import DpService.Flow.Sharing
import DpService.Flow.Sweeps
import DpService.Graph.Tracking
import DpService.Nodes.Fields
import DpService.Graph.PortUse
import DpService.Graph.Orderly
import DpService.Flow.Answers
import DpService.Graph.Uniqueness
import DpService.Flow.Accounting
import DpService.Graph.Accounting
import DpService.Graph.FailedTranslation
import DpService.Graph.Mappings
import DpService.Graph.Symmetry
import DpService.Graph.Classification
import DpService.Nodes.Nat64
import DpService.Control.Routing
import DpService.Control.Config
import DpService.Control.Requests
import DpService.Control.Steps
import DpService.Control.Atomicity
import DpService.Control.Interfaces
import DpService.Control.Views
import DpService.Grpc.Replies
import DpService.Firewall.Rules
import DpService.Grpc.Firewall
import DpService.Foundations.Masks
import DpService.Grpc.FirewallMatch
import DpService.Nodes.Rx
import DpService.Foundations.RoundRobin
import DpService.Foundations.SortedSlots
import DpService.Lb.Maglev
import DpService.Lb.Targets
import DpService.Lb.Lookup
import DpService.Grpc.LoadBalancer
import DpService.Flow.Coherence
import DpService.Nodes.Guidance
import DpService.Graph.Guidance
import DpService.Graph.Balancing
import DpService.Flow.Mirroring
import DpService.Flow.Joining
import DpService.Nodes.TcpState
import DpService.Dataplane.Meters
import DpService.Dhcp.Options
import DpService.Dhcp.Server
import DpService.Dhcp.V6Options
import DpService.Dhcp.V6Server
import DpService.Dataplane.Capture
import DpService.Flow.Lifetime
import DpService.Flow.Withdrawal
import DpService.Nodes.Effects
import DpService.Graph.Flights
import DpService.Graph.Lifetime
import DpService.Flow.Exactness
import DpService.Graph.Exactness
import DpService.Control.References
import DpService.Lb.Lifecycle
import DpService.Graph.Caching
import DpService.Graph.Passage
import DpService.Foundations.OnesComplement
import DpService.Nodes.Checksums
import DpService.Nodes.CommonNode
import DpService.Control.LbPrefixes
import DpService.Flow.Offload
import DpService.Nodes.Virtsvc
import DpService.Dataplane.DefaultRules

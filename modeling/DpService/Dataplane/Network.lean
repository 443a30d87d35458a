import DpService.Flow.Store

/-!
# Routes, NAT configuration and load balancing

What the forwarding nodes look up besides the ports.  The longest prefix
match of `rte_rib`, the backend selection and the firewall rules are given as
functions, and so are the computations of DPDK.
-/

namespace DpService.Dataplane

open Foundations Packet Flow

/-- `rte_hash_hash` on the two tables that use it, and the checksums of the
headers behind the Ethernet header as they are stored in a frame. -/
structure Dpdk where
  flowHash : FlowKey → UInt32
  portmapHash : PortmapKey → UInt32
  ipv4Cksum : Frame → UInt16
  ipv4UdptcpCksum : Frame → UInt16
  ipv6UdptcpCksum : Frame → UInt16

structure SnatData where
  vipIp : Ipv4
  natIp : Ipv4
  natPortRange : PortRange
  ulVipIp6 : Ipv6
  ulNatIp6 : Ipv6
  deriving DecidableEq, Repr

structure NatEntry where
  natIp : Ipv4
  portRange : UInt16 × UInt16
  vni : Vni
  dstIpv6 : Ipv6
  deriving DecidableEq, Repr

/-- A node of a routing table with the `struct dp_iface_route` behind it. -/
structure RibNode where
  nextHop : PortId
  depth : UInt8
  vni : Vni
  nhIpv6 : Ipv6
  deriving DecidableEq, Repr

structure Network where
  snat : Ipv4 → Vni → Option SnatData
  dnat : Ipv4 → Vni → Option Ipv4
  neighnat : List NatEntry
  route4 : Vni → Ipv4 → Option RibNode
  route6 : Vni → Ipv6 → Option RibNode
  lbEnabled : Bool
  isLb : IpAddress → Vni → Bool
  lbBackend : FlowKey → Vni → Option Ipv6
  firewallAction : DpFlow → Port → Port → FwallAction

def Network.empty : Network where
  snat := fun _ _ => none
  dnat := fun _ _ => none
  neighnat := []
  route4 := fun _ _ => none
  route6 := fun _ _ => none
  lbEnabled := false
  isLb := fun _ _ => false
  lbBackend := fun _ _ => none
  firewallAction := fun _ _ _ => .accept

def dpGetIfaceSnatData (network : Network) (ifaceIp : Ipv4) (vni : Vni) : Option SnatData :=
  network.snat ifaceIp vni

def dpGetDnatData (network : Network) (dIp : Ipv4) (vni : Vni) : Option Ipv4 :=
  network.dnat dIp vni

def dpIsNetworkNatPort (entry : NatEntry) (natIp : Ipv4) (vni : Vni) (port : UInt16) : Bool :=
  entry.vni == vni && entry.natIp == natIp && entry.portRange.1 ≤ port && port < entry.portRange.2

def dpLookupNeighnatUnderlayIp (network : Network) (df : DpFlow) : Option Ipv6 :=
  (network.neighnat.find? fun entry =>
    dpIsNetworkNatPort entry df.dst.addr df.tunInfo.dstVni (natDstPort df)).map NatEntry.dstIpv6

/-- The common part of `dp_get_ip4_out_port` and `dp_get_ip6_out_port`.  The
code copies the route only when its next hop is a PF. -/
def routedPort (tables : Tables) (found : Option RibNode) : Option (Port × RibNode) :=
  match found with
  | none => none
  | some node =>
    match dpGetPortById tables.ports node.nextHop with
    | none => none
    | some port => some (port, node)

def routedVni (inPort : Port) (tVni : Vni) : Vni :=
  if tVni = 0 then inPort.iface.vni else tVni

def dpGetIp4OutPort (tables : Tables) (network : Network) (inPort : Port) (tVni : Vni)
    (df : DpFlow) : Option (Port × RibNode) :=
  routedPort tables (network.route4 (routedVni inPort tVni) df.dst.addr)

def dpGetIp6OutPort (tables : Tables) (network : Network) (inPort : Port) (tVni : Vni)
    (df : DpFlow) : Option (Port × RibNode) :=
  routedPort tables (network.route6 (routedVni inPort tVni) df.dst.addr6)

def portSelectTableSize : Nat := 10

def dpMultipathGetPf (tables : Tables) (hash : UInt32) : Port :=
  let owner := (dpGetPortById tables.ports tables.pf0).getD Port.absent
  let peer := (dpGetPortById tables.ports tables.pf1).getD Port.absent
  match tables.conf.wcmp with
  | none => if owner.linkUp then owner else peer
  | some slots =>
    let selectsPeer := decide (slots ≤ hash.toNat % portSelectTableSize)
    if selectsPeer && peer.linkUp || !selectsPeer && !owner.linkUp then peer
    else owner

def dpIsIpLb (network : Network) (df : DpFlow) (vni : Vni) : Bool :=
  if df.l3Type = etherTypeIpv4 then network.isLb (.v4 df.dst.addr) vni
  else if df.l3Type = etherTypeIpv6 then network.isLb (.v6 df.dst.addr6) vni
  else false

def dpLbGetBackendIp (network : Network) (key : FlowKey) (vni : Vni) : Option Ipv6 :=
  network.lbBackend key vni

end DpService.Dataplane

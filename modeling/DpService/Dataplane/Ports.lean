import DpService.Packet.Mbuf
import Mathlib.Logic.Function.Basic

/-!
# Ports, endpoints and graph edges

The tables that a packet's way through the graph depends on: the ports with
the interfaces configured on them, and the VNF tables that say which endpoint
an underlay address stands for.
-/

namespace DpService.Dataplane

open Foundations Packet

def dpMaxPorts : Nat := 128

abbrev MacAddr := Vector UInt8 6

abbrev IfaceId := String

inductive IpAddress where
  | v4 (address : Ipv4)
  | v6 (address : Ipv6)
  deriving Repr

instance : DecidableEq IpAddress
  | .v4 _, .v4 _ => decidable_of_iff _ (IpAddress.v4.injEq _ _).to_iff.symm
  | .v6 _, .v6 _ => decidable_of_iff _ (IpAddress.v6.injEq _ _).to_iff.symm
  | .v4 _, .v6 _ => isFalse nofun
  | .v6 _, .v4 _ => isFalse nofun

/-- A range of NAT ports, without its end.  `CreateNat` accepts no other
ranges, and without NAT both bounds are zero. -/
structure PortRange where
  minPort : UInt16
  maxPort : UInt16
  ordered : minPort ≤ maxPort
  deriving DecidableEq, Repr

def PortRange.zeroed : PortRange where
  minPort := 0
  maxPort := 0
  ordered := by decide

def PortRange.Covers (range : PortRange) (port : UInt16) : Prop :=
  range.minPort ≤ port ∧ port < range.maxPort

instance (range : PortRange) (port : UInt16) :
    Decidable (range.Covers port) :=
  inferInstanceAs (Decidable (_ ∧ _))

structure PortIface where
  vni : Vni
  encrypt : Bool
  id : IfaceId
  ownIp : Ipv4
  ownIpv6 : Ipv6
  ulIpv6 : Ipv6
  natIp : Ipv4
  natPortRange : PortRange
  ready : Bool
  totalFlowRateCap : UInt64
  publicFlowRateCap : UInt64
  deriving DecidableEq, Repr

def PortIface.zeroed : PortIface where
  vni := 0
  encrypt := false
  id := ""
  ownIp := 0
  ownIpv6 := Ipv6.zero
  ulIpv6 := Ipv6.zero
  natIp := 0
  natPortRange := PortRange.zeroed
  ready := false
  totalFlowRateCap := 0
  publicFlowRateCap := 0

structure Port where
  isPf : Bool
  portId : PortId
  devName : String
  linkUp : Bool
  allocated : Bool
  ownMac : MacAddr
  neighMac : MacAddr
  iface : PortIface
  deriving DecidableEq

def Port.setEncrypt (port : Port) (encrypt : Bool) : Port :=
  { port with iface := { port.iface with encrypt } }

/-! ## The port table -/

/-- `_dp_port_table`, in which a port stands at its own identifier. -/
structure PortTable where
  entry : PortId → Option Port
  numbered : ∀ id port, entry id = some port → port.portId = id

namespace PortTable

def empty : PortTable where
  entry := fun _ => none
  numbered := by
    intro id port held
    cases held

def update (ports : PortTable) (port : Port) : PortTable where
  entry := Function.update ports.entry port.portId (some port)
  numbered := by
    intro id other held
    by_cases same : id = port.portId
    · subst same
      rw [Function.update_self, Option.some_inj] at held
      rw [held]
    · rw [Function.update_of_ne same] at held
      exact ports.numbered id other held

theorem update_entry_self (ports : PortTable) (port : Port) :
    (ports.update port).entry port.portId = some port :=
  Function.update_self ..

theorem update_entry_of_ne (ports : PortTable) {port : Port} {id : PortId}
    (different : id ≠ port.portId) :
    (ports.update port).entry id = ports.entry id :=
  Function.update_of_ne different ..

theorem update_forall {ports : PortTable} {port : Port} {property : PortId → Port → Prop}
    (new : property port.portId port)
    (old : ∀ id other, ports.entry id = some other → property id other) (id : PortId) (other : Port)
    (held : (ports.update port).entry id = some other) :
    property id other := by
  by_cases same : id = port.portId
  · subst same
    rw [update_entry_self, Option.some_inj] at held
    exact held ▸ new
  · rw [update_entry_of_ne ports same] at held
    exact old id other held

end PortTable

def dpGetPortById (ports : PortTable) (id : PortId) : Option Port :=
  if id.toNat < dpMaxPorts then ports.entry id else none

theorem dpGetPortById_eq_some {ports : PortTable} {id : PortId} {port : Port}
    (found : dpGetPortById ports id = some port) :
    ports.entry id = some port := by
  unfold dpGetPortById at found
  split at found
  · exact found
  cases found

theorem portId_of_dpGetPortById {ports : PortTable} {id : PortId} {port : Port}
    (found : dpGetPortById ports id = some port) :
    port.portId = id :=
  ports.numbered id port (dpGetPortById_eq_some found)

/-- What a use of an unregistered port would read. -/
def Port.absent : Port where
  isPf := false
  portId := 0
  devName := ""
  linkUp := false
  allocated := false
  ownMac := Vector.replicate 6 0
  neighMac := Vector.replicate 6 0
  iface := PortIface.zeroed

-- Neither getter checks the identifier: `cls` has validated the one of the
-- receiving port, and `nxt_hop` is only ever set from a validated one.
def dpGetInPort (ports : PortTable) (m : Mbuf) : Port :=
  (dpGetPortById ports m.port).getD Port.absent

def dpGetOutPort (ports : PortTable) (df : DpFlow) : Port :=
  (dpGetPortById ports df.nxtHop).getD Port.absent

/-! ## The VNF tables -/

structure VnfPrefix where
  ol : IpAddress
  length : UInt8
  deriving DecidableEq, Repr

structure Vnf where
  type : VnfType
  vni : Vni
  portId : PortId
  aliasPfx : VnfPrefix
  deriving DecidableEq, Repr

structure VnfTables where
  handle : Ipv6 → Option Vnf
  value : Vnf → Option Ipv6

def VnfTables.empty : VnfTables where
  handle := fun _ => none
  value := fun _ => none

def dpGetVnf (vnfs : VnfTables) (ulAddr6 : Ipv6) : Option Vnf :=
  vnfs.handle ulAddr6

def dpDelVnf (vnfs : VnfTables) (ulAddr6 : Ipv6) : VnfTables × Bool :=
  match vnfs.handle ulAddr6 with
  | none => (vnfs, false)
  | some vnf =>
    ({ handle := Function.update vnfs.handle ulAddr6 none
       value := Function.update vnfs.value vnf none },
      (vnfs.value vnf).isSome)

structure VnfOutcomes where
  addHandle : Bool
  addValue : Bool
  deriving DecidableEq

def dpAddVnf (outcomes : VnfOutcomes) (vnfs : VnfTables) (ulAddr6 : Ipv6)
    (vnf : Vnf) : VnfTables × Bool :=
  if (vnfs.handle ulAddr6).isSome || !outcomes.addHandle then (vnfs, false)
  else
    let added := { vnfs with handle := Function.update vnfs.handle ulAddr6 (some vnf) }
    if !outcomes.addValue then ((dpDelVnf added ulAddr6).1, false)
    else
      ({ added with
         value := Function.update vnfs.value vnf (some ulAddr6) },
        true)

def dpVnfLbprefixExists (vnfs : VnfTables) (portId : PortId) (vni : Vni) (prefixIp : IpAddress)
    (prefixLen : UInt8) : Bool :=
  (vnfs.value ⟨.lbAliasPfx, vni, portId, ⟨prefixIp, prefixLen⟩⟩).isSome

/-! ## The tables of the service -/

/-- What `cls` and the tunnel nodes read.  It changes only between two walks
of the graph. -/
structure Tables where
  conf : DpConf
  ports : PortTable
  vnfs : VnfTables
  ifaceIds : IfaceId → Option PortId
  pf0 : PortId
  pf1 : PortId

def Tables.endpoint (tables : Tables) (ulAddr6 : Ipv6) : Option (Vnf × Port) :=
  match dpGetVnf tables.vnfs ulAddr6 with
  | none => none
  | some vnf =>
    match dpGetPortById tables.ports vnf.portId with
    | none => none
    | some port => some (vnf, port)

def resolvedFlow (df : DpFlow) (vnf : Vnf) : DpFlow :=
  { df with
    tunInfo := { df.tunInfo with dstVni := vnf.vni }
    vnfType := vnf.type
    nxtHop := vnf.portId
    tunDstResolved := true }

def dpVnfResolveTunnelDst (tables : Tables) (m : Mbuf) : Mbuf × Option Port :=
  if m.df.tunDstResolved then (m, dpGetPortById tables.ports m.df.nxtHop)
  else
    match tables.endpoint m.df.tunInfo.ulDstAddr6 with
    | none => (m, none)
    | some (vnf, port) => ({ m with df := resolvedFlow m.df vnf }, some port)

theorem portId_of_endpoint {tables : Tables} {ulAddr6 : Ipv6} {vnf : Vnf} {port : Port}
    (found : tables.endpoint ulAddr6 = some (vnf, port)) :
    dpGetVnf tables.vnfs ulAddr6 = some vnf ∧
      dpGetPortById tables.ports vnf.portId = some port := by
  unfold Tables.endpoint at found
  split at found
  · cases found
  rename_i held
  split at found
  · cases found
  rename_i registered
  cases found
  exact ⟨held, registered⟩

/-! ## The graph -/

inductive Node where
  | drop
  | cls
  | arp
  | ipv6Nd
  | ipsecDecap
  | ipipDecap
  | conntrack
  | dhcp
  | dhcpv6
  | lb
  | dnat
  | ipv4Lookup
  | ipv6Lookup
  | snat
  | firewall
  | packetRelay
  | ipipEncap
  | ipsecEncap
  | tx (port : PortId)
  deriving DecidableEq, Repr

/-- An entry of a `next_tx_index` that `dp_node_append_pf_tx` fills.  An index
that was never filled is zero, which is every node's edge to `drop`. -/
def Tables.nextPfTx (tables : Tables) (id : PortId) : Node :=
  match dpGetPortById tables.ports id with
  | some port => if port.isPf then .tx id else .drop
  | none => .drop

/-- An entry of a `next_tx_index` that `dp_node_append_vf_tx` fills. -/
def Tables.nextVfTx (tables : Tables) (id : PortId) : Node :=
  match dpGetPortById tables.ports id with
  | some port => if port.isPf then .drop else .tx id
  | none => .drop

/-- `next_ipsec_index` of `ipip_encap`, which is only connected with the IPsec
capability. -/
def Tables.nextIpsec (tables : Tables) (id : PortId) : Node :=
  match dpGetPortById tables.ports id with
  | some port =>
    if port.isPf && tables.conf.ipsecEnabled then .ipsecEncap else .drop
  | none => .drop

end DpService.Dataplane

import DpService.Nodes.Snat

/-!
# Forwarding

The nodes that choose where a packet leaves: `ipv4_lookup` and `ipv6_lookup`,
`firewall`, `packet_relay`, `tx`, and the nodes that answer a guest.
-/

namespace DpService.Nodes

open Foundations Packet Dataplane Flow

/-- The common part of the two lookups.  `strayVni` is what `route.vni` holds
when the route was not copied, and `viaPf` the PF that a route to a PF takes. -/
def forwardRouted (env : NodeEnv) (strayVni : Vni) (etherType : UInt16) (viaPf : Port → Port)
    (found : Option (Port × RibNode)) (m : Mbuf) : Mbuf × Node :=
  match found with
  | none => (m, .drop)
  | some (outPort, node) =>
    let inPort := dpGetInPort env.tables.ports m
    let df := { m.df with flowType := if node.depth = 0 then .southNorth else .westEast }
    if outPort.isPf then
      if inPort.isPf then (m, .drop)
      else
        ({ m with
           df :=
             { df with
               tunInfo := { df.tunInfo with ulDstAddr6 := node.nhIpv6, dstVni := node.vni }
               nxtHop := (viaPf outPort).portId } },
          .snat)
    else
      let dstVni := if inPort.isPf then df.tunInfo.dstVni else strayVni
      ({ m with
         frame := m.frame.write 0 (dpFillEtherHdr outPort etherType)
         df :=
           { df with
             tunInfo := { df.tunInfo with dstVni }
             nxtHop := outPort.portId } },
        .snat)

def ipv4Lookup (env : NodeEnv) (strayVni : Vni) (m : Mbuf) : Mbuf × Node :=
  forwardRouted env strayVni etherTypeIpv4 (fun _ => dpMultipathGetPf env.tables m.df.dpFlowHash)
    (dpGetIp4OutPort env.tables env.network (dpGetInPort env.tables.ports m)
      m.df.tunInfo.dstVni m.df)
    m

def ipv6Lookup (env : NodeEnv) (strayVni : Vni) (m : Mbuf) : Mbuf × Node :=
  let inPort := dpGetInPort env.tables.ports m
  forwardRouted env strayVni etherTypeIpv6 id
    (dpGetIp6OutPort env.tables env.network inPort
      (if inPort.isPf then m.df.tunInfo.dstVni else 0) m.df)
    m

/-- The first packet of a flow fixes the action for both directions. -/
def FlowValue.setFirewall (value : FlowValue) (action : FwallAction) :
    FlowValue :=
  { value with
    fwallOrg := action
    fwallReply := action
    flowFlags := { value.flowFlags with firewall := true } }

/-- The action is noted, but no packet is dropped for it. -/
def firewall (env : NodeEnv) (store : FlowStore) (m : Mbuf) : Option Visit :=
  m.df.conntrack.map fun f =>
    let outPort := dpGetOutPort env.tables.ports m.df
    let action := env.network.firewallAction m.df (dpGetInPort env.tables.ports m) outPort
    { flows :=
        if !(store.value f).flowFlags.firewall && m.df.flowDir = .org then
          store.modify f fun value => FlowValue.setFirewall value action
        else store
      m
      next :=
        if outPort.isPf then .ipipEncap
        else env.tables.nextVfTx outPort.portId }

/-! ## `packet_relay` -/

def sentBack (m : Mbuf) : DpFlow :=
  { m.df with
    nxtHop := m.port
    tunInfo := { m.df.tunInfo with ulDstAddr6 := m.df.tunInfo.ulSrcAddr6 } }

def lbNnatIcmpReply (env : NodeEnv) (m : Mbuf) : Mbuf × Node :=
  if m.frame.byteAt l4Of4 ≠ icmpEchoRequest then (m, .drop)
  else
    let typed := m.frame.setByte l4Of4 icmpEchoReply
    let cksum :=
      onesComplement (le16At typed (l4Of4 + 2)) +
        onesComplement icmpEchoRequest.toNat + icmpEchoReply.toNat
    let summed := writeLe16 typed (l4Of4 + 2) (onesComplement (foldCarries cksum))
    let swapped := setIpv4Src (setIpv4Dst summed (ipv4Src summed)) (ipv4Dst summed)
    ({ m with
       df := sentBack m
       frame := dpNatChgIp env.tables.conf env.dpdk m.df swapped },
      .ipipEncap)

def lbNnatIcmpv6Reply (env : NodeEnv) (m : Mbuf) : Mbuf × Node :=
  if m.frame.byteAt l4Of6 ≠ icmpv6EchoRequest then (m, .drop)
  else
    let cleared := (m.frame.setByte l4Of6 icmpv6EchoReply).writeBe16 (l4Of6 + 2) 0
    let summed := cleared.writeBe16 (l4Of6 + 2) (env.dpdk.ipv6UdptcpCksum cleared)
    ({ m with
       df := sentBack m
       frame := (summed.write 38 (ipv6Src summed).toBytes).write 22 (ipv6Dst summed).toBytes },
      .ipipEncap)

def relayedToNeighbour (m : Mbuf) (underlayDst : Ipv6) : Mbuf :=
  { m with
    df :=
      { m.df with
        nxtHop := m.port
        tunInfo :=
          { m.df.tunInfo with
            ulSrcAddr6 := m.df.tunInfo.ulDstAddr6
            ulDstAddr6 := underlayDst } } }

def packetRelay (env : NodeEnv) (store : FlowStore) (m : Mbuf) : Option (Mbuf × Node) :=
  m.df.conntrack.map fun f =>
    let nfInfo := (store.value f).nfInfo
    if nfInfo.natType = .networkNeigh then (relayedToNeighbour m nfInfo.underlayDst, .ipipEncap)
    else if m.df.l4Type = ipprotoIcmp then lbNnatIcmpReply env m
    else if m.df.l4Type = ipprotoIcmpv6 then lbNnatIcmpv6Reply env m
    else (m, .drop)

/-- A flow that no node has decided about is a default flow from now on. -/
def FlowValue.markDefault (value : FlowValue) : FlowValue :=
  if value.flowFlags.hasFlagNf then value
  else { value with flowFlags := { value.flowFlags with default := true } }

/-- `dp_offload_handler` has installed hardware rules, which hold a reference
each. -/
def FlowValue.addRules (value : FlowValue) (count : Nat) : FlowValue :=
  { value with
    rules := value.rules + count
    refCount := value.refCount + count }

/-- The flows after a packet was sent, for which `rules` hardware rules were
installed if offloading is enabled at all. -/
def tx (conf : DpConf) (rules : Nat) (store : FlowStore) (m : Mbuf) :
    FlowStore :=
  match m.df.conntrack with
  | none => store
  | some f =>
    store.modify f fun value =>
      FlowValue.addRules (FlowValue.markDefault value) (if conf.offloadEnabled then rules else 0)

/-- What `arp`, `ipv6_nd`, `dhcp` or `dhcpv6` makes of a packet: the answer, if
there is one, and the neighbour's address, if it is learned. -/
structure ServiceOutcome where
  answer : Option Frame
  neighMac : Option MacAddr

def dpL2AddrSet (ports : PortTable) (id : PortId) (mac : MacAddr) : PortTable :=
  match dpGetPortById ports id with
  | none => ports
  | some port => ports.update { port with neighMac := mac }

/-- The answer can only leave through the VF that the packet came from. -/
def service (tables : Tables) (outcome : ServiceOutcome) (m : Mbuf) : Tables × Mbuf × Node :=
  let learned :=
    match outcome.neighMac with
    | none => tables
    | some mac => { tables with ports := dpL2AddrSet tables.ports m.port mac }
  match outcome.answer with
  | none => (learned, m, .drop)
  | some frame => (learned, { m with frame }, tables.nextVfTx m.port)

end DpService.Nodes

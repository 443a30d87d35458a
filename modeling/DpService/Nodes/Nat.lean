import DpService.Nodes.Conntrack

/-!
# Load balancing and NAT

The nodes `lb`, `dnat` and `snat`.  A flow without flags is one that no node
has decided about yet: the first packet in its original direction makes them
choose, and what they have chosen is kept in the flow for the packets that
follow.

The nodes assert that a packet has a flow.  Where the assertion fails, and
where a rewrite runs out of the packet's buffer, there is no result.
-/

namespace DpService.Nodes

open Foundations Packet Dataplane Flow

structure Visit where
  flows : FlowStore
  m : Mbuf
  next : Node

def isIcmp (df : DpFlow) : Bool :=
  df.l4Type == ipprotoIcmp || df.l4Type == ipprotoIcmpv6

def isEchoRequest (df : DpFlow) : Bool :=
  df.l4Info.icmpType == icmpEchoRequest || df.l4Info.icmpType == icmpv6EchoRequest

def setNatType (m : Mbuf) (natType : NatType) : Mbuf :=
  { m with df := { m.df with natType } }

/-- The VNI of a packet: the one of its tunnel, or else of its interface. -/
def packetVni (env : NodeEnv) (m : Mbuf) : Vni :=
  routedVni (dpGetInPort env.tables.ports m) m.df.tunInfo.dstVni

/-! ## `lb` -/

def dpLbSetNextHop (vnfs : VnfTables) (df : DpFlow) (portId : PortId) :
    DpFlow :=
  if (dpGetVnf vnfs df.tunInfo.ulDstAddr6).any
      fun vnf => vnf.type = .lbAliasPfx then
    { df with natType := .lbRecirc }
  else { df with nxtHop := portId, natType := .chgUlDstIp }

/-- The packet on its way to a target.  The source address keeps the old
destination. -/
def lbTowards (tables : Tables) (m : Mbuf) (target : Ipv6) : Mbuf :=
  { m with
    df :=
      dpLbSetNextHop tables.vnfs
        { m.df with
          tunInfo :=
            { m.df.tunInfo with
              ulSrcAddr6 := m.df.tunInfo.ulDstAddr6
              ulDstAddr6 := target } }
        m.port }

def lbFlow (target : Ipv6) (natType : NatType) (value : FlowValue) : FlowValue :=
  { value with
    nfInfo :=
      { value.nfInfo with
        underlayDst := target
        natType := if natType = .lbRecirc then .lbRecirc else .lbForward }
    flowFlags := { value.flowFlags with dstLb := true } }

def lbNewFlow (env : NodeEnv) (store : FlowStore) (f : Handle) (m : Mbuf) : Visit :=
  if isIcmp m.df && isEchoRequest m.df then ⟨store, setNatType m .chgUlDstIp, .packetRelay⟩
  -- errors have the key of the flow that they are about
  else if isIcmp m.df && m.df.l4Info.icmpType != icmpTypeError then ⟨store, m, .drop⟩
  else
    match
      dpLbGetBackendIp env.network (store.value f).org (packetVni env m) with
    | none => ⟨store, m, .drop⟩
    | some target =>
      let m := lbTowards env.tables m target
      ⟨store.modify f (lbFlow target m.df.natType), m, .ipipEncap⟩

def lb (env : NodeEnv) (store : FlowStore) (m : Mbuf) : Option Visit :=
  if !env.network.lbEnabled then some ⟨store, m, .dnat⟩
  else
    m.df.conntrack.map fun f =>
      let value := store.value f
      if value.flowFlags.hasNoFlags && m.df.flowDir = .org &&
          dpIsIpLb env.network m.df (packetVni env m) then
        lbNewFlow env store f m
      else if value.flowFlags.dstLb && m.df.flowDir = .org then
        ⟨store, lbTowards env.tables m value.nfInfo.underlayDst, .ipipEncap⟩
      else if value.flowFlags.default && isIcmp m.df then
        ⟨store, setNatType m .chgUlDstIp, .packetRelay⟩
      else ⟨store, m, .dnat⟩

/-! ## `dnat` -/

/-- The packet with a new destination address, `frame` being its bytes with
everything else that is exchanged. -/
def changeDstIp (env : NodeEnv) (m : Mbuf) (frame : Frame) (address : Ipv4) : Mbuf :=
  let df :=
    { m.df with
      natType := .chgDstIp
      natAddr := m.df.dst.addr
      dst := m.df.dst.setAddr address }
  { m with df, frame := dpNatChgIp env.tables.conf env.dpdk df frame }

def neighnatFlow (df : DpFlow) (underlayDst : Ipv6) (value : FlowValue) :
    FlowValue :=
  { value with
    nfInfo := { value.nfInfo with natType := .networkNeigh, l4Type := df.l4Type, underlayDst }
    flowFlags := { value.flowFlags with dstNatFwd := true } }

def FlowValue.raiseDstNat (value : FlowValue) : FlowValue :=
  { value with flowFlags := { value.flowFlags with dstNat := true } }

/-- The destination is a NAT address without a local flow. -/
def dnatNetworkNat (env : NodeEnv) (store : FlowStore) (f : Handle) (m : Mbuf) : Visit :=
  if m.df.l4Type = ipprotoIcmp ∧ m.df.l4Info.icmpType = icmpEchoRequest then
    ⟨store.modify f fun value => value.setNatType .asTarget, m, .packetRelay⟩
  else
    match dpLookupNeighnatUnderlayIp env.network m.df with
    | none => ⟨store, m, .drop⟩
    | some underlayDst =>
      ⟨store.modify f (neighnatFlow m.df underlayDst), setNatType m .chgUlDstIp, .packetRelay⟩

def dnatVip (env : NodeEnv) (rekeyed : Bool) (store : FlowStore) (f : Handle)
    (m : Mbuf) (dnatIp : Ipv4) : Visit :=
  let m := changeDstIp env m (setIpv4Dst m.frame dnatIp) dnatIp
  match
    replaceReplyKey rekeyed (store.modify f FlowValue.raiseDstNat) f
      fun reply => { reply with l3Src := .v4 (ipv4Dst m.frame) } with
  | (store, false) => ⟨store, m, .drop⟩
  | (store, true) => ⟨store, m, .ipv4Lookup⟩

def dnatNewFlow (env : NodeEnv) (rekeyed : Bool) (store : FlowStore) (f : Handle)
    (m : Mbuf) : Visit :=
  match dpGetDnatData env.network m.df.dst.addr (packetVni env m) with
  | none => ⟨store, m, .ipv4Lookup⟩
  | some dnatIp =>
    if dnatIp = 0 then dnatNetworkNat env store f m
    else dnatVip env rekeyed store f m dnatIp

def ipv4Of : IpAddress → Option Ipv4
  | .v4 address => some address
  | .v6 _ => none

def ipv6Of : IpAddress → Option Ipv6
  | .v4 _ => none
  | .v6 address => some address

def dnatForward (env : NodeEnv) (value : FlowValue) (m : Mbuf) : Option Mbuf :=
  if value.flowFlags.dstNat && m.df.flowDir = .org then
    (ipv4Of value.reply.l3Src).map fun address =>
      changeDstIp env m (setIpv4Dst m.frame address) address
  else some m

def restoreSource (value : FlowValue) (df : DpFlow) (frame : Frame) (address : Ipv4) :
    Option Frame :=
  if value.nfInfo.natType ≠ .networkLocal then some frame
  else if df.l4Type = ipprotoIcmp then
    if df.l4Info.icmpType = icmpEchoReply then some (dpChangeIcmpIdentifier frame value.org.portDst)
    else if df.l4Info.icmpType = icmpTypeError then
      if (dpGetIcmpErrIpHdr df frame).usable then
        some (restoreQuotedHeader frame address value.nfInfo.icmpErrIpCksum value.org.src)
      else none
    else some frame
  else some (dpChangeL4HdrDstPort frame value.org.src)

def dnatAnswer (env : NodeEnv) (value : FlowValue) (m : Mbuf) : Option Mbuf :=
  if value.flowFlags.srcNat && m.df.flowDir = .reply then
    (ipv4Of value.org.l3Src).bind fun address =>
      (restoreSource value m.df (setIpv4Dst m.frame address) address).map
        fun frame => changeDstIp env m frame address
  else some m

def restoreSource64 (value : FlowValue) (df : DpFlow) (frame : Frame) : Frame :=
  if value.nfInfo.natType ≠ .networkLocal then frame
  else if df.l4Type = ipprotoIcmp then
    if df.l4Info.icmpType = icmpEchoReply then dpChangeIcmpIdentifier frame value.org.portDst
    else frame
  else dpChangeL4HdrDstPort frame value.org.src

def dnatAnswer64 (env : NodeEnv) (value : FlowValue) (m : Mbuf) : Option Mbuf :=
  let df := { m.df with natType := .nat64ChgDstIp, natAddr := m.df.dst.addr }
  match ipv6Of value.org.l3Src with
  | none => none
  | some address =>
    match
      dpNatChgIpv4ToIpv6Hdr env.dpdk df (restoreSource64 value df m.frame) address with
    | (_, _, false) => none
    | (df, frame, true) => some { m with df, frame }

def lookupNode (l3Type : UInt16) : Node :=
  if l3Type = etherTypeIpv4 then .ipv4Lookup
  else if l3Type = etherTypeIpv6 then .ipv6Lookup
  else .drop

def dnatRewritten (env : NodeEnv) (value : FlowValue) (m : Mbuf) : Mbuf × Node :=
  if value.flowFlags.srcNat64 && m.df.flowDir = .reply then
    match dnatAnswer64 env value m with
    | none => (m, .drop)
    | some m => (m, .ipv6Lookup)
  else (m, lookupNode m.df.l3Type)

def dnatKnownFlow (env : NodeEnv) (value : FlowValue) (m : Mbuf) : Mbuf × Node :=
  if value.flowFlags.dstNatFwd then (setNatType m .chgUlDstIp, .packetRelay)
  else if value.flowFlags.default && value.nfInfo.natType = .asTarget &&
      isIcmp m.df && isEchoRequest m.df then
    (m, .packetRelay)
  else
    match (dnatForward env value m).bind (dnatAnswer env value) with
    | none => (m, .drop)
    | some m => dnatRewritten env value m

def dnat (env : NodeEnv) (rekeyed : Bool) (store : FlowStore) (m : Mbuf) : Option Visit :=
  m.df.conntrack.map fun f =>
    let value := store.value f
    if value.flowFlags.hasNoFlags && m.df.flowDir = .org &&
        m.df.l3Type = etherTypeIpv4 then
      dnatNewFlow env rekeyed store f m
    else
      match dnatKnownFlow env value m with
      | (m, next) => ⟨store, m, next⟩

end DpService.Nodes

import DpService.Nodes.Rewrite

/-!
# Connection tracking

The node `conntrack`: a packet's headers are read, its flow is found in the
key cache or the flow table or is created, and the packet is sent on by where
it came from.
-/

namespace DpService.Nodes

open Foundations Packet Dataplane Flow

structure NodeEnv where
  tables : Tables
  network : Network
  dpdk : Dpdk

def dpExtractIpv4Header (df : DpFlow) (frame : Frame) : DpFlow :=
  { df with
    src := df.src.setAddr (ipv4Src frame)
    dst := df.dst.setAddr (ipv4Dst frame)
    l4Type := ipv4Proto frame }

def dpExtractIpv6Header (df : DpFlow) (frame : Frame) : DpFlow :=
  { df with
    src := ⟨ipv6Src frame⟩
    dst := ⟨ipv6Dst frame⟩
    l4Type := ipv6Proto frame }

def dpExtractL4Header (df : DpFlow) (frame : Frame) (l4 : Nat) : Option DpFlow :=
  if df.l4Type = ipprotoTcp ∨ df.l4Type = ipprotoUdp then
    some { df with l4Info := ⟨frame.be16At (l4 + 2), frame.be16At l4⟩ }
  else if df.l4Type = ipprotoIcmp ∨ df.l4Type = ipprotoIcmpv6 then
    some { df with l4Info := ⟨frame.be16At l4, frame.be16At (l4 + 4)⟩ }
  else none

/-! ## The key of a packet -/

-- an IPv6 packet of a guest leaves what the buffer held before, unless it is
-- translated by NAT64
def dpMarkVnfType (env : NodeEnv) (df : DpFlow) (port : Port) (key : FlowKey) : VnfType :=
  if port.isPf then
    if df.vnfType = .nat ∨ df.vnfType = .lbAliasPfx then df.vnfType
    else .undefined
  else
    match key.l3Dst, key.l3Src with
    | .v6 dst, _ => if dpIsIpv6Nat64 dst then .nat else key.vnfType
    | .v4 _, .v6 _ => key.vnfType
    | .v4 _, .v4 src =>
      if (dpGetIfaceSnatData env.network src key.vni).any
          fun data => data.natIp != 0 then
        .nat
      else if dpVnfLbprefixExists env.tables.vnfs port.portId key.vni (.v4 src) 32 then .lbAliasPfx
      else .undefined

/-- `DP_IP_ICMP_CODE_DST_PROTO_UNREACHABLE`, `_DST_PORT_UNREACHABLE` and
`_FRAGMENT_NEEDED` -/
def icmpErrorCodes : List UInt8 :=
  [2, 3, 4]

/-- The flag tells success. -/
def dpBuildIcmpFlowKey (df : DpFlow) (key : FlowKey) (frame : Frame) : FlowKey × Bool :=
  if df.l4Info.icmpType = icmpEchoReply ∨
      df.l4Info.icmpType = icmpEchoRequest then
    ({ key with
       portDst := df.l4Info.icmpIdentifier
       src := df.l4Info.icmpType.toUInt16 },
      true)
  else if df.l4Info.icmpType = icmpTypeError ∧ df.l4Info.icmpCode ∈ icmpErrorCodes then
    let info := dpGetIcmpErrIpHdr df frame
    if info.usable then
      -- an error belongs to the flow of the packet that it quotes
      ({ key with
         l3Dst := .v4 (errSrc frame)
         l3Src := .v4 (errDst frame)
         proto := errProto frame
         portDst := info.l4SrcPort
         src := info.l4DstPort },
        true)
    else (key, false)
  else (key, false)

def keyAddresses (df : DpFlow) : Option (IpAddress × IpAddress) :=
  if df.l3Type = etherTypeIpv4 then some (.v4 df.dst.addr, .v4 df.src.addr)
  else if df.l3Type = etherTypeIpv6 then some (.v6 df.dst.addr6, .v6 df.src.addr6)
  else none

/-- The ports, or the identifier and type of an ICMP message. -/
def buildKeyPorts (df : DpFlow) (key : FlowKey) (frame : Frame) : FlowKey × Bool :=
  if df.l4Type = ipprotoTcp ∨ df.l4Type = ipprotoUdp then
    ({ key with portDst := df.l4Info.dstPort, src := df.l4Info.srcPort }, true)
  else if df.l4Type = ipprotoIcmp then dpBuildIcmpFlowKey df key frame
  else if df.l4Type = ipprotoIcmpv6 then
    ({ key with
       portDst := df.l4Info.icmpIdentifier
       src := df.l4Info.icmpType.toUInt16 },
      true)
  else (key, false)

/-- The key of a packet, built in a buffer that holds an older key. -/
def dpBuildFlowKey (env : NodeEnv) (buffer : FlowKey) (m : Mbuf) : FlowKey × Bool :=
  match keyAddresses m.df with
  | none => (buffer, false)
  | some (l3Dst, l3Src) =>
    let port := dpGetInPort env.tables.ports m
    let key :=
      { buffer with
        l3Dst
        l3Src
        proto := m.df.l4Type
        vni := if port.isPf then m.df.tunInfo.dstVni else port.iface.vni }
    buildKeyPorts m.df
      { key with vnfType := dpMarkVnfType env m.df port key } m.frame

def tcpFin : UInt8 := 0x01
def tcpSyn : UInt8 := 0x02
def tcpRst : UInt8 := 0x04
def tcpAck : UInt8 := 0x10

def dpCntrackTcpState (value : FlowValue) (dir : FlowDir) (flags : UInt8) :
    FlowValue :=
  if flags &&& tcpRst ≠ 0 then { value with tcpState := .rstFin }
  else if flags &&& tcpFin ≠ 0 then
    { value with
      tcpState :=
        if value.tcpState = .established then .finwait else .rstFin }
  else
    match value.tcpState with
    | .none | .rstFin =>
      if flags = tcpSyn then { value with tcpState := .newSyn, firstSynFlowDir := dir }
      else value
    | .newSyn =>
      if flags = tcpSyn ||| tcpAck ∧ dir ≠ value.firstSynFlowDir then
        { value with tcpState := .newSynack }
      else value
    | .newSynack =>
      if flags = tcpAck ∧ dir = value.firstSynFlowDir then { value with tcpState := .established }
      else value
    | .established | .finwait => value

def dpCntrackSetTimeoutTcpFlow (value : FlowValue) : FlowValue :=
  { value with
    timeoutValue :=
      if value.tcpState = .established then dpFlowTcpExtendedTimeout
      else dpFlowDefaultTimeout }

/-! ## The flow of a packet -/

def dpSetPktFlowDirection (dpdk : Dpdk) (key : FlowKey) (value : FlowValue) (df : DpFlow) :
    DpFlow :=
  { df with
    flowDir :=
      if key = value.org then .org
      else if key = value.reply then .reply
      else df.flowDir
    dpFlowHash := dpdk.flowHash key }

def newFlowNatType (env : NodeEnv) (port : Port) (key : FlowKey) :
    FlowNatType :=
  if env.tables.conf.offloadEnabled && !port.isPf &&
      (match key.l3Dst with
      | .v6 _ => false
      -- the code searches with the identifier of no port
      | .v4 _ => dpVnfLbprefixExists env.tables.vnfs 0xffff key.vni key.l3Dst 32)
  then .lbLocalNeighTraffic
  else .none

/-- What the clock and the allocations do in one visit of the node. -/
structure ConntrackOutcomes where
  clock : UInt64
  insert : InsertOutcomes
  deriving DecidableEq, Repr

def dpGetFlowVal (env : NodeEnv) (outcomes : ConntrackOutcomes) (store : FlowStore)
    (m : Mbuf) : FlowStore × DpFlow × Option Handle :=
  match dpBuildFlowKey env store.cache.curr m with
  | (key, ok) =>
    let store := { store with cache := { store.cache with curr := key } }
    if !ok then (store, m.df, none)
    else
      match
        store.cache.cached.filter fun _ => key = store.cache.other, store.table.lookup key with
      | some f, _ => (store, dpSetPktFlowDirection env.dpdk key (store.value f) m.df, some f)
      | none, some f =>
        (dpCacheFlowVal store f, dpSetPktFlowDirection env.dpdk key (store.value f) m.df, some f)
      | none, none =>
        let port := dpGetInPort env.tables.ports m
        match
          flowTableInsertEntry outcomes.insert store key
            (newFlowNatType env port key) port.portId with
        | (store, none) => (store, m.df, none)
        | (store, some f) =>
          (dpCacheFlowVal store f,
            { m.df with
              flowDir := .org, dpFlowHash := env.dpdk.flowHash key },
            some f)

def tcpFlags (df : DpFlow) (frame : Frame) : UInt8 :=
  if df.l3Type = etherTypeIpv4 then frame.byteAt (l4Of4 + 13)
  else frame.byteAt (l4Of6 + 13)

def touchedFlow (clock : UInt64) (df : DpFlow) (frame : Frame) (value : FlowValue) :
    FlowValue :=
  let value := { value with timestamp := clock }
  if df.l4Type = ipprotoTcp ∧ df.vnfType ≠ .lb then
    dpCntrackSetTimeoutTcpFlow (dpCntrackTcpState value df.flowDir (tcpFlags df frame))
  else value

def dpCntrackHandle (env : NodeEnv) (outcomes : ConntrackOutcomes) (store : FlowStore)
    (m : Mbuf) : FlowStore × Mbuf × Bool :=
  match dpGetFlowVal env outcomes store m with
  | (store, df, none) => (store, { m with df }, false)
  | (store, df, some f) =>
    let touched := store.modify f (touchedFlow outcomes.clock df m.frame)
    let natType := (touched.value f).nfInfo.natType
    -- neighbour NAT and forwarded flows have no replies
    if (natType = .networkNeigh ∨ natType = .lbForward) ∧
        df.flowDir = .reply then
      (touched, { m with df }, false)
    else (touched, { m with df := { df with conntrack := some f } }, true)

/-! ## The node -/

def dpBootpSrvPort : UInt16 := 67
def dhcpv6ServerPort : UInt16 := 547

/-- The packet with its headers read, or the edge it leaves on at once. -/
def extractHeaders (m : Mbuf) : Mbuf × Option Node :=
  if m.df.l3Type = etherTypeIpv4 then
    let df := dpExtractIpv4Header m.df m.frame
    match dpExtractL4Header df m.frame l4Of4 with
    | none => ({ m with df }, some .drop)
    | some df =>
      ({ m with df },
        if df.l4Type = ipprotoUdp ∧ df.l4Info.dstPort = dpBootpSrvPort then some .dhcp
        else none)
  else if m.df.l3Type = etherTypeIpv6 then
    let df := dpExtractIpv6Header m.df m.frame
    match dpExtractL4Header df m.frame l4Of6 with
    | none => ({ m with df }, some .drop)
    | some df =>
      ({ m with df },
        if df.l4Type = ipprotoUdp ∧
            df.l4Info.dstPort = dhcpv6ServerPort then
          some .dhcpv6
        else none)
  else (m, none)

theorem dpExtractL4Header_eq {df read : DpFlow} {frame : Frame} {l4 : Nat}
    (result : dpExtractL4Header df frame l4 = some read) :
    ∃ l4Info, read = { df with l4Info } := by
  unfold dpExtractL4Header at result
  split at result
  · exact ⟨_, (Option.some_inj.mp result).symm⟩
  split at result
  · exact ⟨_, (Option.some_inj.mp result).symm⟩
  cases result

theorem extractHeaders_eq (m : Mbuf) :
    ∃ src dst l4Type l4Info,
      (extractHeaders m).1 = { m with df := { m.df with src, dst, l4Type, l4Info } } ∧
      (m.df.l3Type = etherTypeIpv6 → dst.addr6 = ipv6Dst m.frame) ∧
      ∀ next, (extractHeaders m).2 = some next →
        next = .drop ∨ next = .dhcp ∨ next = .dhcpv6 := by
  have distinct : etherTypeIpv4 ≠ etherTypeIpv6 := by decide
  unfold extractHeaders dpExtractIpv4Header dpExtractIpv6Header
  split
  · rename_i ipv4
    have notIpv6 : m.df.l3Type ≠ etherTypeIpv6 := ipv4 ▸ distinct
    dsimp only
    split
    · exact ⟨_, _, _, _, rfl, fun ipv6 => absurd ipv6 notIpv6, by grind⟩
    rename_i read
    obtain ⟨l4Info, rfl⟩ := dpExtractL4Header_eq read
    exact ⟨_, _, _, _, rfl, fun ipv6 => absurd ipv6 notIpv6, by grind⟩
  split
  · dsimp only
    split
    · exact ⟨_, ⟨_⟩, _, _, rfl, fun _ => rfl, by grind⟩
    rename_i read
    obtain ⟨l4Info, rfl⟩ := dpExtractL4Header_eq read
    exact ⟨_, ⟨_⟩, _, _, rfl, fun _ => rfl, by grind⟩
  · exact ⟨_, _, _, _, rfl, fun ipv6 => by contradiction, by simp⟩

theorem extractHeaders_conntrack (m : Mbuf) :
    (extractHeaders m).1.df.conntrack = m.df.conntrack := by
  obtain ⟨_, _, _, _, same, _⟩ := extractHeaders_eq m
  rw [same]

theorem extractHeaders_next (m : Mbuf) :
    ∀ next, (extractHeaders m).2 = some next →
      next = .drop ∨ next = .dhcp ∨ next = .dhcpv6 := by
  obtain ⟨_, _, _, _, _, _, next⟩ := extractHeaders_eq m
  exact next

def conntrackNext (tables : Tables) (m : Mbuf) : Node :=
  if (dpGetInPort tables.ports m).isPf then
    match m.df.vnfType with
    | .lb => .lb
    | .vip | .nat => .dnat
    | .lbAliasPfx | .interfaceIp | .aliasPfx => .firewall
    | .undefined => .drop
  else .dnat

def trackedProtos : List UInt8 :=
  [ipprotoTcp, ipprotoUdp, ipprotoIcmp, ipprotoIcmpv6]

def conntrack (env : NodeEnv) (outcomes : ConntrackOutcomes) (store : FlowStore)
    (m : Mbuf) : FlowStore × Mbuf × Node :=
  match extractHeaders m with
  | (m, some next) => (store, m, next)
  | (m, none) =>
    if m.df.l4Type ∈ trackedProtos then
      match dpCntrackHandle env outcomes store m with
      | (store, m, false) => (store, m, .drop)
      | (store, m, true) => (store, m, conntrackNext env.tables m)
    else (store, m, .drop)

theorem conntrack_cases (env : NodeEnv) (outcomes : ConntrackOutcomes) (store : FlowStore)
    (m : Mbuf) :
    (∃ next, (next = .drop ∨ next = .dhcp ∨ next = .dhcpv6) ∧
      conntrack env outcomes store m = (store, (extractHeaders m).1, next)) ∨
    ∃ after packet ok,
      dpCntrackHandle env outcomes store (extractHeaders m).1 = (after, packet, ok) ∧
      conntrack env outcomes store m =
        (after, packet, if ok then conntrackNext env.tables packet else .drop) := by
  have early := extractHeaders_next m
  unfold conntrack
  split
  · rename_i packet next result
    rw [result] at early ⊢
    exact Or.inl ⟨next, early next rfl, rfl⟩
  rename_i packet result
  rw [result]
  split
  · split
    · rename_i handled
      exact Or.inr ⟨_, _, false, handled, rfl⟩
    · rename_i handled
      exact Or.inr ⟨_, _, true, handled, rfl⟩
  · exact Or.inl ⟨.drop, Or.inl rfl, rfl⟩

end DpService.Nodes

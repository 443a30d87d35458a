import DpService.Nodes.Nat

/-!
# Source NAT

The node `snat`, which gives a flow to the outside its VIP or one of the ports
of its NAT address, for IPv4 and for IPv6 through NAT64.
-/

namespace DpService.Nodes

open Foundations Packet Dataplane Flow

structure SnatOutcomes where
  ports : PortOutcomes
  rekeyed : Bool
  deriving DecidableEq, Repr

def swapBytes (address : Ipv4) : Ipv4 :=
  (beNat (beBytes 4 address.toNat).reverse).toUInt32

def FlowValue.natLocally (value : FlowValue) (vni : Vni) (l4Type : UInt8) (hdrChecksum : UInt16) :
    FlowValue :=
  { value with
    nfInfo :=
      { value.nfInfo with
        natType := .networkLocal
        vni
        l4Type
        icmpErrIpCksum := hdrChecksum } }

def FlowValue.raiseSrcNat (value : FlowValue) : FlowValue :=
  { value with flowFlags := { value.flowFlags with srcNat := true } }

def FlowValue.raiseSrcNat64 (value : FlowValue) : FlowValue :=
  { value with flowFlags := { value.flowFlags with srcNat64 := true } }

/-- The port goes into the header, or the identifier of an ICMP message. -/
def changeSource (df : DpFlow) (frame : Frame) (natPort : UInt16) : Frame :=
  if df.l4Type = ipprotoIcmp then dpChangeIcmpIdentifier frame natPort
  else dpChangeL4HdrSrcPort frame natPort

/-- The packet with its new source address, which `frame` has already. -/
def changeSrcIp (env : NodeEnv) (m : Mbuf) (frame : Frame) : Mbuf :=
  let df := { m.df with natType := .chgSrcIp, natAddr := ipv4Src frame }
  { m with df, frame := dpNatChgIp env.tables.conf env.dpdk df frame }

def setNatPort (m : Mbuf) (natPort : UInt16) : Mbuf :=
  { m with df := { m.df with natPort } }

def releasePort (store : FlowStore) (f : Handle) : FlowStore :=
  { store with ports := dpRemoveNetworkSnatPort (store.value f) store.ports }

/-! ## New flows -/

/-- The end of `dp_process_ipv4_snat`: the flow expects answers to the source
address that `m` now has. -/
def expectAnswers (rekeyed : Bool) (store : FlowStore) (f : Handle) (m : Mbuf)
    (natPort : Option UInt16) : FlowStore × Option Mbuf :=
  match
    replaceReplyKey rekeyed (store.modify f FlowValue.raiseSrcNat) f
      fun reply =>
        { reply with
          l3Dst := .v4 (ipv4Src m.frame)
          portDst := natPort.getD reply.portDst } with
  | (store, true) => (store, some m)
  | (store, false) => (if natPort.isSome then releasePort store f else store, none)

def vipFrame (data : SnatData) (frame : Frame) : Frame :=
  if data.vipIp ≠ 0 then setIpv4Src frame data.vipIp else frame

def vipFlow (data : SnatData) (store : FlowStore) (f : Handle) : FlowStore :=
  if data.vipIp ≠ 0 then store.modify f fun value => value.setNatType .vip
  else store

def dpProcessIpv4Snat (env : NodeEnv) (outcomes : SnatOutcomes) (store : FlowStore) (f : Handle)
    (m : Mbuf) (port : Port) (data : SnatData) : FlowStore × Option Mbuf :=
  let store := vipFlow data store f
  if data.natIp = 0 then
    expectAnswers outcomes.rekeyed store f (changeSrcIp env m (vipFrame data m.frame)) none
  else
    match
      dpAllocateNetworkSnatPort env.dpdk.portmapHash outcomes.ports
        ⟨data.natIp, data.natPortRange⟩ m.df port store.ports with
    | (ports, none) => ({ store with ports }, none)
    | (ports, some natPort) =>
      -- a VIP that was set is overwritten here
      let frame := changeSource m.df (setIpv4Src (vipFrame data m.frame) data.natIp) natPort
      let allocated : FlowStore := { store with ports }
      expectAnswers outcomes.rekeyed
        (allocated.modify f fun value =>
          FlowValue.natLocally value port.iface.vni m.df.l4Type (ipv4HdrChecksum frame))
        f (changeSrcIp env (setNatPort m natPort) frame) (some natPort)

/-- The packet after `dp_nat_chg_ipv6_to_ipv4_hdr`, if that succeeds. -/
def changedToIpv4 (df : DpFlow) (m : Mbuf) (natIp : Ipv4) : Option (Option Mbuf) :=
  match dpNatChgIpv6ToIpv4Hdr df m.frame natIp with
  | none => none
  | some (_, _, false) => some none
  | some (df, frame, true) => some (some { m with df, frame })

def setSource (m : Mbuf) (natPort : UInt16) : Mbuf :=
  { m with frame := changeSource m.df m.frame natPort }

/-- The end of `dp_process_ipv6_nat64`, for the packet as it leaves and the
destination it had.  The header pointer is from before the translation, so
what is kept for ICMP errors are two bytes of the Ethernet header. -/
def expectAnswers64 (rekeyed : Bool) (store : FlowStore) (f : Handle) (m : Mbuf) (vni : Vni)
    (dst natIp : Ipv4) (natPort : UInt16) : FlowStore × Option Mbuf :=
  match
    replaceReplyKey rekeyed
      (store.modify f fun value =>
        FlowValue.raiseSrcNat64 (FlowValue.natLocally value vni m.df.l4Type (m.frame.be16At 4)))
      f (nat64ReplyKey m.df.l4Type dst natIp natPort) with
  | (store, true) => (store, some m)
  | (store, false) => (releasePort store f, none)

def dpProcessIpv6Nat64 (env : NodeEnv) (outcomes : SnatOutcomes) (store : FlowStore) (f : Handle)
    (m : Mbuf) (port : Port) : Option (FlowStore × Option Mbuf) :=
  let natIp := port.iface.natIp
  match
    dpAllocateNetworkSnatPort env.dpdk.portmapHash outcomes.ports
      ⟨natIp, port.iface.natPortRange⟩ m.df port store.ports with
  | (ports, none) => some ({ store with ports }, none)
  | (ports, some natPort) =>
    let allocated : FlowStore := { store with ports }
    let df :=
      { m.df with
        natPort
        natType := .nat64ChgSrcIp
        natAddr := swapBytes natIp }
    (changedToIpv4 df m natIp).map fun changed =>
      match changed with
      | none => (releasePort allocated f, none)
      | some translated =>
        expectAnswers64 outcomes.rekeyed allocated f (setSource translated natPort) port.iface.vni
          (nat64DestIp m.frame) natIp natPort

/-! ## Known flows -/

def snatForward (env : NodeEnv) (value : FlowValue) (m : Mbuf) : Option Mbuf :=
  if value.flowFlags.srcNat && m.df.flowDir = .org then
    (ipv4Of value.reply.l3Dst).map fun address =>
      let frame := setIpv4Src m.frame address
      if value.nfInfo.natType = .networkLocal then
        changeSrcIp env (setNatPort m value.reply.portDst)
          (changeSource m.df frame value.reply.portDst)
      else
        changeSrcIp env m frame
  else some m

def snatAnswer (env : NodeEnv) (value : FlowValue) (m : Mbuf) : Option Mbuf :=
  if (value.flowFlags.dstNat || value.flowFlags.dstLb) &&
      m.df.flowDir = .reply then
    (ipv4Of value.org.l3Dst).map fun address =>
      changeSrcIp env
        { m with df := { m.df with src := m.df.src.setAddr (ipv4Src m.frame) } }
        (setIpv4Src m.frame address)
  else some m

def snatForward64 (port : Port) (value : FlowValue) (m : Mbuf) : Option (Option Mbuf) :=
  if value.flowFlags.srcNat64 && m.df.flowDir = .org then
    (changedToIpv4 m.df m port.iface.natIp).map fun changed =>
      changed.map fun m =>
        let sourced :=
          if value.nfInfo.natType = .networkLocal then
            setSource (setNatPort m value.reply.portDst) value.reply.portDst
          else m
        { sourced with
          df :=
            { sourced.df with
              natType := .nat64ChgSrcIp
              natAddr := swapBytes port.iface.natIp } }
  else some (some m)

def snatKnownFlow (env : NodeEnv) (port : Port) (value : FlowValue) (m : Mbuf) :
    Option (Mbuf × Node) :=
  match (snatForward env value m).bind (snatAnswer env value) with
  | none => some (m, .drop)
  | some rewritten =>
    (snatForward64 port value rewritten).map fun changed =>
      match changed with
      | none => (rewritten, .drop)
      | some m => (m, .firewall)

/-! ## The node -/

/-- The packet is subject to the rate of its interface. -/
def snatMetered (port : Port) (df : DpFlow) : Bool :=
  !port.isPf && port.iface.publicFlowRateCap != 0 && df.flowType = .southNorth &&
    (df.l3Type == etherTypeIpv4 || df.l3Type == etherTypeIpv6)

/-- The NAT configuration that a new flow to the outside gets. -/
def snatDataFor (env : NodeEnv) (port : Port) (df : DpFlow) : Option SnatData :=
  if df.l3Type = etherTypeIpv4 ∧ df.flowType = .southNorth then
    (dpGetIfaceSnatData env.network df.src.addr port.iface.vni).filter
      fun data => data.vipIp != 0 || data.natIp != 0
  else none

def snatNeedsNat64 (port : Port) (df : DpFlow) : Bool :=
  df.l3Type == etherTypeIpv6 && port.iface.natIp != 0 &&
    df.flowType = .southNorth && dpIsIpv6Nat64 df.dst.addr6

def snatNewFlow (env : NodeEnv) (outcomes : SnatOutcomes) (store : FlowStore) (f : Handle)
    (m : Mbuf) (port : Port) : Option Visit :=
  match snatDataFor env port m.df with
  | some data =>
    match dpProcessIpv4Snat env outcomes store f m port data with
    | (store, none) => some ⟨store, m, .drop⟩
    | (store, some m) =>
      (snatKnownFlow env port (store.value f) m).map fun (m, next) => ⟨store, m, next⟩
  | none =>
    if snatNeedsNat64 port m.df then
      (dpProcessIpv6Nat64 env outcomes store f m port).map
        fun (store, changed) =>
          match changed with
          | none => ⟨store, m, .drop⟩
          | some m => ⟨store, m, .firewall⟩
    else (snatKnownFlow env port (store.value f) m).map fun (m, next) => ⟨store, m, next⟩

/-- `red` is the color that the meter gives a packet. -/
def snat (env : NodeEnv) (outcomes : SnatOutcomes) (red : Bool) (store : FlowStore)
    (m : Mbuf) : Option Visit :=
  let port := dpGetInPort env.tables.ports m
  if snatMetered port m.df && red then some ⟨store, m, .drop⟩
  else
    m.df.conntrack.bind fun f =>
      if (store.value f).flowFlags.hasNoFlags && m.df.flowDir = .org then
        snatNewFlow env outcomes store f m port
      else (snatKnownFlow env port (store.value f) m).map fun (m, next) => ⟨store, m, next⟩

end DpService.Nodes

import DpService.Graph.Accounting
import DpService.Nodes.Classification

/-!
# Translations that fail

The first packet of a flow can be dropped by `snat` because no port is found
for it, because its header cannot be translated or because its flow cannot be
filed under the new key.  In the last two cases a port was allocated already,
and it is then given back never or twice.  A flow that was made for an ICMP
error gives its port back under other keys than it got it under.
-/

namespace DpService.Graph

open Foundations Packet Dataplane Flow Ipsec Nodes

def snatTranslate (env : NodeEnv) (outcomes : SnatOutcomes) (store : FlowStore) (f : Handle)
    (m : Mbuf) (port : Port) : Option (FlowStore × Option Mbuf) :=
  match snatDataFor env port m.df with
  | some data => some (dpProcessIpv4Snat env outcomes store f m port data)
  | none =>
    if snatNeedsNat64 port m.df then dpProcessIpv6Nat64 env outcomes store f m port
    else some (store, some m)

def allocatedPort (env : NodeEnv) (outcomes : SnatOutcomes) (store : FlowStore) (m : Mbuf)
    (port : Port) : Option UInt16 :=
  match snatDataFor env port m.df with
  | some data =>
    if data.natIp = 0 then none
    else
      (dpAllocateNetworkSnatPort env.dpdk.portmapHash outcomes.ports
        ⟨data.natIp, data.natPortRange⟩ m.df port store.ports).2
  | none =>
    if snatNeedsNat64 port m.df then
      (dpAllocateNetworkSnatPort env.dpdk.portmapHash outcomes.ports
        ⟨port.iface.natIp, port.iface.natPortRange⟩ m.df port
        store.ports).2
    else none

structure FirstPacket (store : FlowStore) (f : Handle) (m : Mbuf) : Prop where
  undecided : (store.value f).Undecided
  unnatted : ¬ (store.value f).NatLocal
  reply : (store.value f).reply = dpInvertFlowKey (store.value f).org
  matching : Matches (store.value f).org m

/-- The tables and counters of NAT ports are what they were, and the end of
the flow will not change them either. -/
structure NoTrace (before after : FlowStore) (f : Handle) : Prop where
  ports : Unchanged before.ports after.ports
  expiry : ∀ later, Unchanged later (dpFreeNetworkNatPort (after.value f) later)

/-- What a flow that has got a port is known by. -/
structure Translated (before after : FlowValue) (vni : Vni) (natIp : Ipv4) (natPort : UInt16) :
    Prop where
  org : after.org = before.org
  natLocal : after.NatLocal
  vni : after.nfInfo.vni = vni
  l3Dst : after.reply.l3Dst = .v4 natIp
  portDst : after.reply.portDst = natPort

section Failure

variable {env : NodeEnv} {outcomes : SnatOutcomes} {store after : FlowStore}
variable {f : Handle} {m : Mbuf} {port : Port}

theorem snatNewFlow_of_failed
    (failed : snatTranslate env outcomes store f m port = some (after, none)) :
    snatNewFlow env outcomes store f m port = some ⟨after, m, .drop⟩ := by
  rw [snatTranslate] at failed
  rw [snatNewFlow]
  cases configured : snatDataFor env port m.df with
  | some data =>
    rw [configured] at failed
    dsimp only at failed ⊢
    rw [Option.some_inj.mp failed]
  | none => ?_
  rw [configured] at failed
  dsimp only at failed ⊢
  by_cases needed : snatNeedsNat64 port m.df = true
  · rw [if_pos needed] at failed ⊢
    rw [failed]
    rfl
  rw [if_neg needed] at failed
  cases failed

theorem expiry_of_unnatted {value : FlowValue} (unnatted : ¬ value.NatLocal) (ports : NatPorts) :
    Unchanged ports (dpFreeNetworkNatPort value ports) := by
  rw [dpFreeNetworkNatPort_of_not unnatted]
  exact Unchanged.refl ports

theorem Translated.not_noTrace {before : FlowValue} {vni : Vni} {natIp : Ipv4} {natPort : UInt16}
    (translated : Translated before (after.value f) vni natIp natPort) :
    ¬ NoTrace store after f := by
  intro noTrace
  have used := (noTrace.expiry NatPorts.empty).used
  have keys : dpFlowToSnatKeys (after.value f) ≠ none := by
    rw [dpFlowToSnatKeys, translated.l3Dst]
    exact Option.some_ne_none _
  obtain ⟨⟨portmapKey, overloadKey⟩, found⟩ := Option.ne_none_iff_exists'.mp keys
  rw [dpFreeNetworkNatPort_of_natLocal translated.natLocal, dpRemoveNetworkSnatPort, found] at used
  have wrapped := congrFun used (after.value f).createdPortId
  rw [NatPorts.decUsedPortCnt_usedPortCnt, Function.update_self,
    dpDeleteSnatEntries_usedPortCnt] at wrapped
  change (0 : UInt16) - 1 = 0 at wrapped
  exact absurd wrapped (by decide)

theorem not_noTrace_of_allocates {before : FlowStore} {key : PortoverloadKey}
    {allocation : Allocation} (allocates : Allocates before.ports after.ports key allocation) :
    ¬ NoTrace before after f := by
  intro noTrace
  have kept := noTrace.ports.portoverload key
  rw [allocates.added, if_pos rfl, allocates.free] at kept
  cases kept

theorem dpDeleteFlow_value (store : FlowStore) (key : FlowKey) (f : Handle) :
    ∃ refCount, (dpDeleteFlow store key f).1.value f = { store.value f with refCount } := by
  cases filed : store.table.lookup key with
  | none =>
    rw [dpDeleteFlow_of_absent filed]
    exact ⟨_, rfl⟩
  | some holder =>
    rw [dpDeleteFlow_of_filed filed, dpRefDec_value, FlowStore.modify_value_self]
    exact ⟨_, rfl⟩

theorem dpDeleteFlow_ports_of_unnatted (unnatted : ¬ (store.value f).NatLocal) (key : FlowKey) :
    (dpDeleteFlow store key f).1.ports = store.ports := by
  cases filed : store.table.lookup key with
  | none => rw [dpDeleteFlow, filed]
  | some holder => ?_
  rw [dpDeleteFlow, filed]
  change (dpRefDec { store with table := _ } f).ports = _
  rw [dpRefDec]
  dsimp only
  split
  · change dpFreeNetworkNatPort _ store.ports = store.ports
    refine dpFreeNetworkNatPort_of_not ?_ store.ports
    rw [FlowStore.modify_value_self]
    exact unnatted
  · rfl

theorem replaceReplyKey_value (added : Bool) (store : FlowStore) (f : Handle)
    (rewrite : FlowKey → FlowKey) :
    ∃ refCount, (replaceReplyKey added store f rewrite).1.value f =
      (store.value f).rekeyed rewrite refCount := by
  obtain ⟨refCount, deleted⟩ := dpDeleteFlow_value store (store.value f).reply f
  cases added with
  | false => exact ⟨refCount, by simp [replaceReplyKey, dpAddFlow, deleted, FlowValue.rekeyed]⟩
  | true =>
    exact ⟨refCount + 1, by simp [replaceReplyKey, dpAddFlow, dpRefInc, deleted, FlowValue.rekeyed]⟩

/-! ## IPv4 -/

theorem expectAnswers_value (rekeyed : Bool) (store : FlowStore) (f : Handle) (m : Mbuf)
    (natPort : Option UInt16) :
    ∃ refCount, (expectAnswers rekeyed store f m natPort).1.value f =
      (FlowValue.raiseSrcNat (store.value f)).rekeyed
        (fun reply =>
          { reply with
            l3Dst := .v4 (ipv4Src m.frame)
            portDst := natPort.getD reply.portDst })
        refCount := by
  rw [← FlowStore.modify_value_self store f FlowValue.raiseSrcNat]
  obtain ⟨refCount, value⟩ :=
    replaceReplyKey_value rekeyed (store.modify f FlowValue.raiseSrcNat) f _
  refine ⟨refCount, ?_⟩
  rw [← value, expectAnswers]
  split
  · rename_i rewritten result
    rw [result]
  rename_i rewritten result
  rw [result]
  cases natPort with
  | none => rfl
  | some natPort => rfl

theorem expectAnswers_ports_of_failed {rekeyed : Bool} (unnatted : ¬ (store.value f).NatLocal)
    (failed : expectAnswers rekeyed store f m none = (after, none)) :
    after.ports = store.ports := by
  rw [expectAnswers] at failed
  split at failed
  · cases failed
  rename_i rewritten refused
  cases rekeyed with
  | true => cases refused
  | false =>
    rw [← (Prod.mk.inj failed).1, ← (Prod.mk.inj refused).1]
    exact @dpDeleteFlow_ports_of_unnatted (store.modify f _) f
      (by rw [FlowStore.modify_value_self]; exact unnatted) _

theorem vipFlow_org (data : SnatData) (store : FlowStore) (f : Handle) :
    ((vipFlow data store f).value f).org = (store.value f).org := by
  obtain ⟨natType, vip, _⟩ := vipChange_eq data (store.value f)
  rw [vipFlow_eq, FlowStore.modify_value_self, vip]
  rfl

/-- The flow notes its port whether it can be filed anew or not. -/
theorem dpProcessIpv4Snat_translated {data : SnatData} {ports : NatPorts} {natPort : UInt16}
    (natted : data.natIp ≠ 0)
    (allocated : dpAllocateNetworkSnatPort env.dpdk.portmapHash outcomes.ports
        ⟨data.natIp, data.natPortRange⟩ m.df port store.ports = (ports, some natPort)) :
    Translated (store.value f)
      ((dpProcessIpv4Snat env outcomes store f m port data).1.value f) port.iface.vni data.natIp
      natPort := by
  have vipPorts : (vipFlow data store f).ports = store.ports := by
    rw [vipFlow_eq]
    rfl
  rw [dpProcessIpv4Snat]
  dsimp only
  rw [if_neg natted, vipPorts, allocated]
  dsimp only
  generalize changed : changeSrcIp _ _ _ = packet
  obtain ⟨_, value⟩ := expectAnswers_value outcomes.rekeyed
    (FlowStore.modify { vipFlow data store f with ports } f _) f packet (some natPort)
  rw [value, FlowStore.modify_value_self]
  refine ⟨vipFlow_org data store f, rfl, rfl, ?_, rfl⟩
  rw [← changed]
  exact congrArg IpAddress.v4
    (by rw [ipv4Src_changeSrcIp, ipv4Src_changeSource, ipv4Src_setIpv4Src])

theorem ipv4Snat_noTrace_iff {data : SnatData} (unnatted : ¬ (store.value f).NatLocal)
    (failed : dpProcessIpv4Snat env outcomes store f m port data = (after, none)) :
    NoTrace store after f ↔
      (if data.natIp = 0 then none
        else
          (dpAllocateNetworkSnatPort env.dpdk.portmapHash outcomes.ports
            ⟨data.natIp, data.natPortRange⟩ m.df port store.ports).2) =
        none := by
  have vipUnnatted : ¬ ((vipFlow data store f).value f).NatLocal := by
    rw [vipFlow_eq, FlowStore.modify_value_self]
    exact vipChange_unnatted unnatted data
  have vipPorts : (vipFlow data store f).ports = store.ports := by
    rw [vipFlow_eq]
    rfl
  by_cases noNat : data.natIp = 0
  · rw [dpProcessIpv4Snat] at failed
    dsimp only at failed
    rw [if_pos noNat] at failed ⊢
    obtain ⟨_, value⟩ := expectAnswers_value outcomes.rekeyed (vipFlow data store f) f
      (changeSrcIp env m (vipFrame data m.frame)) none
    rw [failed] at value
    refine ⟨fun _ => rfl, fun _ => ⟨?_, ?_⟩⟩
    · rw [expectAnswers_ports_of_failed vipUnnatted failed, vipPorts]
      exact Unchanged.refl store.ports
    · apply expiry_of_unnatted
      rw [value]
      exact vipUnnatted
  rw [if_neg noNat]
  rcases dpAllocateNetworkSnatPort_cases env.dpdk.portmapHash outcomes.ports
      ⟨data.natIp, data.natPortRange⟩ m.df port store.ports with
    ⟨ports, refused, same⟩ | ⟨ports, _, _, natPort, _, allocated, _, _⟩
  · rw [dpProcessIpv4Snat] at failed
    dsimp only at failed
    rw [if_neg noNat, vipPorts, refused] at failed
    rw [refused, ← (Prod.mk.inj failed).1]
    exact ⟨fun _ => rfl, fun _ => ⟨same, expiry_of_unnatted vipUnnatted⟩⟩
  have translated := @dpProcessIpv4Snat_translated _ _ _ f _ _ _ _ _ noNat allocated
  rw [failed] at translated
  rw [allocated]
  exact
    ⟨fun noTrace => absurd noTrace translated.not_noTrace,
      fun absent => absurd absent (Option.some_ne_none _)⟩

/-! ## NAT64 -/

theorem expectAnswers64_translated (rekeyed : Bool) (store : FlowStore) (f : Handle) (m : Mbuf)
    (vni : Vni) (dst natIp : Ipv4) (natPort : UInt16) :
    Translated (store.value f)
      ((expectAnswers64 rekeyed store f m vni dst natIp natPort).1.value f) vni natIp natPort := by
  obtain ⟨_, value⟩ := replaceReplyKey_value rekeyed
    (store.modify f fun value =>
      FlowValue.raiseSrcNat64 (FlowValue.natLocally value vni m.df.l4Type (m.frame.be16At 4)))
    f (nat64ReplyKey m.df.l4Type dst natIp natPort)
  rw [FlowStore.modify_value_self] at value
  rw [expectAnswers64]
  split
  · rename_i rewritten result
    rw [result] at value
    rw [value]
    exact ⟨rfl, rfl, rfl, rfl, rfl⟩
  rename_i rewritten result
  rw [result] at value
  rw [releasePort, value]
  exact ⟨rfl, rfl, rfl, rfl, rfl⟩

theorem nat64_noTrace_iff (first : FirstPacket store f m) (ipv6 : m.df.l3Type = etherTypeIpv6)
    (failed : dpProcessIpv6Nat64 env outcomes store f m port = some (after, none)) :
    NoTrace store after f ↔
      (dpAllocateNetworkSnatPort env.dpdk.portmapHash outcomes.ports
        ⟨port.iface.natIp, port.iface.natPortRange⟩ m.df port
        store.ports).2 = none := by
  rw [dpProcessIpv6Nat64] at failed
  dsimp only at failed
  rcases dpAllocateNetworkSnatPort_cases env.dpdk.portmapHash outcomes.ports
      ⟨port.iface.natIp, port.iface.natPortRange⟩ m.df port store.ports with
    ⟨ports, refused, same⟩ | ⟨ports, _, _, natPort, _, allocated, _, allocates⟩
  · rw [refused] at failed ⊢
    dsimp only at failed
    rw [← (Prod.mk.inj (Option.some_inj.mp failed)).1]
    exact ⟨fun _ => rfl, fun _ => ⟨same, expiry_of_unnatted first.unnatted⟩⟩
  rw [allocated] at failed ⊢
  rw [Option.map_eq_some_iff] at failed
  obtain ⟨changed, _, outcome⟩ := failed
  refine ⟨fun noTrace => ?_, fun absent => absurd absent (Option.some_ne_none _)⟩
  cases changed with
  | none =>
    -- the flow still expects its answers under an IPv6 address
    have noKeys : dpFlowToSnatKeys (store.value f) = none := by
      rw [dpFlowToSnatKeys, first.reply, dpInvertFlowKey_l3Dst,
        (addresses_of_ipv6 first.matching ipv6).2]
    have leaked : after.ports = ports := by
      rw [← (Prod.mk.inj outcome).1]
      change dpRemoveNetworkSnatPort (store.value f) ports = ports
      rw [dpRemoveNetworkSnatPort, noKeys]
    rw [← leaked] at allocates
    exact absurd noTrace (not_noTrace_of_allocates allocates)
  | some translated =>
    have noted := expectAnswers64_translated outcomes.rekeyed { store with ports } f
      (setSource translated natPort) port.iface.vni (nat64DestIp m.frame) port.iface.natIp natPort
    rw [show expectAnswers64 _ _ _ _ _ _ _ _ = _ from outcome] at noted
    exact absurd noTrace noted.not_noTrace

end Failure

/-! ## The node -/

/-- In every orderly run, what comes to `snat` with a flow that nobody has
decided about is a first packet. -/
theorem firstPacket_of_tracked {demands : Demands} {world : World} (tracked : Tracked demands world)
    {id : MbufId} {f : Handle} (waits : world.nodeOf id = some .snat)
    (carried : (world.mbufs id).df.conntrack = some f)
    (new : (world.flows.value f).flowFlags.hasNoFlags = true)
    (forward : (world.mbufs id).df.flowDir = .org) :
    FirstPacket world.flows f (world.mbufs id) := by
  rw [World.nodeOf, Option.map_eq_some_iff] at waits
  obtain ⟨flight, held, node⟩ := waits
  have undecided := undecided_of_hasNoFlags new
  rcases tracked.packets id flight held with cls | drop | ⟨follows, ready⟩
  · rw [node] at cls
    cases cls
  · rw [node] at drop
    cases drop
  obtain ⟨reply, unnatted⟩ := tracked.shared.undecided f (follows f carried) undecided
  have awaited : awaits flight.node = true := by
    rw [node]
    rfl
  exact ⟨undecided, unnatted, reply, (ready awaited f carried undecided).2 forward⟩

theorem guestAtSnat_firstPacket :
    FirstPacket ((hostMachine hostConf).run guestAtSnat).flows 0
      (((hostMachine hostConf).run guestAtSnat).mbufs 1) := by
  have tracked : Tracked plainDemands ((hostMachine hostConf).run guestAtSnat) :=
    tracked_run zeroDpdk (hostStart hostConf) (orderlyRun_of_check plainDemands (by decide +kernel))
  exact
    firstPacket_of_tracked tracked (by decide +kernel) (by decide +kernel)
      (by decide +kernel) (by decide +kernel)

def unallocated : SnatOutcomes where
  ports := { PortOutcomes.succeed with addOverload := false }
  rekeyed := true

def guestTranslation (outcomes : SnatOutcomes) : Option (FlowStore × Option Mbuf) :=
  let world := (hostMachine hostConf).run guestAtSnat
  snatTranslate (world.env zeroDpdk) outcomes world.flows 0 (world.mbufs 1)
    (dpGetInPort world.tables.ports (world.mbufs 1))

def natIpFor (env : NodeEnv) (port : Port) (df : DpFlow) : Ipv4 :=
  match snatDataFor env port df with
  | some data => data.natIp
  | none => port.iface.natIp

def allocationKeys (df : DpFlow) (vni : Vni) (natIp : Ipv4) (natPort : UInt16) :
    Option (PortmapKey × PortoverloadKey) :=
  (natAddresses df).map fun (srcIp, dstIp) =>
    (portmapKeyOf df vni srcIp, overloadKeyOf df natIp dstIp natPort)

section Release

variable {env : NodeEnv} {outcomes : SnatOutcomes} {store after : FlowStore} {f : Handle}
    {m packet : Mbuf} {port : Port} {buffer : FlowKey} {natPort : UInt16}

theorem snatTranslate_translated
    (allocated : allocatedPort env outcomes store m port = some natPort)
    (completes : snatTranslate env outcomes store f m port = some (after, some packet)) :
    Translated (store.value f) (after.value f) port.iface.vni (natIpFor env port m.df) natPort := by
  rw [allocatedPort] at allocated
  rw [snatTranslate] at completes
  rw [natIpFor]
  cases configured : snatDataFor env port m.df with
  | some data =>
    rw [configured] at allocated completes
    dsimp only at allocated completes ⊢
    split at allocated
    · cases allocated
    rename_i natted
    have translated :=
      @dpProcessIpv4Snat_translated _ _ _ f _ _ _ _ _ natted (Prod.ext rfl allocated)
    rw [Option.some_inj.mp completes] at translated
    exact translated
  | none =>
    rw [configured] at allocated completes
    dsimp only at allocated completes ⊢
    split at allocated
    · rename_i needed
      rw [if_pos needed, dpProcessIpv6Nat64] at completes
      dsimp only at completes
      split at completes
      · cases completes
      rename_i ports given result
      rw [result] at allocated
      cases allocated
      rw [Option.map_eq_some_iff] at completes
      obtain ⟨changed, _, answers⟩ := completes
      cases changed with
      | none => cases answers
      | some changed => ?_
      have translated := expectAnswers64_translated outcomes.rekeyed { store with ports } f
        (setSource changed natPort) port.iface.vni (nat64DestIp m.frame) port.iface.natIp natPort
      rw [show expectAnswers64 _ _ _ _ _ _ _ _ = _ from answers] at translated
      exact translated
    · cases allocated

theorem allocationKeys_eq {df : DpFlow} {l3Dst l3Src : IpAddress} (vni : Vni) (natIp : Ipv4)
    (addresses : keyAddresses df = some (l3Dst, l3Src)) :
    allocationKeys df vni natIp natPort =
      some (portmapKeyOf df vni l3Src, overloadKeyOf df natIp (natDestination l3Dst) natPort) := by
  unfold keyAddresses at addresses
  rw [allocationKeys, natAddresses]
  split at addresses
  · rename_i ipv4
    cases addresses
    rw [if_pos ipv4]
    rfl
  rename_i notIpv4
  split at addresses
  · rename_i ipv6
    cases addresses
    rw [if_neg notIpv4, if_pos ipv6]
    rfl
  cases addresses

theorem Translated.keys_iff {before value : FlowValue} {vni : Vni} {natIp : Ipv4}
    (translated : Translated before value vni natIp natPort)
    (built : dpBuildFlowKey env buffer m = (before.org, true)) :
    dpFlowToSnatKeys value = allocationKeys m.df vni natIp natPort ↔ ¬ isIcmpError m.df := by
  rw [dpFlowToSnatKeys, translated.l3Dst, translated.vni, translated.portDst, translated.org]
  rw [dpBuildFlowKey] at built
  split at built
  · cases congrArg Prod.snd built
  rename_i l3Dst l3Src addresses
  rw [allocationKeys_eq vni natIp addresses, portmapKeyOf, overloadKeyOf, natSrcPort, natDstPort]
  unfold buildKeyPorts at built
  split at built
  · rename_i transport
    rw [← (Prod.mk.inj built).1]
    rcases transport with tcp | udp
    · simp [tcp, isIcmpError, ipprotoTcp, ipprotoIcmp, ipprotoIcmpv6]
    · simp [udp, isIcmpError, ipprotoUdp, ipprotoIcmp, ipprotoIcmpv6]
  split at built
  · rename_i icmp
    unfold dpBuildIcmpFlowKey at built
    split at built
    · rename_i echo
      rw [← (Prod.mk.inj built).1]
      rcases echo with reply | request
      · simp [icmp, reply, isIcmpError, icmpEchoReply, icmpTypeError]
      · simp [icmp, request, isIcmpError, icmpEchoRequest, icmpTypeError]
    split at built
    · rename_i error
      dsimp only at built
      split at built
      · rename_i usable
        -- only errors that quote TCP or UDP are accepted
        rw [← (Prod.mk.inj built).1]
        rcases (quoted_of_usable usable).2 with tcp | udp
        · simp [icmp, error.1, tcp, isIcmpError, ipprotoTcp, ipprotoIcmp]
        · simp [icmp, error.1, udp, isIcmpError, ipprotoUdp, ipprotoIcmp]
      cases congrArg Prod.snd built
    cases congrArg Prod.snd built
  split at built
  · rename_i icmpv6
    rw [← (Prod.mk.inj built).1]
    simp [icmpv6, isIcmpError, ipprotoIcmp, ipprotoIcmpv6]
  cases congrArg Prod.snd built

end Release

/-- The keys that a flow gives its port back with are the ones that the port
was taken with, unless the packet it was made for is an ICMP error. -/
theorem releaseKeys_iff {env : NodeEnv} {outcomes : SnatOutcomes} {store after : FlowStore}
    {f : Handle} {m packet : Mbuf} {port : Port} {buffer : FlowKey} {natPort : UInt16}
    (built : dpBuildFlowKey env buffer m = ((store.value f).org, true))
    (allocated : allocatedPort env outcomes store m port = some natPort)
    (completes : snatTranslate env outcomes store f m port = some (after, some packet)) :
    dpFlowToSnatKeys (after.value f) =
        allocationKeys m.df port.iface.vni (natIpFor env port m.df) natPort ↔
      ¬ isIcmpError m.df :=
  (snatTranslate_translated allocated completes).keys_iff built

theorem guestAtSnat_releases :
    let world := (hostMachine hostConf).run guestAtSnat
    let port := dpGetInPort world.tables.ports (world.mbufs 1)
    ∃ after packet, guestTranslation NodeOutcomes.succeed.snat = some (after, some packet) ∧
      dpFlowToSnatKeys (after.value 0) =
        allocationKeys (world.mbufs 1).df port.iface.vni
          (natIpFor (world.env zeroDpdk) port (world.mbufs 1).df) 1000 := by
  intro world port
  have completes : (guestTranslation NodeOutcomes.succeed.snat).any (·.2.isSome) = true := by
    decide +kernel
  have built :
      dpBuildFlowKey (world.env zeroDpdk) (world.flows.value 0).org (world.mbufs 1) =
        ((world.flows.value 0).org, true) := by
    decide +kernel
  have allocated :
      allocatedPort (world.env zeroDpdk) NodeOutcomes.succeed.snat world.flows (world.mbufs 1)
        port = some 1000 := by
    decide +kernel
  obtain ⟨⟨after, packet⟩, translated, sent⟩ := (Option.any_eq_true _ _).mp completes
  obtain ⟨packet, rfl⟩ := Option.isSome_iff_exists.mp sent
  have keys := releaseKeys_iff built allocated translated
  exact ⟨after, packet, translated, keys.mpr (by decide +kernel)⟩

def guestError : Frame :=
  guestFrame ipprotoIcmp 0x08080808
    ([icmpTypeError, 3, 0, 0, 0, 0, 0, 0] ++
      ipv4Packet ipprotoUdp 0x08080808 0x0a000001 (udpHeader 53 4000))

theorem guestError_misreleased :
    let events := guestBehindNat onePort ++ guestSends 1 guestError
    let flows := ((hostMachine hostConf).run events).flows
    flows.ports.portoverload.entries.map Sigma.fst =
        [⟨0xac100009, 1000, 0x08080808, 0, ipprotoIcmp⟩] ∧
      (dpFlowToSnatKeys (flows.value 0)).map Prod.snd =
        some ⟨0xac100009, 1000, 0x08080808, 53, ipprotoUdp⟩ := by
  decide +kernel

end DpService.Graph

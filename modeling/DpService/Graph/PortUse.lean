import DpService.Graph.Tracking
import DpService.Nodes.Fields

/-!
# Ports and the flows that get them

The node `snat` gives a flow to the outside a port.  The keys that the flow
gives the port back with are the ones it was taken with, since the flow was
made for the packet that the port is taken for.
-/

namespace DpService.Graph

open Foundations Packet Dataplane Flow Ipsec Nodes

variable {org : FlowKey} {srcIp : IpAddress} {dstIp natIp : Ipv4} {value : FlowValue}
    {natPort : UInt16} {ports : NatPorts} {after : FlowStore}

variable {demands : Demands} {env : NodeEnv} {store : FlowStore} {m : Mbuf}

/-! ## Keys -/

theorem natAddresses_of_matches (matching : Matches org m)
    (addresses : natAddresses m.df = some (srcIp, dstIp)) :
    srcIp = org.l3Src ∧ dstIp = natDestination org.l3Dst := by
  have keyed := matching.addresses
  rw [keyAddresses] at keyed
  rw [natAddresses] at addresses
  split at addresses
  · rename_i ipv4
    rw [if_pos ipv4] at keyed
    obtain ⟨dst, src⟩ := Prod.mk.inj (Option.some_inj.mp keyed)
    obtain ⟨searchedSrc, searchedDst⟩ :=
      Prod.mk.inj (Option.some_inj.mp addresses)
    exact ⟨searchedSrc.symm.trans src, by rw [← searchedDst, ← dst]; rfl⟩
  rename_i notIpv4
  rw [if_neg notIpv4] at keyed
  split at addresses
  · rename_i ipv6
    rw [if_pos ipv6] at keyed
    obtain ⟨dst, src⟩ := Prod.mk.inj (Option.some_inj.mp keyed)
    obtain ⟨searchedSrc, searchedDst⟩ :=
      Prod.mk.inj (Option.some_inj.mp addresses)
    exact ⟨searchedSrc.symm.trans src, by rw [← searchedDst, ← dst]; rfl⟩
  cases addresses

theorem dpFlowToSnatKeys_of_matches (matching : Matches value.org m)
    (addresses : natAddresses m.df = some (srcIp, dstIp))
    (reply : value.reply = natReplyKey value.org natIp natPort) :
    dpFlowToSnatKeys value =
      some
        (portmapKeyOf m.df value.nfInfo.vni srcIp, overloadKeyOf m.df natIp dstIp natPort) := by
  obtain ⟨src, dst⟩ := natAddresses_of_matches matching addresses
  have natAddress : value.reply.l3Dst = .v4 natIp := by
    rw [reply, natReplyKey_l3Dst]
  have port : value.reply.portDst = natPort := by
    rw [reply, natReplyKey_portDst]
  rw [dpFlowToSnatKeys, natAddress]
  dsimp only
  rw [port, matching.srcPort, matching.dstPort, matching.proto, src, dst]
  rfl

theorem owns_of_matches {portId : PortId} {before : NatPorts} (matching : Matches value.org m)
    (addresses : natAddresses m.df = some (srcIp, dstIp))
    (reply : value.reply = natReplyKey value.org natIp natPort)
    (charged : demands.charged → portId = value.createdPortId)
    (allocates :
      Allocates before ports (overloadKeyOf m.df natIp dstIp natPort)
        ⟨portmapKeyOf m.df value.nfInfo.vni srcIp, portId⟩) :
    Owns demands value ports (overloadKeyOf m.df natIp dstIp natPort) := by
  have held := allocates.added (overloadKeyOf m.df natIp dstIp natPort)
  rw [if_pos rfl] at held
  exact ⟨reply, _, held, dpFlowToSnatKeys_of_matches matching addresses reply, charged⟩

/-! ## IPv4 -/

/-- The packet may take a port: with `charged` demanded, it came in through
the interface that its flow was created for. -/
def Charged (demands : Demands) (store : FlowStore) (portId : PortId) (f : Handle) : Prop :=
  demands.charged → portId = (store.value f).createdPortId

structure Deciding
    (demands : Demands) (store : FlowStore) (m : Mbuf) (f : Handle) :
    Prop where
  shared : Shared demands store
  live : store.Live f
  undecided : (store.value f).Undecided
  two : (store.value f).refCount = 2
  matching : Matches (store.value f).org m

theorem Deciding.reply {f : Handle} (deciding : Deciding demands store m f) :
    (store.value f).reply = dpInvertFlowKey (store.value f).org :=
  (deciding.shared.undecided f deciding.live deciding.undecided).1

theorem Deciding.unnatted {f : Handle} (deciding : Deciding demands store m f) :
    ¬ (store.value f).NatLocal :=
  (deciding.shared.undecided f deciding.live deciding.undecided).2

theorem Deciding.rekey {start : FlowStore} {f : Handle} (deciding : Deciding demands store m f)
    (decided : Decided store start f) (rewrite : FlowKey → FlowKey)
    (vni : (rewrite (start.value f).reply).vni = (start.value f).org.vni)
    (taken : ∀ refCount,
      PortTaken demands store.ports start.ports ((start.value f).rekeyed rewrite refCount)) :
    ∃ after, replaceReplyKey true start f rewrite = (after, true) ∧
      Advances demands store after := by
  obtain ⟨after, result, advances, -⟩ :=
    Advances.rekey deciding.shared deciding.live deciding.undecided deciding.two decided rewrite
      vni taken
  exact ⟨after, result, advances⟩

theorem Deciding.with_port {start : FlowStore} {f : Handle} {portId : PortId}
    (deciding : Deciding demands store m f) (decided : Decided store start f)
    (rewrite : FlowKey → FlowKey) (addresses : natAddresses m.df = some (srcIp, dstIp))
    (charged : Charged demands store portId f)
    (allocates :
      Allocates store.ports start.ports (overloadKeyOf m.df natIp dstIp natPort)
        ⟨portmapKeyOf m.df (start.value f).nfInfo.vni srcIp, portId⟩)
    (natted : (start.value f).NatLocal)
    (reply : rewrite (start.value f).reply = natReplyKey (store.value f).org natIp natPort) :
    ∃ after, replaceReplyKey true start f rewrite = (after, true) ∧
      Advances demands store after := by
  apply deciding.rekey decided rewrite
  · rw [reply, natReplyKey_vni, decided.org f]
  intro refCount
  have matching : Matches ((start.value f).rekeyed rewrite refCount).org m := by
    change Matches (start.value f).org m
    rw [decided.org f]
    exact deciding.matching
  have answers : ((start.value f).rekeyed rewrite refCount).reply =
        natReplyKey ((start.value f).rekeyed rewrite refCount).org natIp
          natPort := by
    change rewrite (start.value f).reply = natReplyKey (start.value f).org _ _
    rw [reply, decided.org f]
  have counted : demands.charged →
      portId = ((start.value f).rekeyed rewrite refCount).createdPortId :=
    fun demanded => (charged demanded).trans decided.created.symm
  exact
    Or.inr ⟨natted, _, _, allocates, owns_of_matches matching addresses answers counted allocates⟩

def vipChange (data : SnatData) (value : FlowValue) : FlowValue :=
  if data.vipIp ≠ 0 then value.setNatType .vip else value

theorem vipFlow_eq (data : SnatData) (store : FlowStore) (f : Handle) :
    vipFlow data store f = store.modify f (vipChange data) := by
  by_cases vip : data.vipIp ≠ 0
  · have change : vipChange data = fun value => value.setNatType .vip := funext fun _ => if_pos vip
    rw [vipFlow, if_pos vip, change]
  · have change : vipChange data = fun value => value := funext fun _ => if_neg vip
    rw [vipFlow, if_neg vip, change]
    simp [FlowStore.modify]

theorem vipChange_eq (data : SnatData) (value : FlowValue) :
    ∃ natType, vipChange data value = value.setNatType natType ∧
      (natType = .vip ∨ natType = value.nfInfo.natType) := by
  by_cases vip : data.vipIp ≠ 0
  · exact ⟨.vip, by rw [vipChange, if_pos vip], Or.inl rfl⟩
  · exact ⟨value.nfInfo.natType, by rw [vipChange, if_neg vip]; rfl, Or.inr rfl⟩

theorem vipChange_unnatted (unnatted : ¬ value.NatLocal) (data : SnatData) :
    ¬ (vipChange data value).NatLocal := by
  obtain ⟨natType, same, vip | kept⟩ := vipChange_eq data value
  · rw [same, vip]
    exact nofun
  · rw [same, kept]
    exact unnatted

theorem raiseSrcNat_decided (value : FlowValue) : ¬ (FlowValue.raiseSrcNat value).Undecided := by
  intro undecided
  have raised : true = false := congrArg FlowFlags.srcNat undecided
  cases raised

theorem raiseSrcNat64_decided (value : FlowValue) :
    ¬ (FlowValue.raiseSrcNat64 value).Undecided := by
  intro undecided
  have raised : true = false := congrArg FlowFlags.srcNat64 undecided
  cases raised

section Ipv4

variable {f : Handle} {port : Port} {data : SnatData}
variable {outcomes : SnatOutcomes}

theorem vip_advances (deciding : Deciding demands store m f) (changed : Mbuf) :
    Advances demands store (expectAnswers true (vipFlow data store f) f changed none).1 := by
  obtain ⟨natType, vip, _⟩ := vipChange_eq data (store.value f)
  have decided :
      Decided store
        (store.modify f fun value => FlowValue.raiseSrcNat (vipChange data value)) f := by
    refine @decided_modify store f _ ?_ ?_ ?_ ?_ ?_ ?_ store.ports
    · rw [vip]
      rfl
    · rw [vip]
      rfl
    · rw [vip]
      rfl
    · rw [vip]
      rfl
    · rw [vip]
      rfl
    · exact raiseSrcNat_decided _
  have vni := deciding.shared.sameVni f deciding.live
  rw [← decided.reply f, ← decided.org f] at vni
  obtain ⟨after, result, advances⟩ :=
    deciding.rekey decided
      (fun reply =>
        { reply with
          l3Dst := .v4 (ipv4Src changed.frame)
          portDst := (none : Option UInt16).getD reply.portDst })
      vni fun _ => Or.inl ⟨by
        rw [FlowStore.modify_value_self]
        exact vipChange_unnatted deciding.unnatted data, Unchanged.refl store.ports⟩
  rw [expectAnswers, vipFlow_eq, FlowStore.modify_modify, result]
  exact advances

theorem natReplyKey_of_ipv4 {dst : Ipv4} (ipv4 : org.l3Dst = .v4 dst) :
    natReplyKey org natIp natPort =
      { dpInvertFlowKey org with l3Dst := .v4 natIp, portDst := natPort } := by
  rw [natReplyKey, ipv4]

theorem l3Dst_of_ipv4 (matching : Matches org m)
    (ipv4 : m.df.l3Type = etherTypeIpv4) : org.l3Dst = .v4 m.df.dst.addr := by
  have keyed := matching.addresses
  rw [keyAddresses, if_pos ipv4] at keyed
  exact (Prod.mk.inj (Option.some_inj.mp keyed)).1.symm

theorem natted_advances (deciding : Deciding demands store m f) (ipv4 : m.df.l3Type = etherTypeIpv4)
    (charged : Charged demands store port.portId f)
    (addresses : natAddresses m.df = some (srcIp, dstIp))
    (allocates :
      Allocates store.ports ports (overloadKeyOf m.df natIp dstIp natPort)
        ⟨portmapKeyOf m.df port.iface.vni srcIp, port.portId⟩)
    {changed : Mbuf} (source : ipv4Src changed.frame = natIp)
    (hdrChecksum : UInt16) :
    Advances demands store
      (expectAnswers true
        (FlowStore.modify { vipFlow data store f with ports } f fun value =>
          FlowValue.natLocally value port.iface.vni m.df.l4Type hdrChecksum)
        f changed (some natPort)).1 := by
  obtain ⟨natType, vip, _⟩ := vipChange_eq data (store.value f)
  have decided :
      Decided store
        (FlowStore.modify { store with ports } f fun value =>
          FlowValue.raiseSrcNat
            (FlowValue.natLocally (vipChange data value) port.iface.vni m.df.l4Type hdrChecksum))
        f := by
    refine @decided_modify store f _ ?_ ?_ ?_ ?_ ?_ ?_ ports
    · rw [vip]
      rfl
    · rw [vip]
      rfl
    · rw [vip]
      rfl
    · rw [vip]
      rfl
    · rw [vip]
      rfl
    · exact raiseSrcNat_decided _
  obtain ⟨after, result, advances⟩ :=
    deciding.with_port decided
      (fun reply =>
        { reply with
          l3Dst := .v4 (ipv4Src changed.frame)
          portDst := (some natPort).getD reply.portDst })
      addresses charged (by rw [FlowStore.modify_value_self]; exact allocates)
      (by rw [FlowStore.modify_value_self]; rfl)
      (by
        rw [decided.reply f, deciding.reply,
          natReplyKey_of_ipv4 (l3Dst_of_ipv4 deciding.matching ipv4), source]
        rfl)
  have start :
      FlowStore.modify
          (FlowStore.modify { vipFlow data store f with ports } f fun value =>
            FlowValue.natLocally value port.iface.vni m.df.l4Type hdrChecksum)
          f FlowValue.raiseSrcNat =
        FlowStore.modify { store with ports } f fun value =>
          FlowValue.raiseSrcNat
            (FlowValue.natLocally (vipChange data value) port.iface.vni
              m.df.l4Type hdrChecksum) := by
    have moved : { vipFlow data store f with ports } =
          FlowStore.modify { store with ports } f (vipChange data) := by
      rw [vipFlow_eq]
      rfl
    rw [moved, FlowStore.modify_modify, FlowStore.modify_modify]
  rw [expectAnswers, start, result]
  exact advances

theorem dpProcessIpv4Snat_advances (deciding : Deciding demands store m f)
    (ipv4 : m.df.l3Type = etherTypeIpv4) (charged : Charged demands store port.portId f)
    (rekeyed : outcomes.rekeyed = true) :
    Advances demands store (dpProcessIpv4Snat env outcomes store f m port data).1 := by
  have vipOnly : Advances demands store (vipFlow data store f) := by
    obtain ⟨natType, vip, _⟩ := vipChange_eq data (store.value f)
    have quiet : Quiet (store.value f) (vipChange data (store.value f)) := by
      apply quiet_of_undecided deciding.shared deciding.live deciding.undecided
      · rw [vip]
        rfl
      · rw [vip]
        rfl
      · rw [vip]
        rfl
      · exact vipChange_unnatted deciding.unnatted data
    rw [vipFlow_eq]
    apply Advances.modify_of_counts deciding.shared deciding.live quiet
    · rw [vip]
      rfl
    · rw [vip]
      rfl
  have samePorts : (vipFlow data store f).ports = store.ports := by
    rw [vipFlow_eq]
    rfl
  rw [dpProcessIpv4Snat, rekeyed]
  dsimp only
  split
  · exact vip_advances deciding _
  rw [samePorts]
  rcases dpAllocateNetworkSnatPort_cases env.dpdk.portmapHash outcomes.ports
      ⟨data.natIp, data.natPortRange⟩ m.df port store.ports with
    ⟨ports, refused, unchanged⟩ | ⟨ports, srcIp, dstIp, natPort, addresses, given, _, allocates⟩
  · rw [refused]
    have failed : Unchanged (vipFlow data store f).ports ports := by
      rw [samePorts]
      exact unchanged
    exact vipOnly.trans samePorts (Advances.setPorts vipOnly.shared failed)
  · rw [given]
    apply natted_advances deciding ipv4 charged addresses allocates
    rw [ipv4Src_changeSrcIp, ipv4Src_changeSource, ipv4Src_setIpv4Src]

end Ipv4

/-! ## NAT64 -/

theorem dpNatChgIpv6ToIpv4Hdr_l4Type {df changed : DpFlow} {frame translated : Frame}
    (result : dpNatChgIpv6ToIpv4Hdr df frame natIp = some (changed, translated, true)) :
    changed.l4Type = nat64Proto df.l4Type := by
  have transport : ∀ proto, proto = ipprotoTcp ∨ proto = ipprotoUdp → nat64Proto proto = proto := by
    intro proto either
    rw [nat64Proto, if_neg]
    rcases either with tcp | udp
    · rw [tcp]
      decide
    · rw [udp]
      decide
  rw [dpNatChgIpv6ToIpv4Hdr] at result
  dsimp only at result
  split at result
  · cases congrArg (·.2.2) (Option.some_inj.mp result)
  split at result
  · rename_i tcp
    rw [← (Prod.mk.inj (Option.some_inj.mp result)).1]
    exact (transport df.l4Type (Or.inl tcp)).symm
  split at result
  · rename_i udp
    rw [← (Prod.mk.inj (Option.some_inj.mp result)).1]
    exact (transport df.l4Type (Or.inr udp)).symm
  split at result
  · rename_i icmpv6
    rw [Option.map_eq_some_iff] at result
    obtain ⟨pair, _, same⟩ := result
    rw [← (Prod.mk.inj same).1, nat64Proto, if_pos icmpv6]
  cases congrArg (·.2.2) (Option.some_inj.mp result)

theorem changedToIpv4_l4Type {df : DpFlow} {natIp : Ipv4} {changed : Mbuf}
    (result : changedToIpv4 df m natIp = some (some changed)) :
    changed.df.l4Type = nat64Proto df.l4Type := by
  rw [changedToIpv4] at result
  split at result
  · cases result
  · cases result
  · rename_i translated
    rw [← Option.some_inj.mp (Option.some_inj.mp result)]
    exact dpNatChgIpv6ToIpv4Hdr_l4Type translated

section Nat64

variable {f : Handle} {port : Port} {outcomes : SnatOutcomes}

theorem addresses_of_ipv6 (matching : Matches org m) (ipv6 : m.df.l3Type = etherTypeIpv6) :
    org.l3Dst = .v6 (ipv6Dst m.frame) ∧ org.l3Src = .v6 m.df.src.addr6 := by
  have notIpv4 : m.df.l3Type ≠ etherTypeIpv4 := by
    rw [ipv6]
    decide
  have keyed := matching.addresses
  rw [keyAddresses, if_neg notIpv4, if_pos ipv6] at keyed
  obtain ⟨dst, src⟩ := Prod.mk.inj (Option.some_inj.mp keyed)
  rw [matching.frameDst ipv6]
  exact ⟨dst.symm, src.symm⟩

theorem natReplyKey_of_ipv6 (matching : Matches org m) (ipv6 : m.df.l3Type = etherTypeIpv6) :
    natReplyKey org natIp natPort =
      nat64ReplyKey (nat64Proto m.df.l4Type) (nat64DestIp m.frame) natIp natPort
        (dpInvertFlowKey org) := by
  rw [natReplyKey, (addresses_of_ipv6 matching ipv6).1, ← matching.proto]
  rfl

theorem releasePort_of_ipv6 (deciding : Deciding demands store m f)
    (ipv6 : m.df.l3Type = etherTypeIpv6) (ports : NatPorts) :
    releasePort { store with ports } f = { store with ports } := by
  have source : (store.value f).reply.l3Dst = .v6 m.df.src.addr6 := by
    rw [deciding.reply, dpInvertFlowKey_l3Dst]
    exact (addresses_of_ipv6 deciding.matching ipv6).2
  have noKeys : dpFlowToSnatKeys (store.value f) = none := by
    rw [dpFlowToSnatKeys, source]
  rw [releasePort, dpRemoveNetworkSnatPort, noKeys]

theorem nat64_advances (deciding : Deciding demands store m f) (ipv6 : m.df.l3Type = etherTypeIpv6)
    (charged : Charged demands store port.portId f)
    (addresses : natAddresses m.df = some (srcIp, dstIp))
    (allocates :
      Allocates store.ports ports (overloadKeyOf m.df natIp dstIp natPort)
        ⟨portmapKeyOf m.df port.iface.vni srcIp, port.portId⟩)
    {changed : Mbuf} (l4Type : changed.df.l4Type = nat64Proto m.df.l4Type) :
    Advances demands store
      (expectAnswers64 true { store with ports } f changed port.iface.vni
        (nat64DestIp m.frame) natIp natPort).1 := by
  have decided :
      Decided store
        (FlowStore.modify { store with ports } f fun value =>
          FlowValue.raiseSrcNat64
            (FlowValue.natLocally value port.iface.vni changed.df.l4Type (changed.frame.be16At 4)))
        f := by
    refine @decided_modify store f _ rfl rfl rfl rfl rfl ?_ ports
    exact raiseSrcNat64_decided _
  obtain ⟨after, result, advances⟩ :=
    deciding.with_port decided
      (nat64ReplyKey changed.df.l4Type (nat64DestIp m.frame) natIp natPort) addresses charged
      (by rw [FlowStore.modify_value_self]; exact allocates)
      (by rw [FlowStore.modify_value_self]; rfl)
      (by rw [decided.reply f, deciding.reply, l4Type, natReplyKey_of_ipv6 deciding.matching ipv6])
  rw [expectAnswers64, result]
  exact advances

def Translatable (demands : Demands) (m : Mbuf) : Prop :=
  demands.owned → m.df.l3Type = etherTypeIpv6 →
    ∀ df natIp, df.l4Type = m.df.l4Type → changedToIpv4 df m natIp ≠ some none

theorem dpProcessIpv6Nat64_advances (deciding : Deciding demands store m f)
    (ipv6 : m.df.l3Type = etherTypeIpv6) (charged : Charged demands store port.portId f)
    (translatable : Translatable demands m) (rekeyed : outcomes.rekeyed = true)
    {changed : Option Mbuf}
    (result : dpProcessIpv6Nat64 env outcomes store f m port = some (after, changed)) :
    Advances demands store after := by
  rw [dpProcessIpv6Nat64, rekeyed] at result
  dsimp only at result
  rcases dpAllocateNetworkSnatPort_cases env.dpdk.portmapHash outcomes.ports
      ⟨port.iface.natIp, port.iface.natPortRange⟩ m.df port store.ports with
    ⟨ports, refused, unchanged⟩ | ⟨ports, srcIp, dstIp, natPort, addresses, given, _, allocates⟩
  · rw [refused] at result
    rw [← (Prod.mk.inj (Option.some_inj.mp result)).1]
    exact Advances.setPorts deciding.shared unchanged
  rw [given] at result
  dsimp only at result
  generalize changedFlow :
    { m.df with
      natPort
      natType := .nat64ChgSrcIp
      natAddr := swapBytes port.iface.natIp } = df at result
  have kept : df.l4Type = m.df.l4Type := by
    rw [← changedFlow]
  rw [Option.map_eq_some_iff] at result
  obtain ⟨translation, translated, same⟩ := result
  cases translation with
  | none =>
    have tolerated : ¬ demands.owned :=
      fun demanded => translatable demanded ipv6 df _ kept translated
    rw [← (Prod.mk.inj same).1, releasePort_of_ipv6 deciding ipv6]
    exact Advances.leak deciding.shared tolerated allocates
  | some packet => ?_
  have stored := congrArg Prod.fst same
  have l4Type : (setSource packet natPort).df.l4Type = nat64Proto m.df.l4Type := by
    rw [← kept]
    exact @changedToIpv4_l4Type m df _ packet translated
  have advances := nat64_advances deciding ipv6 charged addresses allocates l4Type
  dsimp only at stored
  rw [stored] at advances
  exact advances

end Nat64

/-! ## The node -/

section Node

variable {f : Handle} {outcomes : SnatOutcomes}

theorem snatNewFlow_advances {port : Port} (deciding : Deciding demands store m f)
    (charged : Charged demands store port.portId f) (translatable : Translatable demands m)
    (rekeyed : outcomes.rekeyed = true) {visit : Visit}
    (result : snatNewFlow env outcomes store f m port = some visit) :
    Advances demands store visit.flows := by
  rw [snatNewFlow] at result
  split at result
  · rename_i data found
    have ipv4 : m.df.l3Type = etherTypeIpv4 := by
      rw [snatDataFor] at found
      split at found
      · rename_i outwards
        exact outwards.1
      cases found
    have advances :=
      @dpProcessIpv4Snat_advances demands env store m f port data outcomes
        deciding ipv4 charged rekeyed
    split at result
    · rename_i after processed
      rw [processed] at advances
      rw [← congrArg Visit.flows (Option.some_inj.mp result)]
      exact advances
    rename_i after packet processed
    rw [processed] at advances
    rw [Option.map_eq_some_iff] at result
    obtain ⟨⟨sent, next⟩, _, same⟩ := result
    rw [← congrArg Visit.flows same]
    exact advances
  split at result
  · rename_i needed
    have ipv6 : m.df.l3Type = etherTypeIpv6 := by
      rw [snatNeedsNat64, Bool.and_eq_true, Bool.and_eq_true, Bool.and_eq_true] at needed
      exact eq_of_beq needed.1.1.1
    rw [Option.map_eq_some_iff] at result
    obtain ⟨⟨after, changed⟩, processed, same⟩ := result
    have advances :=
      dpProcessIpv6Nat64_advances deciding ipv6 charged translatable rekeyed processed
    rw [← congrArg Visit.flows same]
    cases changed with
    | none => exact advances
    | some packet => exact advances
  rw [Option.map_eq_some_iff] at result
  obtain ⟨⟨sent, next⟩, _, same⟩ := result
  rw [← congrArg Visit.flows same]
  exact Advances.refl deciding.shared

/-- What a packet needs to be allowed into `snat`. -/
structure Admitted
    (demands : Demands) (env : NodeEnv) (store : FlowStore) (m : Mbuf) :
    Prop where
  charged : ∀ f, m.df.conntrack = some f → (store.value f).Undecided →
    Charged demands store (dpGetInPort env.tables.ports m).portId f
  translatable : Translatable demands m

theorem snat_passes (shared : Shared demands store)
    (follows : Follows store m) (ready : Ready store m) (admitted : Admitted demands env store m)
    (rekeyed : outcomes.rekeyed = true) {red : Bool} {visit : Visit}
    (result : snat env outcomes red store m = some visit) :
    Passes demands store visit.flows visit.m visit.next := by
  obtain ⟨carries, edge⟩ := snat_hop result
  have elsewhere : awaits visit.next = false := by
    rcases List.mem_cons.mp edge with drop | edge
    · rw [drop]
      rfl
    · rw [List.mem_singleton.mp edge]
      rfl
  apply Passes.of_not_awaits _ follows carries.conntrack elsewhere
  rw [snat] at result
  dsimp only at result
  split at result
  · rw [← congrArg Visit.flows (Option.some_inj.mp result)]
    exact Advances.refl shared
  rw [Option.bind_eq_some_iff] at result
  obtain ⟨f, carried, result⟩ := result
  split at result
  · rename_i new
    rw [Bool.and_eq_true] at new
    have undecided := undecided_of_hasNoFlags new.1
    obtain ⟨two, forward⟩ := ready f carried undecided
    have deciding : Deciding demands store m f :=
      ⟨shared, follows f carried, undecided, two, forward (of_decide_eq_true new.2)⟩
    exact
      snatNewFlow_advances deciding (admitted.charged f carried undecided)
        admitted.translatable rekeyed result
  rw [Option.map_eq_some_iff] at result
  obtain ⟨⟨sent, next⟩, _, same⟩ := result
  rw [← congrArg Visit.flows same]
  exact Advances.refl shared

end Node

end DpService.Graph

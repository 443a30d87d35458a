import DpService.Dataplane.Roles
import DpService.Graph.World

/-!
# Where a packet can go next

For every node, the edges it uses and what it keeps of the data that later
nodes route a packet by.
-/

namespace DpService.Graph

open Foundations Packet Dataplane Flow Ipsec Nodes

structure Carries (before after : Mbuf) : Prop where
  port : after.port = before.port
  nxtHop : after.df.nxtHop = before.df.nxtHop
  direct : before.df.natType ≠ .lbRecirc → after.df.natType ≠ .lbRecirc
  conntrack : after.df.conntrack = before.df.conntrack
  length : after.df.l3PayloadLength = before.df.l3PayloadLength

namespace Carries

variable {first second third : Mbuf}

theorem refl (m : Mbuf) : Carries m m :=
  ⟨rfl, rfl, id, rfl, rfl⟩

theorem trans (before : Carries first second) (after : Carries second third) :
    Carries first third where
  port := after.port.trans before.port
  nxtHop := after.nxtHop.trans before.nxtHop
  direct := after.direct ∘ before.direct
  conntrack := after.conntrack.trans before.conntrack
  length := after.length.trans before.length

end Carries

/-! ## Translation of the destination -/

section Dnat

variable {env : NodeEnv} {store : FlowStore} {f : Handle} {m : Mbuf}
variable {value : FlowValue}

theorem changeDstIp_carries (env : NodeEnv) (m : Mbuf) (frame : Frame) (address : Ipv4) :
    Carries m (changeDstIp env m frame address) :=
  ⟨rfl, rfl, fun _ => nofun, rfl, rfl⟩

theorem setNatType_carries (m : Mbuf) : Carries m (setNatType m .chgUlDstIp) :=
  ⟨rfl, rfl, fun _ => nofun, rfl, rfl⟩

def dnatEdges : List Node :=
  [.drop, .packetRelay, .ipv4Lookup, .ipv6Lookup]

theorem lookupNode_mem (l3Type : UInt16) : lookupNode l3Type ∈ dnatEdges := by
  unfold lookupNode
  split
  · decide
  split
  · decide
  · decide

theorem dnatNewFlow_hop (env : NodeEnv) (rekeyed : Bool) (store : FlowStore) (f : Handle)
    (m : Mbuf) :
    Carries m (dnatNewFlow env rekeyed store f m).m ∧
      (dnatNewFlow env rekeyed store f m).next ∈ dnatEdges := by
  unfold dnatNewFlow
  split
  · exact ⟨Carries.refl m, by simp [dnatEdges]⟩
  split
  · unfold dnatNetworkNat
    split
    · exact ⟨Carries.refl m, by simp [dnatEdges]⟩
    split
    · exact ⟨Carries.refl m, by simp [dnatEdges]⟩
    · exact ⟨setNatType_carries m, by simp [dnatEdges]⟩
  unfold dnatVip
  dsimp only
  split
  · exact ⟨changeDstIp_carries env m _ _, by simp [dnatEdges]⟩
  · exact ⟨changeDstIp_carries env m _ _, by simp [dnatEdges]⟩

theorem dnatForward_carries {rewritten : Mbuf} (result : dnatForward env value m = some rewritten) :
    Carries m rewritten := by
  unfold dnatForward at result
  split at result
  · rw [Option.map_eq_some_iff] at result
    obtain ⟨address, _, same⟩ := result
    rw [← same]
    exact changeDstIp_carries env m _ _
  · rw [← Option.some_inj.mp result]
    exact Carries.refl m

theorem dnatAnswer_carries {rewritten : Mbuf} (result : dnatAnswer env value m = some rewritten) :
    Carries m rewritten := by
  unfold dnatAnswer at result
  split at result
  · rw [Option.bind_eq_some_iff] at result
    obtain ⟨address, _, restored⟩ := result
    rw [Option.map_eq_some_iff] at restored
    obtain ⟨frame, _, same⟩ := restored
    rw [← same]
    exact changeDstIp_carries env m _ _
  · rw [← Option.some_inj.mp result]
    exact Carries.refl m

theorem dpNatChgIpv4ToIpv6Hdr_df (dpdk : Dpdk) (df : DpFlow) (frame : Frame) (address : Ipv6) :
    (dpNatChgIpv4ToIpv6Hdr dpdk df frame address).1.nxtHop = df.nxtHop ∧
      (dpNatChgIpv4ToIpv6Hdr dpdk df frame address).1.natType = df.natType ∧
      (dpNatChgIpv4ToIpv6Hdr dpdk df frame address).1.conntrack = df.conntrack ∧
      (dpNatChgIpv4ToIpv6Hdr dpdk df frame address).1.l3PayloadLength = df.l3PayloadLength := by
  unfold dpNatChgIpv4ToIpv6Hdr
  dsimp only
  split
  · exact ⟨rfl, rfl, rfl, rfl⟩
  split
  · exact ⟨rfl, rfl, rfl, rfl⟩
  split
  · exact ⟨rfl, rfl, rfl, rfl⟩
  split
  · exact ⟨rfl, rfl, rfl, rfl⟩
  · exact ⟨rfl, rfl, rfl, rfl⟩

theorem dnatAnswer64_carries {rewritten : Mbuf}
    (result : dnatAnswer64 env value m = some rewritten) :
    Carries m rewritten := by
  unfold dnatAnswer64 at result
  dsimp only at result
  split at result
  · cases result
  rename_i address _
  split at result
  · cases result
  rename_i df frame translated
  rw [← Option.some_inj.mp result]
  have kept :=
    dpNatChgIpv4ToIpv6Hdr_df env.dpdk
      { m.df with natType := .nat64ChgDstIp, natAddr := m.df.dst.addr }
      (restoreSource64 value
        { m.df with natType := .nat64ChgDstIp, natAddr := m.df.dst.addr }
        m.frame)
      address
  rw [translated] at kept
  refine ⟨rfl, kept.1, fun _ => ?_, kept.2.2.1, kept.2.2.2⟩
  change df.natType ≠ .lbRecirc
  rw [kept.2.1]
  exact nofun

theorem dnatKnownFlow_hop (env : NodeEnv) (value : FlowValue) (m : Mbuf) :
    Carries m (dnatKnownFlow env value m).1 ∧ (dnatKnownFlow env value m).2 ∈ dnatEdges := by
  unfold dnatKnownFlow
  split
  · exact ⟨setNatType_carries m, by simp [dnatEdges]⟩
  split
  · exact ⟨Carries.refl m, by simp [dnatEdges]⟩
  split
  · exact ⟨Carries.refl m, by simp [dnatEdges]⟩
  rename_i rewritten result
  rw [Option.bind_eq_some_iff] at result
  obtain ⟨forwarded, forward, answer⟩ := result
  have carried := (dnatForward_carries forward).trans (dnatAnswer_carries answer)
  unfold dnatRewritten
  split
  · split
    · exact ⟨carried, by simp [dnatEdges]⟩
    · rename_i translated result
      exact ⟨carried.trans (dnatAnswer64_carries result), by simp [dnatEdges]⟩
  · exact ⟨carried, lookupNode_mem _⟩

theorem dnat_hop {rekeyed : Bool} {visit : Visit} (result : dnat env rekeyed store m = some visit) :
    Carries m visit.m ∧ visit.next ∈ dnatEdges := by
  rw [dnat, Option.map_eq_some_iff] at result
  obtain ⟨f, _, same⟩ := result
  dsimp only at same
  split at same
  · rw [← same]
    exact dnatNewFlow_hop env rekeyed store f m
  · rw [← same]
    exact dnatKnownFlow_hop env (store.value f) m

end Dnat

/-! ## Translation of the source -/

section Snat

variable {env : NodeEnv} {store : FlowStore} {f : Handle} {m : Mbuf}
variable {value : FlowValue} {port : Port}

theorem changeSrcIp_carries (env : NodeEnv) (m : Mbuf) (frame : Frame) :
    Carries m (changeSrcIp env m frame) :=
  ⟨rfl, rfl, fun _ => nofun, rfl, rfl⟩

theorem setSrc_carries (m : Mbuf) (src : UnionAddr) :
    Carries m { m with df := { m.df with src } } :=
  ⟨rfl, rfl, id, rfl, rfl⟩

theorem setNatPort_carries (m : Mbuf) (natPort : UInt16) : Carries m (setNatPort m natPort) :=
  ⟨rfl, rfl, id, rfl, rfl⟩

theorem expectAnswers_some {rekeyed : Bool} {natPort : Option UInt16} {after : FlowStore}
    {sent : Mbuf} (result : expectAnswers rekeyed store f m natPort = (after, some sent)) :
    sent = m := by
  unfold expectAnswers at result
  split at result
  · exact (Option.some_inj.mp (congrArg Prod.snd result)).symm
  cases congrArg Prod.snd result

theorem dpProcessIpv4Snat_carries {outcomes : SnatOutcomes} {data : SnatData} {after : FlowStore}
    {sent : Mbuf}
    (result : dpProcessIpv4Snat env outcomes store f m port data = (after, some sent)) :
    Carries m sent := by
  unfold dpProcessIpv4Snat at result
  dsimp only at result
  split at result
  · rw [expectAnswers_some result]
    exact changeSrcIp_carries env m _
  split at result
  · cases congrArg Prod.snd result
  · rw [expectAnswers_some result]
    exact (setNatPort_carries m _).trans (changeSrcIp_carries env _ _)

theorem dpNatChgIpv6ToIpv4Hdr_df {df : DpFlow} {frame : Frame} {natIp : Ipv4}
    {changed : DpFlow × Frame × Bool}
    (result : dpNatChgIpv6ToIpv4Hdr df frame natIp = some changed) :
    changed.1.nxtHop = df.nxtHop ∧ changed.1.natType = df.natType ∧
      changed.1.conntrack = df.conntrack ∧ changed.1.l3PayloadLength = df.l3PayloadLength := by
  unfold dpNatChgIpv6ToIpv4Hdr at result
  dsimp only at result
  split at result
  · rw [← Option.some_inj.mp result]
    exact ⟨rfl, rfl, rfl, rfl⟩
  split at result
  · rw [← Option.some_inj.mp result]
    exact ⟨rfl, rfl, rfl, rfl⟩
  split at result
  · rw [← Option.some_inj.mp result]
    exact ⟨rfl, rfl, rfl, rfl⟩
  split at result
  · rw [Option.map_eq_some_iff] at result
    obtain ⟨translated, _, same⟩ := result
    rw [← same]
    exact ⟨rfl, rfl, rfl, rfl⟩
  · rw [← Option.some_inj.mp result]
    exact ⟨rfl, rfl, rfl, rfl⟩

theorem changedToIpv4_df {df : DpFlow} {natIp : Ipv4} {changed : Mbuf}
    (result : changedToIpv4 df m natIp = some (some changed)) :
    changed.port = m.port ∧ changed.df.nxtHop = df.nxtHop ∧
      changed.df.natType = df.natType ∧ changed.df.conntrack = df.conntrack ∧
      changed.df.l3PayloadLength = df.l3PayloadLength := by
  unfold changedToIpv4 at result
  split at result
  · cases result
  · cases result
  rename_i translated
  have kept := dpNatChgIpv6ToIpv4Hdr_df translated
  rw [← Option.some_inj.mp (Option.some_inj.mp result)]
  exact ⟨rfl, kept⟩

theorem expectAnswers64_some {rekeyed : Bool} {vni : Vni} {dst natIp : Ipv4} {natPort : UInt16}
    {after : FlowStore} {sent : Mbuf}
    (result : expectAnswers64 rekeyed store f m vni dst natIp natPort = (after, some sent)) :
    sent = m := by
  unfold expectAnswers64 at result
  split at result
  · exact (Option.some_inj.mp (congrArg Prod.snd result)).symm
  cases congrArg Prod.snd result

theorem dpProcessIpv6Nat64_carries {outcomes : SnatOutcomes} {after : FlowStore} {sent : Mbuf}
    (result : dpProcessIpv6Nat64 env outcomes store f m port = some (after, some sent)) :
    Carries m sent := by
  unfold dpProcessIpv6Nat64 at result
  dsimp only at result
  split at result
  · cases result
  rw [Option.map_eq_some_iff] at result
  obtain ⟨changed, translated, same⟩ := result
  cases changed with
  | none => cases congrArg Prod.snd same
  | some packet => ?_
  have kept := changedToIpv4_df translated
  rw [expectAnswers64_some same]
  refine ⟨kept.1, kept.2.1, fun _ => ?_, kept.2.2.2.1, kept.2.2.2.2⟩
  change packet.df.natType ≠ .lbRecirc
  rw [kept.2.2.1]
  exact nofun

theorem snatForward_carries {rewritten : Mbuf} (result : snatForward env value m = some rewritten) :
    Carries m rewritten := by
  unfold snatForward at result
  split at result
  · rw [Option.map_eq_some_iff] at result
    obtain ⟨address, _, same⟩ := result
    dsimp only at same
    split at same
    · rw [← same]
      exact (setNatPort_carries m _).trans (changeSrcIp_carries env _ _)
    · rw [← same]
      exact changeSrcIp_carries env m _
  · rw [← Option.some_inj.mp result]
    exact Carries.refl m

theorem snatAnswer_carries {rewritten : Mbuf} (result : snatAnswer env value m = some rewritten) :
    Carries m rewritten := by
  unfold snatAnswer at result
  split at result
  · rw [Option.map_eq_some_iff] at result
    obtain ⟨address, _, same⟩ := result
    rw [← same]
    exact (setSrc_carries m _).trans (changeSrcIp_carries env _ _)
  · rw [← Option.some_inj.mp result]
    exact Carries.refl m

theorem snatForward64_carries {rewritten : Mbuf}
    (result : snatForward64 port value m = some (some rewritten)) :
    Carries m rewritten := by
  unfold snatForward64 at result
  split at result
  · rw [Option.map_eq_some_iff] at result
    obtain ⟨changed, translated, same⟩ := result
    rw [Option.map_eq_some_iff] at same
    obtain ⟨packet, present, same⟩ := same
    rw [present] at translated
    have kept := changedToIpv4_df translated
    rw [← same]
    dsimp only
    split
    · exact ⟨kept.1, kept.2.1, fun _ => nofun, kept.2.2.2.1, kept.2.2.2.2⟩
    · exact ⟨kept.1, kept.2.1, fun _ => nofun, kept.2.2.2.1, kept.2.2.2.2⟩
  · rw [← Option.some_inj.mp (Option.some_inj.mp result)]
    exact Carries.refl m

def snatEdges : List Node :=
  [.drop, .firewall]

theorem snatKnownFlow_hop {rewritten : Mbuf} {next : Node}
    (result : snatKnownFlow env port value m = some (rewritten, next)) :
    Carries m rewritten ∧ next ∈ snatEdges := by
  unfold snatKnownFlow at result
  split at result
  · cases result
    exact ⟨Carries.refl m, by simp [snatEdges]⟩
  rename_i sourced within
  rw [Option.bind_eq_some_iff] at within
  obtain ⟨forwarded, forward, answer⟩ := within
  have carried := (snatForward_carries forward).trans (snatAnswer_carries answer)
  rw [Option.map_eq_some_iff] at result
  obtain ⟨changed, translated, same⟩ := result
  cases changed with
  | none =>
    cases same
    exact ⟨carried, by simp [snatEdges]⟩
  | some packet => ?_
  cases same
  exact
    ⟨carried.trans (snatForward64_carries translated),
      by simp [snatEdges]⟩

theorem snatNewFlow_hop {outcomes : SnatOutcomes} {visit : Visit}
    (result : snatNewFlow env outcomes store f m port = some visit) :
    Carries m visit.m ∧ visit.next ∈ snatEdges := by
  unfold snatNewFlow at result
  split at result
  · split at result
    · cases result
      exact ⟨Carries.refl m, by simp [snatEdges]⟩
    rename_i translated
    have carried := dpProcessIpv4Snat_carries translated
    rw [Option.map_eq_some_iff] at result
    obtain ⟨⟨packet, next⟩, known, same⟩ := result
    cases same
    have hop := snatKnownFlow_hop known
    exact ⟨carried.trans hop.1, hop.2⟩
  split at result
  · rw [Option.map_eq_some_iff] at result
    obtain ⟨⟨after, changed⟩, translated, same⟩ := result
    cases changed with
    | none =>
      cases same
      exact ⟨Carries.refl m, by simp [snatEdges]⟩
    | some packet =>
      cases same
      exact ⟨dpProcessIpv6Nat64_carries translated, by simp [snatEdges]⟩
  rw [Option.map_eq_some_iff] at result
  obtain ⟨⟨packet, next⟩, known, same⟩ := result
  cases same
  exact snatKnownFlow_hop known

theorem snat_hop {outcomes : SnatOutcomes} {red : Bool} {visit : Visit}
    (result : snat env outcomes red store m = some visit) :
    Carries m visit.m ∧ visit.next ∈ snatEdges := by
  unfold snat at result
  dsimp only at result
  split at result
  · cases result
    exact ⟨Carries.refl m, by simp [snatEdges]⟩
  rw [Option.bind_eq_some_iff] at result
  obtain ⟨f, _, result⟩ := result
  split at result
  · exact snatNewFlow_hop result
  rw [Option.map_eq_some_iff] at result
  obtain ⟨⟨packet, next⟩, known, same⟩ := result
  cases same
  exact snatKnownFlow_hop known

end Snat

/-! ## Lookups, firewall and relay -/

section Forwarding

variable {env : NodeEnv} {store : FlowStore} {m : Mbuf}

theorem dpGetPortById_isPf {tables : Tables} {id : PortId} {port : Port}
    (found : dpGetPortById tables.ports id = some port) :
    tables.isPf port.portId = port.isPf := by
  rw [portId_of_dpGetPortById found]
  exact Tables.isPf_of_found found

/-- A lookup drops a packet or chooses its port.  A packet from a PF goes to a
VF. -/
structure Routed (tables : Tables) (before after : Mbuf) : Prop where
  port : after.port = before.port
  natType : after.df.natType = before.df.natType
  nxtHop : tables.isPf before.port = true → tables.isPf after.df.nxtHop = false
  conntrack : after.df.conntrack = before.df.conntrack
  length : after.df.l3PayloadLength = before.df.l3PayloadLength

theorem forwardRouted_hop (strayVni : Vni) (etherType : UInt16) (viaPf : Port → Port)
    {found : Option RibNode} :
    (forwardRouted env strayVni etherType viaPf (routedPort env.tables found) m = (m, .drop)) ∨
      (forwardRouted env strayVni etherType viaPf (routedPort env.tables found) m).2 = .snat ∧
        Routed env.tables m
          (forwardRouted env strayVni etherType viaPf (routedPort env.tables found) m).1 := by
  unfold forwardRouted
  split
  · exact Or.inl rfl
  rename_i outPort node routed
  have registered : ∃ id, dpGetPortById env.tables.ports id = some outPort := by
    unfold routedPort at routed
    split at routed
    · cases routed
    split at routed
    · cases routed
    rename_i port held
    cases routed
    exact ⟨_, held⟩
  obtain ⟨id, held⟩ := registered
  dsimp only
  split
  · split
    · exact Or.inl rfl
    rename_i fromVf
    rw [dpGetInPort_isPf] at fromVf
    refine Or.inr ⟨rfl, rfl, rfl, ?_, rfl, rfl⟩
    intro fromPf
    exact absurd fromPf fromVf
  rename_i toVf
  refine Or.inr ⟨rfl, rfl, rfl, ?_, rfl, rfl⟩
  intro _
  change env.tables.isPf outPort.portId = false
  rw [dpGetPortById_isPf held]
  exact Bool.eq_false_of_not_eq_true toVf

theorem firewall_hop {visit : Visit} (result : firewall env store m = some visit) : visit.m = m ∧
      (visit.next = .ipipEncap ∧ env.tables.isPf m.df.nxtHop = true ∨
        ∃ id, visit.next = env.tables.nextVfTx id) := by
  rw [firewall, Option.map_eq_some_iff] at result
  obtain ⟨f, _, same⟩ := result
  rw [← same]
  refine ⟨rfl, ?_⟩
  dsimp only
  split
  · rename_i toPf
    rw [dpGetOutPort_isPf] at toPf
    exact Or.inl ⟨rfl, toPf⟩
  · exact Or.inr ⟨_, rfl⟩

structure Relayed (before after : Mbuf) : Prop where
  port : after.port = before.port
  natType : after.df.natType = before.df.natType
  conntrack : after.df.conntrack = before.df.conntrack

theorem packetRelay_hop {relayed : Mbuf × Node} (result : packetRelay env store m = some relayed) :
    Relayed m relayed.1 ∧ (relayed.2 = .drop ∨ relayed.2 = .ipipEncap) := by
  rw [packetRelay, Option.map_eq_some_iff] at result
  obtain ⟨f, _, same⟩ := result
  rw [← same]
  dsimp only
  split
  · exact ⟨⟨rfl, rfl, rfl⟩, Or.inr rfl⟩
  split
  · unfold lbNnatIcmpReply
    split
    · exact ⟨⟨rfl, rfl, rfl⟩, Or.inl rfl⟩
    · exact ⟨⟨rfl, rfl, rfl⟩, Or.inr rfl⟩
  split
  · unfold lbNnatIcmpv6Reply
    split
    · exact ⟨⟨rfl, rfl, rfl⟩, Or.inl rfl⟩
    · exact ⟨⟨rfl, rfl, rfl⟩, Or.inr rfl⟩
  · exact ⟨⟨rfl, rfl, rfl⟩, Or.inl rfl⟩

end Forwarding

/-! ## Load balancing -/

section Lb

variable {env : NodeEnv} {store : FlowStore} {m : Mbuf}

/-- `lb` passes a packet on, drops it, has it answered, or sends it to a
target. -/
inductive Balanced (m : Mbuf) : Mbuf → Node → Prop
  | passed : Balanced m m .dnat
  | dropped : Balanced m m .drop
  | answered : Balanced m (setNatType m .chgUlDstIp) .packetRelay
  | sent (packet : Mbuf) (port : packet.port = m.port)
      (conntrack : packet.df.conntrack = m.df.conntrack) :
      Balanced m packet .ipipEncap

theorem dpLbSetNextHop_conntrack (vnfs : VnfTables) (df : DpFlow) (portId : PortId) :
    (dpLbSetNextHop vnfs df portId).conntrack = df.conntrack := by
  unfold dpLbSetNextHop
  split
  · rfl
  · rfl

theorem lb_balanced {visit : Visit} (result : lb env store m = some visit) :
    Balanced m visit.m visit.next := by
  unfold lb at result
  split at result
  · rw [← Option.some_inj.mp result]
    exact .passed
  rw [Option.map_eq_some_iff] at result
  obtain ⟨f, _, same⟩ := result
  rw [← same]
  dsimp only
  split
  · unfold lbNewFlow
    split
    · exact .answered
    split
    · exact .dropped
    split
    · exact .dropped
    · exact .sent _ rfl (dpLbSetNextHop_conntrack ..)
  split
  · exact .sent _ rfl (dpLbSetNextHop_conntrack ..)
  split
  · exact .answered
  · exact .passed

end Lb

/-! ## Connection tracking -/

section Conntrack

variable {env : NodeEnv} {m : Mbuf}

/-- What the tunnel said about a packet, which the nodes up to `conntrack`
keep. -/
structure SameTunnel (before after : Mbuf) : Prop where
  port : after.port = before.port
  ulDst : after.df.tunInfo.ulDstAddr6 = before.df.tunInfo.ulDstAddr6
  natType : after.df.natType = before.df.natType
  vnfType : after.df.vnfType = before.df.vnfType
  nxtHop : after.df.nxtHop = before.df.nxtHop
  resolved : after.df.tunDstResolved = before.df.tunDstResolved
  length : after.df.l3PayloadLength = before.df.l3PayloadLength

namespace SameTunnel

variable {first second third : Mbuf}

theorem refl (m : Mbuf) : SameTunnel m m :=
  ⟨rfl, rfl, rfl, rfl, rfl, rfl, rfl⟩

theorem trans (before : SameTunnel first second) (after : SameTunnel second third) :
    SameTunnel first third where
  port := after.port.trans before.port
  ulDst := after.ulDst.trans before.ulDst
  natType := after.natType.trans before.natType
  vnfType := after.vnfType.trans before.vnfType
  nxtHop := after.nxtHop.trans before.nxtHop
  resolved := after.resolved.trans before.resolved
  length := after.length.trans before.length

end SameTunnel

theorem extractHeaders_tunnel (m : Mbuf) : SameTunnel m (extractHeaders m).1 := by
  obtain ⟨_, _, _, _, same, _⟩ := extractHeaders_eq m
  rw [same]
  exact ⟨rfl, rfl, rfl, rfl, rfl, rfl, rfl⟩

theorem dpGetFlowVal_tunnel (env : NodeEnv) (outcomes : ConntrackOutcomes) (store : FlowStore)
    (m : Mbuf) :
    SameTunnel m { m with df := (dpGetFlowVal env outcomes store m).2.1 } := by
  unfold dpGetFlowVal
  split
  dsimp only
  split
  · exact SameTunnel.refl m
  split
  · exact ⟨rfl, rfl, rfl, rfl, rfl, rfl, rfl⟩
  · exact ⟨rfl, rfl, rfl, rfl, rfl, rfl, rfl⟩
  split
  · exact SameTunnel.refl m
  · exact ⟨rfl, rfl, rfl, rfl, rfl, rfl, rfl⟩

theorem dpCntrackHandle_tunnel (env : NodeEnv) (outcomes : ConntrackOutcomes) (store : FlowStore)
    (m : Mbuf) :
    SameTunnel m (dpCntrackHandle env outcomes store m).2.1 := by
  have kept := dpGetFlowVal_tunnel env outcomes store m
  unfold dpCntrackHandle
  split
  · rename_i result
    rw [result] at kept
    exact kept
  rename_i after df f result
  rw [result] at kept
  dsimp only
  split
  · exact kept
  · exact
      ⟨kept.port, kept.ulDst, kept.natType, kept.vnfType, kept.nxtHop, kept.resolved, kept.length⟩

theorem conntrack_hop (env : NodeEnv) (outcomes : ConntrackOutcomes) (store : FlowStore)
    (m : Mbuf) :
    SameTunnel m (conntrack env outcomes store m).2.1 ∧
      ((conntrack env outcomes store m).2.2 = .drop ∨ (conntrack env outcomes store m).2.2 = .dhcp ∨
        (conntrack env outcomes store m).2.2 = .dhcpv6 ∨
        (conntrack env outcomes store m).2.2 =
          conntrackNext env.tables (conntrack env outcomes store m).2.1) := by
  have read := extractHeaders_tunnel m
  have kept := dpCntrackHandle_tunnel env outcomes store (extractHeaders m).1
  rcases conntrack_cases env outcomes store m with ⟨next, early, same⟩ | ⟨_, _, ok, handled, same⟩
  · rw [same]
    refine ⟨read, ?_⟩
    rcases early with dropped | dhcp | dhcpv6
    · exact Or.inl dropped
    · exact Or.inr (Or.inl dhcp)
    · exact Or.inr (Or.inr (Or.inl dhcpv6))
  rw [handled] at kept
  rw [same]
  cases ok with
  | false => exact ⟨read.trans kept, Or.inl rfl⟩
  | true => exact ⟨read.trans kept, Or.inr (Or.inr (Or.inr rfl))⟩

end Conntrack

end DpService.Graph

import DpService.Graph.Protection

/-!
# The way of a packet

A packet from an interface that is routed to the underlay gets the PF that it
leaves by.  `ipv4_lookup` asks for a PF whose link is up, and `ipv6_lookup`
takes the one of the route.
-/

namespace DpService.Graph

open Foundations Packet Dataplane Flow Ipsec Nodes

/-! ## The uplink -/

def linkUp (tables : Tables) (id : PortId) : Bool :=
  (dpGetPortById tables.ports id).any Port.linkUp

def lookupRoute (env : NodeEnv) (m : Mbuf) : Node → Option (Port × RibNode)
  | .ipv4Lookup =>
    dpGetIp4OutPort env.tables env.network (dpGetInPort env.tables.ports m) m.df.tunInfo.dstVni m.df
  | .ipv6Lookup =>
    let inPort := dpGetInPort env.tables.ports m
    dpGetIp6OutPort env.tables env.network inPort
      (if inPort.isPf then m.df.tunInfo.dstVni else 0) m.df
  | _ => none

section Uplink

variable {tables : Tables} {id : PortId} {port : Port}

theorem linkUp_of_found (found : dpGetPortById tables.ports id = some port) :
    linkUp tables port.portId = port.linkUp := by
  rw [portId_of_dpGetPortById found, linkUp, found]
  rfl

theorem linkUp_absent (tables : Tables) (id : PortId) :
    ((dpGetPortById tables.ports id).getD Port.absent).linkUp = linkUp tables id := by
  rw [linkUp]
  cases dpGetPortById tables.ports id with
  | none => rfl
  | some port => rfl

theorem linkUp_portId (up : linkUp tables id = true) :
    linkUp tables ((dpGetPortById tables.ports id).getD Port.absent).portId = true := by
  have held := up
  rw [linkUp, Option.any_eq_true] at held
  obtain ⟨port, found, portUp⟩ := held
  rw [found, Option.getD_some, linkUp_of_found found]
  exact portUp

theorem dpMultipathGetPf_linkUp
    (up : linkUp tables tables.pf0 = true ∨ linkUp tables tables.pf1 = true) (hash : UInt32) :
    linkUp tables (dpMultipathGetPf tables hash).portId = true := by
  unfold dpMultipathGetPf
  dsimp only
  rw [linkUp_absent, linkUp_absent]
  split
  · split
    · rename_i ownerUp
      exact linkUp_portId ownerUp
    · rename_i ownerDown
      exact linkUp_portId (up.resolve_left ownerDown)
  rename_i slots _
  generalize decide (slots ≤ hash.toNat % portSelectTableSize) = selectsPeer
  -- the other PF is only taken when its link is up or the first link is down
  cases selectsPeer with
  | true =>
    split
    · rename_i peer
      exact linkUp_portId (by simpa using peer)
    · rename_i peerDown
      exact linkUp_portId (up.resolve_right (by simpa using peerDown))
  | false =>
    split
    · rename_i ownerDown
      exact linkUp_portId (up.resolve_left (by simpa using ownerDown))
    · rename_i ownerUp
      exact linkUp_portId (by simpa using ownerUp)

theorem forwardRouted_nxtHop {env : NodeEnv} {m : Mbuf} {rib : RibNode}
    (external : port.isPf = true) (vf : env.tables.isPf m.port = false) (strayVni : Vni)
    (etherType : UInt16) (viaPf : Port → Port) :
    (forwardRouted env strayVni etherType viaPf (some (port, rib)) m).1.df.nxtHop =
      (viaPf port).portId := by
  rw [← dpGetInPort_isPf] at vf
  rw [forwardRouted]
  dsimp only
  rw [if_pos external, vf]
  rfl

end Uplink

theorem uplink_linkUp_iff {env : NodeEnv} {outcomes : NodeOutcomes} {flows : FlowStore} {m : Mbuf}
    {node : Node} {outPort : Port} {rib : RibNode} {tables : Tables} {visit : Visit}
    (route : lookupRoute env m node = some (outPort, rib)) (external : outPort.isPf = true)
    (vf : env.tables.isPf m.port = false)
    (up : linkUp env.tables env.tables.pf0 = true ∨ linkUp env.tables env.tables.pf1 = true)
    (moved : processNode env outcomes flows m node = .moved tables visit) :
    linkUp env.tables visit.m.df.nxtHop = true ↔
      node = .ipv4Lookup ∨ outPort.linkUp = true := by
  cases node with
  | ipv4Lookup =>
    cases moved
    refine iff_of_true ?_ (Or.inl rfl)
    change dpGetIp4OutPort _ _ _ _ _ = _ at route
    dsimp only
    rw [ipv4Lookup, route, forwardRouted_nxtHop external vf]
    exact dpMultipathGetPf_linkUp up _
  | ipv6Lookup =>
    cases moved
    change dpGetIp6OutPort _ _ _ _ _ = _ at route
    have chosen : (ipv6Lookup env outcomes.strayVni m).1.df.nxtHop = outPort.portId := by
      rw [ipv6Lookup, route, forwardRouted_nxtHop external vf]
      rfl
    dsimp only
    rw [chosen, or_iff_right nofun]
    unfold dpGetIp6OutPort routedPort at route
    split at route
    · cases route
    split at route
    · cases route
    rename_i found
    cases route
    rw [linkUp_of_found found]
  | _ => cases route

def pf0Down : World :=
  let world := (hostMachine hostConf).run [createGuest false]
  { world with
    tables :=
      { world.tables with
        ports := world.tables.ports.update { hostPort true 0 "pf0" with linkUp := false } } }

def datagram6 : Frame :=
  frameOf ptypeL3Ipv6
    (etherHdr etherTypeIpv6 ++ outerIpv6Hdr 8 ipprotoUdp peerUnderlay natUnderlay ++
      [0x0f, 0xa0, 0, 53, 0, 8, 0, 0])

def guestMbuf : Mbuf :=
  mbufOn 2 datagram6

/-- With the link of the first PF down, IPv6 packets are still sent there. -/
theorem pf0Down_ipv6 :
    linkUp pf0Down.tables pf0Down.tables.pf1 = true ∧
      (lookupRoute (pf0Down.env zeroDpdk) guestMbuf .ipv6Lookup).any
          (fun route => route.1.isPf) = true ∧
      linkUp pf0Down.tables (ipv6Lookup (pf0Down.env zeroDpdk) 0 guestMbuf).1.df.nxtHop =
        false :=
  ⟨by decide +kernel, by decide +kernel, by decide +kernel⟩

theorem uplink_ipv4 :
    linkUp pf0Down.tables (ipv4Lookup (pf0Down.env zeroDpdk) 0 guestMbuf).1.df.nxtHop = true := by
  have routed :
      (lookupRoute (pf0Down.env zeroDpdk) guestMbuf .ipv4Lookup).any
          (fun route => route.1.isPf) = true := by
    decide +kernel
  obtain ⟨⟨outPort, rib⟩, route, external⟩ := (Option.any_eq_true _ _).mp routed
  exact
    (@uplink_linkUp_iff (pf0Down.env zeroDpdk) NodeOutcomes.succeed FlowStore.empty guestMbuf
      .ipv4Lookup outPort rib _ _ route external (by decide +kernel)
      (Or.inr (by decide +kernel)) rfl).mpr
      (Or.inl rfl)

end DpService.Graph

import DpService.Graph.Tracking

/-!
# Packets in flight

An invariant of the packet graph says of every packet in flight what the node
it waits at may rely on.  What a node can do with a packet and what an event
does to the packets is the same for all such invariants, and is said here
once.
-/

namespace DpService.Graph

open Foundations Packet Dataplane Flow Ipsec Nodes

/-! ## What a node can do -/

section Nodes

variable {env : NodeEnv} {outcomes : NodeOutcomes} {flows : FlowStore}
variable {m : Mbuf} {node : Node}

theorem ipipEncap_conntrack (tables : Tables) (m : Mbuf) :
    (ipipEncap tables m).1.df.conntrack = m.df.conntrack := by
  rw [ipipEncap]
  split
  · rfl
  dsimp only
  split
  · rfl
  · rfl

theorem ipipEncap_next (tables : Tables) (m : Mbuf) :
    (ipipEncap tables m).2 = .cls ∨ awaits (ipipEncap tables m).2 = false := by
  rw [ipipEncap]
  split
  · exact Or.inr rfl
  dsimp only
  split
  · exact Or.inr rfl
  rw [ipipEncapNext]
  split
  · exact Or.inl rfl
  apply Or.inr
  split
  · rcases Tables.nextIpsec_cases tables m.df.nxtHop with drop | ipsec
    · rw [drop]
      rfl
    · rw [ipsec]
      rfl
  rcases Tables.nextPfTx_cases tables m.df.nxtHop with drop | tx
  · rw [drop]
    rfl
  · rw [tx]
    rfl

theorem asserted_ne_gone (tables : Tables) (visited : Option Visit) (flows : FlowStore) :
    NodeResult.asserted tables visited ≠ .gone flows := by
  cases visited with
  | none => exact nofun
  | some visit => exact nofun

/-- The moves of a packet from a node.  Apart from those at `cls`, a node that
leaves the flows alone leaves the packet its flow, or starts it again. -/
inductive Moves
    (env : NodeEnv) (outcomes : NodeOutcomes) (flows : FlowStore) (m : Mbuf) :
    Node → Visit → Prop
  | fresh (packet : Mbuf) (next : Node) (untracked : packet.df.conntrack = none)
      (elsewhere : awaits next = false) :
      Moves env outcomes flows m .cls ⟨flows, packet, next⟩
  | stopped (packet : Mbuf) :
      Moves env outcomes flows m .cls ⟨flows, packet, .drop⟩
  | again (node : Node) (packet : Mbuf) :
      Moves env outcomes flows m node ⟨flows, packet, .cls⟩
  | passed {node : Node} (packet : Mbuf) (next : Node) (notCls : node ≠ .cls)
      (notDrop : node ≠ .drop)
      (conntrack : packet.df.conntrack = m.df.conntrack)
      (elsewhere : awaits next = false) :
      Moves env outcomes flows m node ⟨flows, packet, next⟩
  | conntrack :
      Moves env outcomes flows m .conntrack
        ⟨(conntrack env outcomes.conntrack flows m).1,
          (conntrack env outcomes.conntrack flows m).2.1,
          (conntrack env outcomes.conntrack flows m).2.2⟩
  | lb {visit : Visit} (ran : lb env flows m = some visit) :
      Moves env outcomes flows m .lb visit
  | dnat {visit : Visit}
      (ran : dnat env outcomes.rekeyed flows m = some visit) :
      Moves env outcomes flows m .dnat visit
  | routed {node : Node} (etherType : UInt16) (viaPf : Port → Port)
      (found : Option (Port × RibNode)) (notCls : node ≠ .cls)
      (notDrop : node ≠ .drop) (waits : awaits node = true) :
      Moves env outcomes flows m node
        ⟨flows, (forwardRouted env outcomes.strayVni etherType viaPf found m).1,
          (forwardRouted env outcomes.strayVni etherType viaPf found m).2⟩
  | snat {visit : Visit}
      (ran : snat env outcomes.snat outcomes.red flows m = some visit) :
      Moves env outcomes flows m .snat visit
  | firewall {visit : Visit} (ran : firewall env flows m = some visit) :
      Moves env outcomes flows m .firewall visit

theorem cls_moves (env : NodeEnv) (outcomes : NodeOutcomes) (m : Mbuf) :
    Moves env outcomes flows m .cls ⟨flows, (cls env.tables m).1, (cls env.tables m).2⟩ := by
  generalize classified : cls env.tables m = result
  have cases := cls_classified env.tables m
  rw [classified] at cases
  cases cases with
  | dropped df => exact .stopped _
  | arp => exact .fresh _ _ rfl rfl
  | neighbour => exact .fresh _ _ rfl rfl
  | guest => exact .fresh _ _ rfl rfl
  | encrypted => exact .fresh _ _ rfl rfl
  | clearResolved => exact .fresh _ _ rfl rfl
  | clearUnresolved => exact .fresh _ _ rfl rfl

theorem processNode_moves {tables : Tables} {visit : Visit}
    (result : processNode env outcomes flows m node = .moved tables visit) :
    Moves env outcomes flows m node visit := by
  cases node with
  | drop | tx port | ipsecDecap | ipsecEncap => cases result
  | cls =>
    cases result
    exact cls_moves env outcomes m
  | arp | ipv6Nd | dhcp | dhcpv6 =>
    cases result
    split
    · exact .passed _ _ nofun nofun rfl rfl
    · exact .passed _ _ nofun nofun rfl (awaits_nextVfTx env.tables m.port)
  | ipipDecap =>
    cases result
    refine .passed _ _ nofun nofun (ipipDecap_conntrack env.tables m) ?_
    rcases (ipipDecap_hop env.tables m).1 with drop | conntrack
    · exact congrArg awaits drop
    · exact congrArg awaits conntrack
  | conntrack =>
    cases result
    exact .conntrack
  | lb => exact .lb (moved_of_asserted result).2
  | dnat => exact .dnat (moved_of_asserted result).2
  | ipv4Lookup | ipv6Lookup =>
    cases result
    exact .routed _ _ _ nofun nofun rfl
  | snat => exact .snat (moved_of_asserted result).2
  | firewall => exact .firewall (moved_of_asserted result).2
  | packetRelay =>
    obtain ⟨-, same, ran⟩ := moved_of_packetRelay result
    obtain ⟨kept, edge⟩ := packetRelay_hop ran
    rw [show visit = ⟨flows, visit.m, visit.next⟩ by rw [← same]]
    refine .passed _ _ nofun nofun kept.conntrack ?_
    rcases edge with drop | encap
    · exact congrArg awaits drop
    · exact congrArg awaits encap
  | ipipEncap =>
    cases result
    rcases ipipEncap_next env.tables m with recirculated | elsewhere
    · rw [recirculated]
      exact .again _ _
    · exact .passed _ _ nofun nofun (ipipEncap_conntrack env.tables m) elsewhere

theorem processNode_leaves {after : FlowStore}
    (result : processNode env outcomes flows m node = .gone after) :
    (node = .drop ∧ after = flows) ∨ ∃ port, node = .tx port ∧
        after = tx env.tables.conf outcomes.rules flows m := by
  cases node with
  | drop =>
    cases result
    exact Or.inl ⟨rfl, rfl⟩
  | tx port =>
    cases result
    exact Or.inr ⟨port, rfl, rfl⟩
  | lb | dnat | snat | firewall =>
    exact absurd result (asserted_ne_gone _ _ _)
  | packetRelay =>
    rw [processNode] at result
    split at result
    · cases result
    cases result
  | cls | arp | ipv6Nd | dhcp | dhcpv6 | ipsecDecap | ipsecEncap | ipipDecap
    | conntrack | ipv4Lookup | ipv6Lookup | ipipEncap => cases result

theorem awaits_ipsecNext (tables : Tables) (dir : IpsecDir) (m : Mbuf) :
    awaits ((ipsecNode tables dir).next m) = false := by
  cases dir with
  | egress =>
    change awaits (ipsecEncapNext tables m) = false
    rw [ipsecEncapNext]
    split
    · rfl
    rcases tables.nextPfTx_cases m.df.nxtHop with drop | tx
    · rw [drop]
      rfl
    · rw [tx]
      rfl
  | ingress =>
    change awaits (ipsecDecapNext m) = false
    rw [ipsecDecapNext]
    split
    · rfl
    · rfl

theorem ipsecNodeName_beyond (dir : IpsecDir) :
    ipsecNodeName dir ≠ .cls ∧ ipsecNodeName dir ≠ .drop := by
  cases dir with
  | egress => exact ⟨nofun, nofun⟩
  | ingress => exact ⟨nofun, nofun⟩

end Nodes

variable {At Next : Mbuf → Node → Prop} {world : World}

def InFlight (At : Mbuf → Node → Prop) (world : World) : Prop :=
  ∀ id flight, world.flights.lookup id = some flight → At (world.mbufs id) flight.node

theorem InFlight.each (inFlight : InFlight At world) :
    EachFlight (fun flight m => At m flight.node) world :=
  inFlight

theorem InFlight.gone (inFlight : InFlight At world) (others : ∀ m node, At m node → Next m node)
    (flows : FlowStore) (id : MbufId) :
    InFlight Next
      { world with flows, flights := world.flights.erase id } :=
  inFlight.each.gone (fun flight m => others m flight.node) flows id

theorem InFlight.moved (inFlight : InFlight At world) (others : ∀ m node, At m node → Next m node)
    {visit : Visit} (here : Next visit.m visit.next) (id : MbufId)
    (flight : Flight) (tables : Tables) :
    InFlight Next (world.moved id flight tables visit) :=
  inFlight.each.moved (fun flight m => others m flight.node) here id tables

theorem InFlight.receive (inFlight : InFlight At world) (start : ∀ m, At m .cls) (id : MbufId)
    (frame : Frame) (port : PortId) :
    InFlight At (world.receive id frame port) :=
  inFlight.each.receive id fun m _ _ => start m

theorem InFlight.ipsecBurst (inFlight : InFlight At world) (dir : IpsecDir)
    (crypto : { env : CryptoEnv // env.Lawful }) (opPool : List OpId)
    (objs : List MbufId)
    (passes : ∀ before after : Mbuf, At before (ipsecNodeName dir) →
      after.df.conntrack = before.df.conntrack →
        ∀ {next : Node}, awaits next = false → At after next) :
    InFlight At (world.ipsecBurst dir crypto.1 opPool objs) := by
  apply inFlight.each.ipsecBurst
  intro id member flight result waits spec here
  rw [waits] at here
  exact passes _ _ here (burst_conntrack spec member) (awaits_ipsecNext world.tables dir _)

theorem InFlight.of_quiet (start : ∀ m, At m .cls) (quiet : world.quiet = true) {after : World}
    (flights : after.flights = world.flights) : InFlight At after := by
  intro id flight held
  rw [flights] at held
  rw [World.node_of_quiet quiet held]
  exact start _

end DpService.Graph

import DpService.Graph.Flights
import DpService.Graph.Guidance
import DpService.Graph.Symmetry
import DpService.Nodes.Effects

/-!
# No reference outlives its flow

Packets, aging and requests free a flow only when nothing refers to it any
more, whatever insertions and allocations fail on the way.  The exception is a
flow that a removal takes one of the two entries from before anybody has
decided about it.
-/

namespace DpService.Graph

open Foundations Packet Dataplane Flow Ipsec Nodes

/-- A packet at a node behind `cls` has a flow that is there. -/
def HoldsAt (store : FlowStore) (m : Mbuf) (node : Node) : Prop :=
  node = .cls ∨ node = .drop ∨ Holds store m

structure Lived (world : World) : Prop where
  sustained : Sustained world.flows
  packets : InFlight (HoldsAt world.flows) world

theorem HoldsAt.outlast {before after : FlowStore} (outlasts : Outlasts before after) (m : Mbuf)
    (node : Node) (holds : HoldsAt before m node) :
    HoldsAt after m node := by
  rcases holds with cls | drop | beyond
  · exact Or.inl cls
  · exact Or.inr (Or.inl drop)
  · exact Or.inr (Or.inr (beyond.outlast outlasts))

theorem HoldsAt.cls (store : FlowStore) (m : Mbuf) : HoldsAt store m .cls :=
  Or.inl rfl

theorem HoldsAt.of_conntrack {before after : FlowStore} {m packet : Mbuf} (holds : Holds before m)
    (outlasts : Outlasts before after)
    (conntrack : packet.df.conntrack = m.df.conntrack) (node : Node) :
    HoldsAt after packet node := by
  refine Or.inr (Or.inr ?_)
  intro f carried
  exact holds.outlast outlasts f (conntrack ▸ carried)

/-! ## One node -/

section Nodes

variable {env : NodeEnv} {outcomes : NodeOutcomes} {flows : FlowStore}
variable {m : Mbuf} {node : Node}

theorem processNode_lasts {tables : Tables} {visit : Visit} (sustained : Sustained flows)
    (holds : HoldsAt flows m node)
    (result : processNode env outcomes flows m node = .moved tables visit) :
    Lasts flows visit.flows ∧ HoldsAt visit.flows visit.m visit.next := by
  have same := lasts_of_unmoved sustained (Unmoved.refl flows)
  have beyond : node ≠ .cls → node ≠ .drop → Holds flows m :=
    fun notCls notDrop => (holds.resolve_left notCls).resolve_left notDrop
  cases processNode_moves result with
  | fresh packet next untracked =>
    refine ⟨same, Or.inr (Or.inr ?_)⟩
    intro f carried
    rw [untracked] at carried
    cases carried
  | stopped => exact ⟨same, Or.inr (Or.inl rfl)⟩
  | again => exact ⟨same, Or.inl rfl⟩
  | passed packet next notCls notDrop conntrack =>
    have held := beyond notCls notDrop
    exact ⟨same, .of_conntrack held same.outlasts conntrack next⟩
  | conntrack =>
    have handled := conntrack_lasts sustained env outcomes.conntrack (beyond nofun nofun)
    exact ⟨handled.1, Or.inr (Or.inr handled.2)⟩
  | lb ran =>
    have lasts := lasts_of_unmoved sustained (lb_effect ran)
    exact ⟨lasts, .of_conntrack (beyond nofun nofun) lasts.outlasts (lb_conntrack ran).2 _⟩
  | dnat ran =>
    have held := beyond nofun nofun
    have lasts := (dnat_effect ran).lasts sustained held
    exact ⟨lasts, .of_conntrack held lasts.outlasts (dnat_hop ran).1.conntrack _⟩
  | routed etherType viaPf found notCls notDrop =>
    have next := @forwardRouted_next env m outcomes.strayVni etherType viaPf found
    exact ⟨same, .of_conntrack (beyond notCls notDrop) same.outlasts next.2 _⟩
  | snat ran =>
    have held := beyond nofun nofun
    have lasts := (snat_effect ran).lasts sustained held
    exact ⟨lasts, .of_conntrack held lasts.outlasts (snat_hop ran).1.conntrack _⟩
  | firewall ran =>
    have lasts := lasts_of_unmoved sustained (firewall_effect ran).toUnmoved
    have packet := (firewall_hop ran).1
    exact
      ⟨lasts,
        .of_conntrack (beyond nofun nofun) lasts.outlasts
          (congrArg (fun m : Mbuf => m.df.conntrack) packet) _⟩

theorem processNode_gone_lasts {after : FlowStore} (sustained : Sustained flows)
    (holds : HoldsAt flows m node) (result : processNode env outcomes flows m node = .gone after) :
    Lasts flows after := by
  rcases processNode_leaves result with ⟨_, same⟩ | ⟨port, tx, sent⟩
  · rw [same]
    exact lasts_of_unmoved sustained (Unmoved.refl flows)
  rw [sent]
  rw [tx] at holds
  have held : Holds flows m := (holds.resolve_left nofun).resolve_left nofun
  exact tx_lasts sustained held env.tables.conf outcomes.rules

end Nodes

/-! ## One event -/

/-- A removal does not take just one of the entries of a flow that nobody has
decided about. -/
def KeepsPairs (world : World) : Event → Prop
  | .request (.removeFlows chosen _) => SplitsNone world.flows chosen
  | _ => True

theorem handle_sustained {world : World} (sustained : Sustained world.flows) {request : Request}
    (keepsPairs : KeepsPairs world (.request request)) :
    Sustained (world.handle request).flows := by
  have whole : RemovesWhole request → Sustained (world.handle request).flows := by
    intro removesWhole
    rcases handle_flows world removesWhole with
      same | ⟨chosen, stored, whole, removed⟩
    · rw [same]
      exact sustained
    · rw [removed]
      exact sustained.remove (whole.splitsNone sustained) stored
  cases request with
  | removeFlows chosen stored => exact sustained.remove keepsPairs stored
  | _ => exact whole trivial

namespace Lived

variable {world : World}

theorem visit (lived : Lived world) (dpdk : Dpdk) (id : MbufId) (outcomes : NodeOutcomes) :
    Lived (world.visit dpdk id outcomes) := by
  rcases world.visit_cases dpdk id outcomes with
    same | ⟨flight, found, ⟨flows, result, gone⟩ | ⟨tables, visit, result, moved⟩⟩
  · rw [same]
    exact lived
  · have lasts := processNode_gone_lasts lived.sustained (lived.packets id flight found) result
    rw [gone]
    exact ⟨lasts.sustained, lived.packets.gone (HoldsAt.outlast lasts.outlasts) flows id⟩
  obtain ⟨lasts, here⟩ := processNode_lasts lived.sustained (lived.packets id flight found) result
  rw [moved]
  exact
    ⟨lasts.sustained, lived.packets.moved (HoldsAt.outlast lasts.outlasts) here id flight tables⟩

theorem receive (lived : Lived world) (id : MbufId) (frame : Frame) (port : PortId) :
    Lived (world.receive id frame port) := by
  have packets := lived.packets.receive (HoldsAt.cls _) id frame port
  obtain ⟨flows, -⟩ := world.receive_state id frame port
  constructor
  · rw [flows]
    exact lived.sustained
  · rw [flows]
    exact packets

theorem ipsecBurst (lived : Lived world) (dir : IpsecDir)
    (crypto : { env : CryptoEnv // env.Lawful }) (opPool : List OpId) (objs : List MbufId) :
    Lived (world.ipsecBurst dir crypto.1 opPool objs) := by
  have packets :=
    lived.packets.ipsecBurst dir crypto opPool objs (by
      intro before after holds conntrack _ _
      have held : Holds world.flows before :=
        (holds.resolve_left (ipsecNodeName_beyond dir).1).resolve_left (ipsecNodeName_beyond dir).2
      refine Or.inr (Or.inr ?_)
      intro f carried
      exact held f (conntrack ▸ carried))
  obtain ⟨flows, -⟩ := world.ipsecBurst_state dir crypto.1 opPool objs
  constructor
  · rw [flows]
    exact lived.sustained
  · rw [flows]
    exact packets

theorem of_quiet (quiet : world.quiet = true) {after : World}
    (flights : after.flights = world.flights) (sustained : Sustained after.flows) : Lived after :=
  ⟨sustained, InFlight.of_quiet (HoldsAt.cls _) quiet flights⟩

theorem step (lived : Lived world) (dpdk : Dpdk) {event : Event}
    (keepsPairs : KeepsPairs world event) : Lived (world.step dpdk event) := by
  cases event with
  | receive id frame port => exact lived.receive id frame port
  | visit id outcomes => exact lived.visit dpdk id outcomes
  | ipsecBurst dir crypto opPool objs =>
    exact lived.ipsecBurst dir crypto opPool objs
  | request request =>
    by_cases quiet : world.quiet = true
    · rw [World.step, if_pos quiet]
      exact
        of_quiet quiet (world.handle_packets request).1
          (handle_sustained lived.sustained keepsPairs)
    · rw [World.step, if_neg quiet]
      exact lived
  | ageFlows now timerHz expired =>
    by_cases quiet : world.quiet = true
    · rw [World.step, if_pos quiet]
      exact of_quiet quiet rfl (lived.sustained.age now timerHz expired)
    · rw [World.step, if_neg quiet]
      exact lived
  | ageRule f =>
    by_cases quiet : world.quiet = true
    · rw [World.step, if_pos quiet]
      exact of_quiet quiet rfl (lived.sustained.dropRule f)
    · rw [World.step, if_neg quiet]
      exact lived

end Lived

/-! ## What an event does to the flows -/

/-- The flows after an event, whatever becomes of the packets. -/
inductive FlowChange (dpdk : Dpdk) (world : World) : Event → FlowStore → Prop
  | same (event : Event) : FlowChange dpdk world event world.flows
  | tracked (id : MbufId) (outcomes : NodeOutcomes) :
      FlowChange dpdk world (.visit id outcomes)
        (conntrack (world.env dpdk) outcomes.conntrack world.flows (world.mbufs id)).1
  | passed {id : MbufId} {outcomes : NodeOutcomes} {after : FlowStore}
      (unmoved : Unmoved world.flows after) : FlowChange dpdk world (.visit id outcomes) after
  | translated {id : MbufId} {outcomes : NodeOutcomes} {after : FlowStore} {rekeyed : Bool}
      {flight : Flight} (found : world.flights.lookup id = some flight)
      (node : flight.node = .dnat ∧ rekeyed = outcomes.rekeyed ∨
        flight.node = .snat ∧ rekeyed = outcomes.snat.rekeyed)
      (effect : Effect (world.mbufs id) rekeyed world.flows after) :
      FlowChange dpdk world (.visit id outcomes) after
  | sent (id : MbufId) (outcomes : NodeOutcomes) :
      FlowChange dpdk world (.visit id outcomes)
        (tx world.tables.conf outcomes.rules world.flows (world.mbufs id))
  | removed (request : Request) (chosen : FlowKey → FlowValue → Bool) (stored : FlowKey → Nat) :
      FlowChange dpdk world (.request request) (dpRemoveFlows chosen stored world.flows)
  | aged (now timerHz : UInt64) (expired : FlowKey → Nat) :
      FlowChange dpdk world (.ageFlows now timerHz expired)
        (dpProcessAgedFlowsNonOffload now timerHz expired world.flows)
  | ruleAged (f : Handle) : FlowChange dpdk world (.ageRule f) (dropRule world.flows f)

theorem visit_flows (world : World) (dpdk : Dpdk) (id : MbufId) (outcomes : NodeOutcomes) :
    FlowChange dpdk world (.visit id outcomes) (world.visit dpdk id outcomes).flows := by
  rcases world.visit_cases dpdk id outcomes with
    same | ⟨flight, found, ⟨flows, result, gone⟩ | ⟨tables, visit, result, moved⟩⟩
  · rw [same]
    exact .same _
  · rw [gone]
    rcases processNode_leaves result with ⟨_, same⟩ | ⟨port, _, sent⟩
    · rw [same]
      exact .same _
    · rw [sent]
      exact .sent id outcomes
  rw [moved]
  change FlowChange dpdk world (.visit id outcomes) visit.flows
  generalize waits : flight.node = node at result
  cases processNode_moves result with
  | fresh | stopped | again | passed | routed => exact .same _
  | conntrack => exact .tracked id outcomes
  | lb ran => exact .passed (lb_effect ran)
  | dnat ran => exact .translated found (Or.inl ⟨waits, rfl⟩) (dnat_effect ran)
  | snat ran => exact .translated found (Or.inr ⟨waits, rfl⟩) (snat_effect ran)
  | firewall ran => exact .passed (firewall_effect ran).toUnmoved

theorem handle_flowChange (world : World) (dpdk : Dpdk) (request : Request) :
    FlowChange dpdk world (.request request) (world.handle request).flows := by
  have whole : RemovesWhole request →
      FlowChange dpdk world (.request request) (world.handle request).flows := by
    intro removesWhole
    rcases handle_flows world removesWhole with same | ⟨chosen, stored, _, removed⟩
    · rw [same]
      exact .same _
    · rw [removed]
      exact .removed request chosen stored
  cases request with
  | removeFlows chosen stored => exact .removed _ chosen stored
  | _ => exact whole trivial

theorem step_flows (world : World) (dpdk : Dpdk) (event : Event) :
    FlowChange dpdk world event (world.step dpdk event).flows := by
  cases event with
  | receive id frame port =>
    rw [World.step, (world.receive_state id frame port).1]
    exact .same _
  | visit id outcomes => exact visit_flows world dpdk id outcomes
  | ipsecBurst dir crypto opPool objs =>
    rw [World.step, (world.ipsecBurst_state dir crypto.1 opPool objs).1]
    exact .same _
  | request request =>
    rw [World.step]
    split
    · exact handle_flowChange world dpdk request
    · exact .same _
  | ageFlows now timerHz expired =>
    rw [World.step]
    split
    · exact .aged now timerHz expired
    · exact .same _
  | ageRule f =>
    rw [World.step]
    split
    · exact .ruleAged f
    · exact .same _

/-! ## Whole runs -/

theorem lived_start (start : StartUp) : Lived start.world where
  sustained := sustained_empty
  packets := fun _ _ found => by cases found

theorem lived_run (dpdk : Dpdk) (start : StartUp) {events : List Event}
    (keepsPairs : (serviceMachine dpdk start).Along KeepsPairs start.world events) :
    Lived ((serviceMachine dpdk start).run events) :=
  Machine.runFrom_invariant_along
    (fun _ _ allowed lived => lived.step dpdk allowed) events keepsPairs
    (lived_start start)

/-- In every run whose removals take both entries or none of a flow that
nobody has decided about, no entry and no remembered flow is one that was
freed, and no flow is freed twice. -/
theorem noDangling_of_run (dpdk : Dpdk) (start : StartUp) (events : List Event)
    (keepsPairs : (serviceMachine dpdk start).Along KeepsPairs start.world events) :
    NoDangling ((serviceMachine dpdk start).run events).flows :=
  (lived_run dpdk start keepsPairs).sustained.toNoDangling

def checkKeepsPairs (_ : World) : Event → Bool
  | .request (.removeFlows _ _) => false
  | _ => true

theorem keepsPairs_of_check (world : World) (event : Event)
    (checked : checkKeepsPairs world event = true) :
    KeepsPairs world event := by
  cases event with
  | request request =>
    cases request with
    | removeFlows chosen stored => cases checked
    | _ => trivial
  | _ => trivial

def removePort (ipv4 : Ipv4) (port : UInt16) : Event :=
  .request
    (.removeFlows
      (fun key _ =>
        key.vni == 100 && key.l3Dst == .v4 ipv4 && port ≤ key.portDst && key.portDst < port + 1)
      fun _ => 0)

def allDecided (store : FlowStore) : Bool :=
  store.table.entries.all fun entry => !((store.value entry.2).flowFlags == FlowFlags.none)

theorem splitsNone_of_allDecided {store : FlowStore} (decided : allDecided store = true)
    (chosen : FlowKey → Bool) : SplitsNone store fun key _ => chosen key where
  counts := fun _ _ _ _ => rfl
  whole := by
    intro f key other _ undecided filed
    have here :=
      List.all_eq_true.mp decided ⟨key, f⟩ (FiniteTable.mem_entries_of_lookup store.table filed)
    rw [show (store.value f).flowFlags = FlowFlags.none from undecided] at here
    cases here

/-- The answers of the first datagram are no longer expected.  Its flow stays
with its other entry, and no reference is left behind. -/
theorem guestDatagrams_noDangling :
    NoDangling
        ((serviceMachine zeroDpdk (hostStart hostConf)).run
          (guestDatagrams ++ [removePort 0xac100009 1000])).flows ∧
      (((hostMachine hostConf).run
        (guestDatagrams ++ [removePort 0xac100009 1000])).flows.value 0).refCount = 1 := by
  constructor
  · apply noDangling_of_run
    apply Machine.along_append
    · exact Machine.along_of_check keepsPairs_of_check (by decide +kernel)
    · refine ⟨?_, trivial⟩
      exact splitsNone_of_allDecided (by decide +kernel) _
  · decide +kernel

/-- Packets beyond `cls` have live flows, and flows a reference for every
entry and every rule. -/
theorem packetFlows_of_run (dpdk : Dpdk) (start : StartUp) (events : List Event)
    (keepsPairs : (serviceMachine dpdk start).Along KeepsPairs start.world events) :
    let world := (serviceMachine dpdk start).run events
    Lasting world.flows ∧ InFlight (HoldsAt world.flows) world :=
  have lived := lived_run dpdk start keepsPairs
  ⟨lived.sustained.toLasting, lived.packets⟩

theorem guestDatagrams_lasting : Lasting ((hostMachine hostConf).run guestDatagrams).flows :=
  (packetFlows_of_run zeroDpdk (hostStart hostConf) guestDatagrams
    (Machine.along_of_check keepsPairs_of_check (by decide +kernel))).1

def createVip (ifaceId : IfaceId) (vip : Ipv4) (sfx : UInt64) : Event :=
  .request
    (.createVip natCreated
      { ifaceId, addr := .v4 vip, ulAddr6 := { guestUnderlay with sfx } })

def neighbourSends (id : MbufId) : List Event :=
  .receive id
      (frameOf ptypeL3Ipv4
        (etherHdr etherTypeIpv4 ++ ipv4Packet ipprotoUdp 0x0a000002 0x08080808 (udpHeader 4000 53)))
      3 ::
    visits id 8

/-- There is no route for the first datagram of 10.0.0.2, and its flow loses
the entry of the answers when the NAT address 10.0.0.2 of a neighbour goes.
Then 10.0.0.2 becomes the VIP of the other guest, whose datagram is filed
there.  The next datagram of 10.0.0.2 is translated itself. -/
def entryTakenOver : List Event :=
  [createGuest false, createNeighbour, .request (.configure Network.empty)] ++ neighbourSends 1 ++
    [removePort 0x0a000002 4000, .request (.configure hostNetwork), createVip "guest" 0x0a000002 8,
      createVip "neighbour" 0xac100009 9] ++
    guestSends 2 (guestFrame ipprotoUdp 0x08080808 (udpHeader 4000 53)) ++ neighbourSends 3

/-- It takes out the entry of the other flow, gives up the last reference of
its own, and files the flow that was freed. -/
theorem entryTakenOver_dangling :
    ¬ NoDangling ((hostMachine hostConf).run entryTakenOver).flows := by
  have freed : ((hostMachine hostConf).run entryTakenOver).flows.arena.freed 0 = 1 ∧
        ((hostMachine hostConf).run entryTakenOver).flows.table.entries.any
          (fun entry => entry.2 == 0) = true := by
    decide +kernel
  generalize ((hostMachine hostConf).run entryTakenOver).flows = store at freed
  obtain ⟨freed, filed⟩ := freed
  rw [List.any_eq_true] at filed
  obtain ⟨⟨key, f⟩, member, same⟩ := filed
  obtain rfl : f = 0 := eq_of_beq same
  intro noDangling
  have live := noDangling.filed key 0 (FiniteTable.lookup_of_mem_entries _ member)
  have unfreed := live.2
  rw [freed] at unfreed
  cases unfreed

end DpService.Graph

import DpService.Dataplane.NatRequests
import DpService.Nodes.Burst
import DpService.Nodes.Forwarding

/-!
# The packet graph

The whole service as a machine: packets are received and visited by one node
after the other in any interleaving, requests change the configuration, and
flows age.  A packet that is on its way carries the frame it was received as
and the nodes it has passed, which no node reads.

Requests and timers are handled before a walk of the graph, when the packets
that were received still wait at `cls`.  An event that is not possible in a
state leaves the state as it is.
-/

namespace DpService.Graph

open Foundations Packet Dataplane Flow Ipsec Nodes

/-- A packet on its way: the node it is waiting at and, latest first, the ones
it has passed. -/
structure Flight where
  node : Node
  path : List Node
  received : Frame

def Flight.moveTo (flight : Flight) (next : Node) : Flight :=
  { flight with node := next, path := flight.node :: flight.path }

structure World where
  db : IpsecDb
  tables : Tables
  network : Network
  flows : FlowStore
  mbufs : MbufId → Mbuf
  flights : FiniteTable MbufId Flight

/-! ## One node, one packet -/

structure NodeOutcomes where
  conntrack : ConntrackOutcomes
  rekeyed : Bool
  snat : SnatOutcomes
  red : Bool
  strayVni : Vni
  rules : Nat
  service : ServiceOutcome

def NodeOutcomes.succeed : NodeOutcomes where
  conntrack := { clock := 0, insert := InsertOutcomes.succeed }
  rekeyed := true
  snat := { ports := PortOutcomes.succeed, rekeyed := true }
  red := false
  strayVni := 0
  rules := 0
  service := { answer := none, neighMac := none }

/-- What became of a packet: it has left the graph, it goes on, or it is not
for this node to decide. -/
inductive NodeResult where
  | gone (flows : FlowStore)
  | moved (tables : Tables) (visit : Visit)
  | stuck

def NodeResult.forwarded
    (tables : Tables) (flows : FlowStore) (result : Mbuf × Node) : NodeResult :=
  .moved tables ⟨flows, result.1, result.2⟩

def NodeResult.asserted (tables : Tables) : Option Visit → NodeResult
  | none => .stuck
  | some visit => .moved tables visit

/-- A node of the graph at work on one packet.  The IPsec nodes work on
bursts. -/
def processNode (env : NodeEnv) (outcomes : NodeOutcomes) (flows : FlowStore) (m : Mbuf) :
    Node → NodeResult
  | .drop => .gone flows
  | .tx _ => .gone (tx env.tables.conf outcomes.rules flows m)
  | .cls => .forwarded env.tables flows (cls env.tables m)
  | .arp | .ipv6Nd | .dhcp | .dhcpv6 =>
    match service env.tables outcomes.service m with
    | (tables, answer) => .forwarded tables flows answer
  | .ipsecDecap | .ipsecEncap => .stuck
  | .ipipDecap => .forwarded env.tables flows (ipipDecap env.tables m)
  | .conntrack =>
    match conntrack env outcomes.conntrack flows m with
    | (flows, tracked) => .forwarded env.tables flows tracked
  | .lb => .asserted env.tables (lb env flows m)
  | .dnat => .asserted env.tables (dnat env outcomes.rekeyed flows m)
  | .ipv4Lookup => .forwarded env.tables flows (ipv4Lookup env outcomes.strayVni m)
  | .ipv6Lookup => .forwarded env.tables flows (ipv6Lookup env outcomes.strayVni m)
  | .snat => .asserted env.tables (snat env outcomes.snat outcomes.red flows m)
  | .firewall => .asserted env.tables (firewall env flows m)
  | .packetRelay =>
    match packetRelay env flows m with
    | none => .stuck
    | some relayed => .forwarded env.tables flows relayed
  | .ipipEncap => .forwarded env.tables flows (ipipEncap env.tables m)

theorem moved_of_asserted {tables after : Tables} {visited : Option Visit} {visit : Visit}
    (result : NodeResult.asserted tables visited = .moved after visit) :
    after = tables ∧ visited = some visit := by
  cases visited with
  | none => cases result
  | some other =>
    cases result
    exact ⟨rfl, rfl⟩

theorem moved_of_packetRelay {env : NodeEnv} {outcomes : NodeOutcomes} {flows : FlowStore}
    {m : Mbuf} {tables : Tables} {visit : Visit}
    (result : processNode env outcomes flows m .packetRelay = .moved tables visit) :
    tables = env.tables ∧ visit.flows = flows ∧
      packetRelay env flows m = some (visit.m, visit.next) := by
  rw [processNode] at result
  split at result
  · cases result
  · rename_i relayed ran
    cases result
    exact ⟨rfl, rfl, ran⟩

/-! ## Events -/

inductive Request where
  | createInterface (outcomes : CreateOutcomes) (request : DpgrpcIface)
  | deleteInterface (outcomes : DeleteOutcomes) (ifaceId : IfaceId)
  | enableInterfaceEncryption (ifaceId : IfaceId)
  | disableInterfaceEncryption (ifaceId : IfaceId)
  | registerVnf (outcomes : VnfOutcomes) (generated : Ipv6)
      (request : VnfRequest)
  | unregisterVnf (ulAddr6 : Ipv6)
  | createVip (outcomes : NatOutcomes) (request : DpgrpcVip)
  | deleteVip (storedRules : FlowKey → Nat) (ifaceId : IfaceId)
  | createNat (outcomes : NatOutcomes) (request : DpgrpcNat)
  | deleteNat (storedRules : FlowKey → Nat) (ifaceId : IfaceId)
  | securityAssociation (event : SaEvent)
  | configure (network : Network)
  | removeFlows (chosen : FlowKey → FlowValue → Bool)
      (storedRules : FlowKey → Nat)

inductive Event where
  | receive (id : MbufId) (frame : Frame) (port : PortId)
  | visit (id : MbufId) (outcomes : NodeOutcomes)
  | ipsecBurst (dir : IpsecDir) (crypto : { env : CryptoEnv // env.Lawful })
      (opPool : List OpId) (objs : List MbufId)
  | request (request : Request)
  | ageFlows (now timerHz : UInt64) (expired : FlowKey → Nat)
  | ageRule (f : Handle)

namespace World

variable (world : World)

/-- No packet is beyond `cls`. -/
def quiet : Bool :=
  world.flights.entries.all fun entry => entry.2.node = .cls

def env (dpdk : Dpdk) : NodeEnv where
  tables := world.tables
  network := world.network
  dpdk := dpdk

def receive (id : MbufId) (frame : Frame) (port : PortId) : World :=
  if (world.flights.lookup id).isNone &&
      (dpGetPortById world.tables.ports port).any Port.allocated then
    { world with
      mbufs :=
        Function.update world.mbufs id
          { world.mbufs id with frame, port, mark := ⟨false, false⟩ }
      flights := world.flights.insert id ⟨.cls, [], frame⟩ }
  else world

def moved (id : MbufId) (flight : Flight) (tables : Tables) (visit : Visit) :
    World :=
  { world with
    tables
    flows := visit.flows
    mbufs := Function.update world.mbufs id visit.m
    flights := world.flights.insert id (flight.moveTo visit.next) }

def visit (dpdk : Dpdk) (id : MbufId) (outcomes : NodeOutcomes) : World :=
  match world.flights.lookup id with
  | none => world
  | some flight =>
    match
      processNode (world.env dpdk) outcomes world.flows (world.mbufs id) flight.node with
    | .stuck => world
    | .gone flows => { world with flows, flights := world.flights.erase id }
    | .moved tables visit => world.moved id flight tables visit

end World

def ipsecNode (tables : Tables) : IpsecDir → CryptoNode
  | .egress => ipsecEncap tables
  | .ingress => ipsecDecap tables

def ipsecNodeName : IpsecDir → Node
  | .egress => .ipsecEncap
  | .ingress => .ipsecDecap

def forwardFlights (flights : FiniteTable MbufId Flight) :
    List (MbufId × Node) → FiniteTable MbufId Flight
  | [] => flights
  | (id, next) :: rest =>
    match flights.lookup id with
    | none => forwardFlights flights rest
    | some flight => forwardFlights (flights.insert id (flight.moveTo next)) rest

namespace World

variable (world : World)

/-- A burst of packets that wait at an IPsec node.  The device holds no
operation of an earlier burst. -/
def ipsecBurst (dir : IpsecDir) (crypto : CryptoEnv) (opPool : List OpId)
    (objs : List MbufId) : World :=
  if objs.Nodup ∧
      ∀ id ∈ objs, (world.flights.lookup id).any fun flight => flight.node = ipsecNodeName dir then
    match
      cryptoNodeProcess (ipsecNode world.tables dir) crypto world.db
        { mbufs := world.mbufs, opPool, queue := [] } objs with
    -- past the end of an array nothing is known
    | none => world
    | some result =>
      { world with
        mbufs := result.state.mbufs
        flights := forwardFlights world.flights result.edges }
  else world

def natConfig : NatConfig where
  tables := world.tables
  network := world.network

def setNat (config : NatConfig) (flows : FlowStore) : World :=
  { world with tables := config.tables, network := config.network, flows }

def handle : Request → World
  | .createInterface outcomes request =>
    { world with tables := (dpProcessCreateInterface outcomes world.tables request).1 }
  | .deleteInterface outcomes ifaceId =>
    match
      dpProcessDeleteInterface outcomes world.tables world.flows ifaceId with
    | (tables, flows, _) => { world with tables, flows }
  | .enableInterfaceEncryption ifaceId =>
    { world with tables := (dpProcessEnableInterfaceEncryption world.tables ifaceId).1 }
  | .disableInterfaceEncryption ifaceId =>
    { world with tables := (dpProcessDisableInterfaceEncryption world.tables ifaceId).1 }
  | .registerVnf outcomes generated request =>
    { world with tables := Dataplane.registerVnf outcomes generated world.tables request }
  | .unregisterVnf ulAddr6 => { world with tables := Dataplane.unregisterVnf world.tables ulAddr6 }
  | .createVip outcomes request =>
    world.setNat (dpProcessCreateVip outcomes world.natConfig request).1 world.flows
  | .deleteVip storedRules ifaceId =>
    match
      dpProcessDeleteVip world.natConfig world.flows storedRules ifaceId with
    | (config, flows, _) => world.setNat config flows
  | .createNat outcomes request =>
    world.setNat (dpProcessCreateNat outcomes world.natConfig request).1 world.flows
  | .deleteNat storedRules ifaceId =>
    match
      dpProcessDeleteNat world.natConfig world.flows storedRules ifaceId with
    | (config, flows, _) => world.setNat config flows
  | .securityAssociation event =>
    { world with db := (processSaRequest world.tables.conf event.2 world.db event.1).1 }
  | .configure network => { world with network }
  | .removeFlows chosen storedRules =>
    { world with flows := dpRemoveFlows chosen storedRules world.flows }

def step (dpdk : Dpdk) : Event → World
  | .receive id frame port => world.receive id frame port
  | .visit id outcomes => world.visit dpdk id outcomes
  | .ipsecBurst dir crypto opPool objs => world.ipsecBurst dir crypto.1 opPool objs
  | .request request =>
    if world.quiet then world.handle request else world
  | .ageFlows now timerHz expired =>
    if world.quiet then
      { world with flows := dpProcessAgedFlowsNonOffload now timerHz expired world.flows }
    else world
  | .ageRule f =>
    if world.quiet then { world with flows := dropRule world.flows f }
    else world

end World

/-! ## What an event can do -/

namespace World

variable {world : World}

/-- A visit leaves everything as it is, ends the flight of its packet, or
moves the packet to another node. -/
theorem visit_cases (world : World) (dpdk : Dpdk) (id : MbufId) (outcomes : NodeOutcomes) :
    world.visit dpdk id outcomes = world ∨ ∃ flight, world.flights.lookup id = some flight ∧
        ((∃ flows, processNode (world.env dpdk) outcomes world.flows (world.mbufs id) flight.node =
              .gone flows ∧
            world.visit dpdk id outcomes =
              { world with flows, flights := world.flights.erase id }) ∨
          ∃ tables visit,
            processNode (world.env dpdk) outcomes world.flows (world.mbufs id) flight.node =
              .moved tables visit ∧
            world.visit dpdk id outcomes = world.moved id flight tables visit) := by
  unfold visit
  cases found : world.flights.lookup id with
  | none => exact Or.inl rfl
  | some flight => ?_
  dsimp only
  cases result :
      processNode (world.env dpdk) outcomes world.flows (world.mbufs id) flight.node with
  | stuck => exact Or.inl rfl
  | gone flows =>
    exact Or.inr ⟨flight, rfl, Or.inl ⟨flows, result, rfl⟩⟩
  | moved tables visit =>
    exact Or.inr ⟨flight, rfl, Or.inr ⟨tables, visit, result, rfl⟩⟩

theorem handle_packets (world : World) (request : Request) :
    (world.handle request).flights = world.flights ∧
      (world.handle request).mbufs = world.mbufs := by
  cases request with
  | _ => exact ⟨rfl, rfl⟩

theorem node_of_quiet (quiet : world.quiet = true) {id : MbufId} {flight : Flight}
    (found : world.flights.lookup id = some flight) : flight.node = .cls := by
  rw [World.quiet, List.all_eq_true] at quiet
  exact
    of_decide_eq_true (quiet ⟨id, flight⟩ (FiniteTable.mem_entries_of_lookup world.flights found))

end World

theorem forwardFlights_of_notMem {flights : FiniteTable MbufId Flight}
    {edges : List (MbufId × Node)} {id : MbufId} (others : id ∉ edges.map Prod.fst) :
    (forwardFlights flights edges).lookup id = flights.lookup id := by
  induction edges generalizing flights with
  | nil => rfl
  | cons edge rest ih =>
    obtain ⟨first, next⟩ := edge
    rw [List.map_cons, List.mem_cons, not_or] at others
    unfold forwardFlights
    split
    · exact ih others.2
    · rw [ih others.2, FiniteTable.lookup_insert_eq, if_neg others.1]

theorem forwardFlights_of_mem {flights : FiniteTable MbufId Flight} {edges : List (MbufId × Node)}
    (distinct : (edges.map Prod.fst).Nodup) {id : MbufId} {next : Node}
    (member : (id, next) ∈ edges) {flight : Flight} (found : flights.lookup id = some flight) :
    (forwardFlights flights edges).lookup id = some (flight.moveTo next) := by
  induction edges generalizing flights with
  | nil => cases member
  | cons edge rest ih =>
    obtain ⟨first, edgeNext⟩ := edge
    rw [List.map_cons, List.nodup_cons] at distinct
    rcases List.mem_cons.mp member with here | later
    · cases here
      rw [forwardFlights, found]
      dsimp only
      rw [forwardFlights_of_notMem distinct.1, FiniteTable.lookup_insert_eq, if_pos rfl]
    have different : id ≠ first := by
      intro same
      rw [← same] at distinct
      exact distinct.1 (List.mem_map.mpr ⟨(id, next), later, rfl⟩)
    unfold forwardFlights
    split
    · exact ih distinct.2 later found
    · apply ih distinct.2 later
      rw [FiniteTable.lookup_insert_eq, if_neg different]
      exact found

/-! ## Packets in flight -/

def EachFlight (At : Flight → Mbuf → Prop) (world : World) : Prop :=
  ∀ id flight, world.flights.lookup id = some flight → At flight (world.mbufs id)

theorem World.receive_state (world : World) (id : MbufId) (frame : Frame) (port : PortId) :
    (world.receive id frame port).flows = world.flows ∧
      (world.receive id frame port).tables = world.tables ∧
      (world.receive id frame port).network = world.network := by
  rw [World.receive]
  split
  · exact ⟨rfl, rfl, rfl⟩
  · exact ⟨rfl, rfl, rfl⟩

theorem World.ipsecBurst_state (world : World) (dir : IpsecDir) (crypto : CryptoEnv)
    (opPool : List OpId) (objs : List MbufId) :
    (world.ipsecBurst dir crypto opPool objs).flows = world.flows ∧
      (world.ipsecBurst dir crypto opPool objs).tables = world.tables ∧
      (world.ipsecBurst dir crypto opPool objs).network = world.network := by
  rw [World.ipsecBurst]
  split
  · split
    · exact ⟨rfl, rfl, rfl⟩
    · exact ⟨rfl, rfl, rfl⟩
  · exact ⟨rfl, rfl, rfl⟩

namespace EachFlight

variable {At Next : Flight → Mbuf → Prop} {world : World}

theorem gone (each : EachFlight At world) (others : ∀ flight m, At flight m → Next flight m)
    (flows : FlowStore) (id : MbufId) :
    EachFlight Next { world with flows, flights := world.flights.erase id } := by
  intro other flight held
  change (world.flights.erase id).lookup other = _ at held
  rw [FiniteTable.lookup_erase_eq] at held
  split at held
  · cases held
  · exact others _ _ (each other flight held)

theorem moved (each : EachFlight At world) (others : ∀ flight m, At flight m → Next flight m)
    {visit : Visit} {flight : Flight} (here : Next (flight.moveTo visit.next) visit.m)
    (id : MbufId) (tables : Tables) :
    EachFlight Next (world.moved id flight tables visit) := by
  intro other otherFlight held
  change (world.flights.insert id _).lookup other = _ at held
  change Next otherFlight (Function.update world.mbufs id visit.m other)
  rw [FiniteTable.lookup_insert_eq] at held
  by_cases same : other = id
  · rw [if_pos same, Option.some_inj] at held
    rw [← held, same, Function.update_self]
    exact here
  · rw [if_neg same] at held
    rw [Function.update_of_ne same]
    exact others _ _ (each other otherFlight held)

theorem receive (each : EachFlight At world) (id : MbufId) {frame : Frame} {port : PortId}
    (start : ∀ m : Mbuf, m.frame = frame → m.port = port → At ⟨.cls, [], frame⟩ m) :
    EachFlight At (world.receive id frame port) := by
  rw [World.receive]
  split
  · intro other flight held
    change (world.flights.insert id _).lookup other = _ at held
    change At flight (Function.update world.mbufs id _ other)
    rw [FiniteTable.lookup_insert_eq] at held
    by_cases here : other = id
    · rw [if_pos here, Option.some_inj] at held
      rw [← held, here, Function.update_self]
      exact start _ rfl rfl
    · rw [if_neg here] at held
      rw [Function.update_of_ne here]
      exact each other flight held
  · exact each

theorem ipsecBurst (each : EachFlight At world) (dir : IpsecDir)
    (crypto : { env : CryptoEnv // env.Lawful }) (opPool : List OpId) (objs : List MbufId)
    (passes : ∀ id ∈ objs, ∀ flight result, flight.node = ipsecNodeName dir →
      BurstSpec (ipsecNode world.tables dir) crypto world.db
        { mbufs := world.mbufs, opPool, queue := [] } objs result →
      At flight (world.mbufs id) →
        At (flight.moveTo ((ipsecNode world.tables dir).next (result.state.mbufs id)))
          (result.state.mbufs id)) :
    EachFlight At (world.ipsecBurst dir crypto.1 opPool objs) := by
  rw [World.ipsecBurst]
  split
  · rename_i waiting
    split
    · exact each
    rename_i result processed
    have spec := burstSpec_of_some crypto.2 rfl waiting.1 processed
    have ids : result.edges.map Prod.fst = objs := by
      rw [spec.edges, forwardPackets, List.map_map]
      exact List.map_id' objs
    intro id flight held
    change (forwardFlights world.flights result.edges).lookup id = _ at held
    change At flight (result.state.mbufs id)
    by_cases member : id ∈ objs
    · have present := waiting.2 id member
      rw [Option.any_eq_true] at present
      obtain ⟨before, found, waits⟩ := present
      have edge : (id, (ipsecNode world.tables dir).next (result.state.mbufs id)) ∈
            result.edges := by
        rw [spec.edges]
        exact List.mem_map_of_mem member
      rw [forwardFlights_of_mem (ids ▸ waiting.1) edge found, Option.some_inj] at held
      rw [← held]
      exact passes id member before result (of_decide_eq_true waits) spec (each id before found)
    · rw [forwardFlights_of_notMem (ids.symm ▸ member)] at held
      rw [spec.others id member]
      exact each id flight held
  · exact each

end EachFlight

/-- What the service is started with.  No port has an interface yet, and the
PFs, of which `pf0` is one, are in use from the beginning. -/
structure StartUp where
  conf : DpConf
  ports : PortTable
  pf0 : PortId
  pf1 : PortId
  network : Network
  mbufs : MbufId → Mbuf
  unconfigured : ∀ id port, ports.entry id = some port → port.iface = PortIface.zeroed
  pfAllocated : ∀ id port, ports.entry id = some port → port.isPf = true → port.allocated = true
  pf0IsPf : ∃ port, ports.entry pf0 = some port ∧ port.isPf = true

def StartUp.world (start : StartUp) : World where
  db := dpIpsecInit start.conf
  tables :=
    { conf := start.conf
      ports := start.ports
      vnfs := VnfTables.empty
      ifaceIds := fun _ => none
      pf0 := start.pf0
      pf1 := start.pf1 }
  network := start.network
  flows := FlowStore.empty
  mbufs := start.mbufs
  flights := ∅

def serviceMachine (dpdk : Dpdk) (start : StartUp) : Machine World Event where
  init := start.world
  step := fun world event => world.step dpdk event

def visits (id : MbufId) (count : Nat) : List Event :=
  List.replicate count (.visit id NodeOutcomes.succeed)

end DpService.Graph

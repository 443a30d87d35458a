import DpService.Graph.Orderly
import DpService.Nodes.Guidance

/-!
# Traffic keeps flows on allowed targets

As long as the load balancers offer allowed targets only, no event of the
packet graph leads a flow elsewhere, whatever fails on the way.
-/

namespace DpService.Graph

open Foundations Packet Dataplane Flow Ipsec Nodes

variable {Allowed : FlowKey → Ipv6 → Prop}

/-! ## The invariant -/

/-- The in-ports of packets are the same, apart from their neighbours. -/
structure SamePorts (before after : PortTable) : Prop where
  isPf : ∀ m, (dpGetInPort after m).isPf = (dpGetInPort before m).isPf
  iface : ∀ m, (dpGetInPort after m).iface = (dpGetInPort before m).iface

theorem SamePorts.refl (ports : PortTable) : SamePorts ports ports :=
  ⟨fun _ => rfl, fun _ => rfl⟩

def PfsOutside (ports : PortTable) : Prop :=
  ∀ m, (dpGetInPort ports m).isPf = true → (dpGetInPort ports m).iface.vni = 0

theorem PfsOutside.congr {before after : PortTable} (outside : PfsOutside before)
    (same : SamePorts before after) : PfsOutside after := by
  intro m fromPf
  rw [same.iface]
  exact outside m (same.isPf m ▸ fromPf)

/-- What a packet that waits for `lb` has got from `conntrack`. -/
structure Waiting
    (Allowed : FlowKey → Ipv6 → Prop) (ports : PortTable) (store : FlowStore)
    (m : Mbuf) : Prop where
  outside : (dpGetInPort ports m).iface.vni = 0
  guided : ∀ f, m.df.conntrack = some f → Guided Allowed (store.value f)
  addressed : ∀ f, m.df.conntrack = some f → m.df.flowDir = .org → Addressed store m f

def LedAt (Allowed : FlowKey → Ipv6 → Prop) (ports : PortTable) (store : FlowStore)
    (m : Mbuf) (node : Node) : Prop :=
  node = .cls ∨ node = .drop ∨ (Allocated store m ∧ (node = .lb → Waiting Allowed ports store m))

structure Led (Allowed : FlowKey → Ipv6 → Prop) (world : World) : Prop where
  coherent : Coherent world.flows
  guided : ∀ f, world.flows.Found f → Guided Allowed (world.flows.value f)
  outside : PfsOutside world.tables.ports
  packets : ∀ id flight, world.flights.lookup id = some flight →
    LedAt Allowed world.tables.ports world.flows (world.mbufs id) flight.node

theorem Waiting.keep {before after : PortTable} {store next : FlowStore} {m : Mbuf}
    (waiting : Waiting Allowed before store m)
    (allocated : Allocated store m) (keeps : Keeps Allowed store next)
    (same : SamePorts before after) : Waiting Allowed after next m where
  outside := by
    rw [same.iface]
    exact waiting.outside
  guided := fun f carried => keeps.guided f (allocated f carried) (waiting.guided f carried)
  addressed := by
    intro f carried forward
    have org := keeps.org f (allocated f carried)
    obtain ⟨vni, dst⟩ := waiting.addressed f carried forward
    exact ⟨org ▸ vni, org ▸ dst⟩

theorem LedAt.keep {before after : PortTable} {store next : FlowStore}
    (keeps : Keeps Allowed store next) (same : SamePorts before after)
    (m : Mbuf) (node : Node) (led : LedAt Allowed before store m node) :
    LedAt Allowed after next m node := by
  rcases led with cls | drop | ⟨allocated, waiting⟩
  · exact Or.inl cls
  · exact Or.inr (Or.inl drop)
  · exact Or.inr (Or.inr ⟨allocated.keep keeps, fun lb => (waiting lb).keep allocated keeps same⟩)

theorem LedAt.of_conntrack {ports : PortTable} {store next : FlowStore} {m packet : Mbuf}
    {node : Node} (allocated : Allocated store m) (keeps : Keeps Allowed store next)
    (conntrack : packet.df.conntrack = m.df.conntrack) (elsewhere : node ≠ .lb) :
    LedAt Allowed ports next packet node := by
  refine Or.inr (Or.inr ⟨?_, fun lb => absurd lb elsewhere⟩)
  intro f carried
  exact allocated.keep keeps f (conntrack ▸ carried)

theorem guided_of_keeps {before after : FlowStore} (coherent : Coherent before)
    (guided : ∀ f, before.Found f → Guided Allowed (before.value f))
    (keeps : Keeps Allowed before after) {f : Handle}
    (found : after.Found f) : Guided Allowed (after.value f) := by
  rcases keeps.found f found with earlier | now
  · exact keeps.guided f (coherent.found_lt earlier) (guided f earlier)
  · exact now

/-! ## One node -/

theorem dpL2AddrSet_samePorts (ports : PortTable) (id : PortId) (mac : MacAddr) :
    SamePorts ports (dpL2AddrSet ports id mac) := by
  unfold dpL2AddrSet
  split
  · exact SamePorts.refl ports
  rename_i port found
  have entry := dpGetPortById_eq_some found
  obtain rfl := ports.numbered id port entry
  have changed : ∀ m,
      dpGetInPort (ports.update { port with neighMac := mac }) m = dpGetInPort ports m ∨
        dpGetInPort (ports.update { port with neighMac := mac }) m =
            { port with neighMac := mac } ∧
          dpGetInPort ports m = port := by
    intro m
    unfold dpGetInPort dpGetPortById
    split
    · by_cases same : m.port = port.portId
      · have updated := PortTable.update_entry_self ports { port with neighMac := mac }
        rw [same, entry, updated]
        exact Or.inr ⟨rfl, rfl⟩
      have other :
          m.port ≠ ({ port with neighMac := mac } : Port).portId :=
        same
      rw [PortTable.update_entry_of_ne ports other]
      exact Or.inl rfl
    · exact Or.inl rfl
  constructor
  · intro m
    rcases changed m with same | ⟨after, before⟩
    · rw [same]
    · rw [after, before]
  intro m
  rcases changed m with same | ⟨after, before⟩
  · rw [same]
  · rw [after, before]

theorem service_samePorts (tables : Tables) (outcome : ServiceOutcome) (m : Mbuf) :
    SamePorts tables.ports (service tables outcome m).1.ports := by
  unfold service
  cases outcome.answer with
  | none =>
    cases outcome.neighMac with
    | none => exact SamePorts.refl tables.ports
    | some mac => exact dpL2AddrSet_samePorts tables.ports m.port mac
  | some frame =>
    cases outcome.neighMac with
    | none => exact SamePorts.refl tables.ports
    | some mac => exact dpL2AddrSet_samePorts tables.ports m.port mac

section Nodes

variable {env : NodeEnv} {outcomes : NodeOutcomes} {flows : FlowStore}
variable {m : Mbuf}

theorem ne_lb_of_awaits {node : Node} (elsewhere : awaits node = false) : node ≠ .lb := by
  rintro rfl
  cases elsewhere

theorem forwardRouted_next (strayVni : Vni) (etherType : UInt16) (viaPf : Port → Port)
    (found : Option (Port × RibNode)) :
    (forwardRouted env strayVni etherType viaPf found m).2 ≠ .lb ∧
      (forwardRouted env strayVni etherType viaPf found m).1.df.conntrack = m.df.conntrack := by
  unfold forwardRouted
  split
  · exact ⟨nofun, rfl⟩
  dsimp only
  split
  · split
    · exact ⟨nofun, rfl⟩
    · exact ⟨nofun, rfl⟩
  · exact ⟨nofun, rfl⟩

theorem lb_conntrack {visit : Visit} (result : lb env flows m = some visit) :
    visit.next ≠ .lb ∧ visit.m.df.conntrack = m.df.conntrack := by
  have balanced := lb_balanced result
  rcases visit with ⟨after, packet, next⟩
  cases balanced with
  | passed => exact ⟨nofun, rfl⟩
  | dropped => exact ⟨nofun, rfl⟩
  | answered => exact ⟨nofun, rfl⟩
  | sent _ _ conntrack => exact ⟨nofun, conntrack⟩

theorem Waiting.packetVni (waiting : Waiting Allowed env.tables.ports flows m) {f : Handle}
    (carried : m.df.conntrack = some f) (forward : m.df.flowDir = .org) :
    packetVni env m = (flows.value f).org.vni := by
  rw [(waiting.addressed f carried forward).vni, Nodes.packetVni, routedVni, waiting.outside]
  split
  · rename_i zero
    exact zero.symm
  · rfl

theorem processNode_samePorts {node : Node} {tables : Tables} {visit : Visit}
    (result : processNode env outcomes flows m node = .moved tables visit) :
    SamePorts env.tables.ports tables.ports := by
  cases node with
  | drop | tx port | ipsecDecap | ipsecEncap => cases result
  | arp | ipv6Nd | dhcp | dhcpv6 =>
    have learned := service_samePorts env.tables outcomes.service m
    cases result
    exact learned
  | lb | dnat | snat | firewall =>
    rw [(moved_of_asserted result).1]
    exact SamePorts.refl env.tables.ports
  | packetRelay =>
    rw [(moved_of_packetRelay result).1]
    exact SamePorts.refl env.tables.ports
  | cls | ipipDecap | conntrack | ipv4Lookup | ipv6Lookup | ipipEncap =>
    cases result
    exact SamePorts.refl env.tables.ports

theorem processNode_led {node : Node} {tables : Tables} {visit : Visit} (coherent : Coherent flows)
    (guided : ∀ f, flows.Found f → Guided Allowed (flows.value f))
    (outside : PfsOutside env.tables.ports) (offers : Offers env.network Allowed)
    (led : LedAt Allowed env.tables.ports flows m node)
    (result : processNode env outcomes flows m node = .moved tables visit) :
    Keeps Allowed flows visit.flows ∧
      LedAt Allowed tables.ports visit.flows visit.m visit.next := by
  have same : Keeps Allowed flows flows := (Trims.refl flows).keeps coherent
  have ports := processNode_samePorts result
  have beyond : node ≠ .cls → node ≠ .drop → Allocated flows m ∧
        (node = .lb → Waiting Allowed env.tables.ports flows m) :=
    fun notCls notDrop => (led.resolve_left notCls).resolve_left notDrop
  cases processNode_moves result with
  | fresh packet next untracked elsewhere =>
    refine ⟨same, Or.inr (Or.inr ⟨?_, fun lb => absurd lb (ne_lb_of_awaits elsewhere)⟩)⟩
    intro f carried
    rw [untracked] at carried
    cases carried
  | stopped => exact ⟨same, Or.inr (Or.inl rfl)⟩
  | again => exact ⟨same, Or.inl rfl⟩
  | passed packet next notCls notDrop conntrack elsewhere =>
    exact ⟨same, .of_conntrack (beyond notCls notDrop).1 same conntrack (ne_lb_of_awaits elsewhere)⟩
  | conntrack =>
    have sorted : Sorted Allowed env.tables _ _ _ _ :=
      conntrack_sorted coherent outcomes.conntrack (beyond (by decide) (by decide)).1
    refine
      ⟨sorted.keeps,
        LedAt.keep ((Trims.refl _).keeps sorted.keeps.coherent) ports _ _
          (Or.inr (Or.inr ⟨sorted.allocated, ?_⟩))⟩
    intro lb
    obtain ⟨fromPf, flow⟩ := sorted.balanced lb
    refine ⟨outside _ fromPf, ?_, fun f carried => (flow f carried).2⟩
    intro f carried
    exact guided_of_keeps coherent guided sorted.keeps (flow f carried).1
  | lb ran =>
    obtain ⟨allocated, waiting⟩ := beyond (by decide) (by decide)
    have waits := waiting rfl
    have leads :=
      lb_led coherent offers
        (fun f carried => ⟨waits.guided f carried, waits.packetVni carried⟩)
        ran
    obtain ⟨elsewhere, conntrack⟩ := lb_conntrack ran
    exact ⟨leads.1, .of_conntrack allocated leads.1 conntrack elsewhere⟩
  | dnat ran =>
    have allocated := (beyond (by decide) (by decide)).1
    have keeps : Keeps Allowed _ _ := (dnat_effect ran).keeps coherent allocated
    obtain ⟨carries, edge⟩ := dnat_hop ran
    refine ⟨keeps, .of_conntrack allocated keeps carries.conntrack ?_⟩
    intro lb
    rw [lb] at edge
    simp [dnatEdges] at edge
  | routed etherType viaPf found notCls notDrop =>
    have next := @forwardRouted_next env m outcomes.strayVni etherType viaPf found
    exact ⟨same, .of_conntrack (beyond notCls notDrop).1 same next.2 next.1⟩
  | snat ran =>
    have allocated := (beyond (by decide) (by decide)).1
    have keeps : Keeps Allowed _ _ := (snat_effect ran).keeps coherent allocated
    obtain ⟨carries, edge⟩ := snat_hop ran
    refine ⟨keeps, .of_conntrack allocated keeps carries.conntrack ?_⟩
    intro lb
    rw [lb] at edge
    simp [snatEdges] at edge
  | firewall ran =>
    have keeps : Keeps Allowed _ _ := (firewall_effect ran).keeps coherent
    obtain ⟨packet, edge⟩ := firewall_hop ran
    refine
      ⟨keeps,
        .of_conntrack (beyond (by decide) (by decide)).1 keeps
          (congrArg (fun m : Mbuf => m.df.conntrack) packet) ?_⟩
    apply ne_lb_of_awaits
    rcases edge with ⟨encap, -⟩ | ⟨id, tx⟩
    · rw [encap]
      rfl
    · rw [tx]
      exact awaits_nextVfTx env.tables id

theorem processNode_gone_keeps {node : Node} {after : FlowStore} (coherent : Coherent flows)
    (result : processNode env outcomes flows m node = .gone after) :
    Keeps Allowed flows after := by
  rcases processNode_leaves result with ⟨_, same⟩ | ⟨port, _, sent⟩
  · rw [same]
    exact (Trims.refl flows).keeps coherent
  · rw [sent]
    exact (tx_trims _ _).keeps coherent

end Nodes

/-! ## One event -/

namespace Led

variable {world : World}

theorem visit (led : Led Allowed world) (offers : Offers world.network Allowed)
    (dpdk : Dpdk) (id : MbufId) (outcomes : NodeOutcomes) :
    Led Allowed (world.visit dpdk id outcomes) := by
  have kept : ∀ {after : FlowStore}, Keeps Allowed world.flows after →
      ∀ f, after.Found f → Guided Allowed (after.value f) :=
    fun keeps _ => guided_of_keeps led.coherent led.guided keeps
  rcases world.visit_cases dpdk id outcomes with
    same | ⟨flight, found, ⟨flows, result, gone⟩ | ⟨tables, visit, result, moved⟩⟩
  · rw [same]
    exact led
  · have keeps : Keeps Allowed world.flows flows := processNode_gone_keeps led.coherent result
    rw [gone]
    exact
      ⟨keeps.coherent, kept keeps, led.outside,
        InFlight.gone led.packets (LedAt.keep keeps (SamePorts.refl _)) flows id⟩
  obtain ⟨keeps, here⟩ :=
    processNode_led led.coherent led.guided led.outside offers
      (led.packets id flight found) result
  have ports := processNode_samePorts result
  rw [moved]
  exact
    ⟨keeps.coherent, kept keeps, led.outside.congr ports,
      InFlight.moved led.packets (LedAt.keep keeps ports) here id flight tables⟩

theorem of_state (led : Led Allowed world) {after : World}
    (state : after.flows = world.flows ∧ after.tables = world.tables ∧
      after.network = world.network)
    (packets : InFlight (LedAt Allowed world.tables.ports world.flows) after) :
    Led Allowed after := by
  obtain ⟨flows, tables, -⟩ := state
  refine ⟨?_, ?_, ?_, ?_⟩
  · rw [flows]
    exact led.coherent
  · rw [flows]
    exact led.guided
  · rw [tables]
    exact led.outside
  · rw [flows, tables]
    exact packets

theorem receive (led : Led Allowed world) (id : MbufId) (frame : Frame) (port : PortId) :
    Led Allowed (world.receive id frame port) :=
  led.of_state (world.receive_state id frame port)
    (InFlight.receive led.packets (fun _ => Or.inl rfl) id frame port)

theorem ipsecBurst (led : Led Allowed world) (dir : IpsecDir)
    (crypto : { env : CryptoEnv // env.Lawful }) (opPool : List OpId) (objs : List MbufId) :
    Led Allowed (world.ipsecBurst dir crypto.1 opPool objs) := by
  apply led.of_state (world.ipsecBurst_state dir crypto.1 opPool objs)
  apply InFlight.ipsecBurst led.packets
  intro before after held conntrack _ elsewhere
  have beyond :=
    (held.resolve_left (ipsecNodeName_beyond dir).1).resolve_left (ipsecNodeName_beyond dir).2
  exact
    .of_conntrack beyond.1 ((Trims.refl _).keeps led.coherent) conntrack (ne_lb_of_awaits elsewhere)

/-- Between the walks of the graph flows may change in any way that keeps them
on allowed targets, since no packet is beyond `cls`. -/
theorem of_quiet (quiet : world.quiet = true) {after : World}
    (flights : after.flights = world.flights) (coherent : Coherent after.flows)
    (guided : ∀ f, after.flows.Found f → Guided Allowed (after.flows.value f))
    (outside : PfsOutside after.tables.ports) : Led Allowed after :=
  ⟨coherent, guided, outside, InFlight.of_quiet (fun _ => Or.inl rfl) quiet flights⟩

theorem trim (led : Led Allowed world) (quiet : world.quiet = true) {flows : FlowStore}
    (trims : Trims world.flows flows) :
    Led Allowed { world with flows } := by
  have keeps : Keeps Allowed world.flows flows := trims.keeps led.coherent
  exact
    of_quiet quiet rfl keeps.coherent
      (fun _ => guided_of_keeps led.coherent led.guided keeps) led.outside

theorem step (led : Led Allowed world) (offers : Offers world.network Allowed) (dpdk : Dpdk)
    {event : Event} (traffic : ∀ request, event ≠ .request request) :
    Led Allowed (world.step dpdk event) := by
  cases event with
  | receive id frame port => exact led.receive id frame port
  | visit id outcomes => exact led.visit offers dpdk id outcomes
  | ipsecBurst dir crypto opPool objs =>
    exact led.ipsecBurst dir crypto opPool objs
  | request request => exact absurd rfl (traffic request)
  | ageFlows now timerHz expired =>
    by_cases quiet : world.quiet = true
    · rw [World.step, if_pos quiet]
      exact led.trim quiet (Trims.ageFlows now timerHz expired world.flows)
    · rw [World.step, if_neg quiet]
      exact led
  | ageRule f =>
    by_cases quiet : world.quiet = true
    · rw [World.step, if_pos quiet]
      exact led.trim quiet (Trims.dropRule world.flows f)
    · rw [World.step, if_neg quiet]
      exact led

end Led

end DpService.Graph

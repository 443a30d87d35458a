import DpService.Graph.Flights
import DpService.Graph.PortUse

/-!
# Orderly runs

A run is orderly when every insertion into a table succeeds, no ICMP error
gets to `conntrack`, and flows are removed with both of their entries.  What
else is demanded of a packet that may take a port depends on the property.
Orderly runs keep the sharing of flows and the ownership of ports.
-/

namespace DpService.Graph

open Foundations Packet Dataplane Flow Ipsec Nodes

variable {after : FlowStore} {node : Node} {dpdk : Dpdk}

/-! ## Removal by requests -/

theorem wholeFlows_of_value {chosen : FlowValue → Bool}
    (counts : ∀ before after, SameFlow before after → chosen after = chosen before) :
    WholeFlows fun _ value => chosen value :=
  ⟨fun _ => counts, fun _ _ => rfl⟩

theorem dpRemoveNatFlows_whole (portId : PortId) (natType : FlowNatType) :
    WholeFlows fun _ value => value.createdPortId == portId && value.nfInfo.natType == natType := by
  apply wholeFlows_of_value
  intro before after same
  rw [same]

theorem dpRemoveIfaceFlows_whole (portId : PortId) (ipv4 : Ipv4) (vni : Vni) :
    WholeFlows fun key value =>
      value.createdPortId == portId || (key.vni == vni && value.org.l3Dst == .v4 ipv4) := by
  constructor
  · intro key before after same
    rw [same]
  · intro value sameVni
    rw [sameVni]

def RemovesWhole : Request → Prop
  | .removeFlows chosen _ => WholeFlows chosen
  | _ => True

def WholeRemoval (before after : FlowStore) : Prop :=
  after = before ∨ ∃ chosen stored, WholeFlows chosen ∧ after = dpRemoveFlows chosen stored before

theorem dpProcessDeleteInterface_flows (outcomes : DeleteOutcomes) (tables : Tables)
    (flows : FlowStore) (ifaceId : IfaceId) :
    WholeRemoval flows (dpProcessDeleteInterface outcomes tables flows ifaceId).2.1 := by
  rw [dpProcessDeleteInterface]
  split
  · exact Or.inl rfl
  · exact Or.inr ⟨_, _, dpRemoveIfaceFlows_whole _ _ _, rfl⟩

theorem dpProcessDeleteVip_flows (config : NatConfig) (flows : FlowStore)
    (storedRules : FlowKey → Nat) (ifaceId : IfaceId) :
    WholeRemoval flows (dpProcessDeleteVip config flows storedRules ifaceId).2.1 := by
  rw [dpProcessDeleteVip]
  split
  · exact Or.inl rfl
  split
  · exact Or.inl rfl
  · exact Or.inr ⟨_, _, dpRemoveNatFlows_whole _ _, rfl⟩

theorem dpProcessDeleteNat_flows (config : NatConfig) (flows : FlowStore)
    (storedRules : FlowKey → Nat) (ifaceId : IfaceId) :
    WholeRemoval flows (dpProcessDeleteNat config flows storedRules ifaceId).2.1 := by
  rw [dpProcessDeleteNat]
  split
  · exact Or.inl rfl
  split
  · exact Or.inl rfl
  · exact Or.inr ⟨_, _, dpRemoveNatFlows_whole _ _, rfl⟩

theorem handle_flows (world : World) {request : Request} (whole : RemovesWhole request) :
    WholeRemoval world.flows (world.handle request).flows := by
  cases request with
  | createInterface outcomes request => exact Or.inl rfl
  | deleteInterface outcomes ifaceId =>
    exact dpProcessDeleteInterface_flows outcomes world.tables world.flows ifaceId
  | enableInterfaceEncryption ifaceId => exact Or.inl rfl
  | disableInterfaceEncryption ifaceId => exact Or.inl rfl
  | registerVnf outcomes generated request => exact Or.inl rfl
  | unregisterVnf ulAddr6 => exact Or.inl rfl
  | createVip outcomes request => exact Or.inl rfl
  | deleteVip storedRules ifaceId =>
    exact dpProcessDeleteVip_flows world.natConfig world.flows storedRules ifaceId
  | createNat outcomes request => exact Or.inl rfl
  | deleteNat storedRules ifaceId =>
    exact dpProcessDeleteNat_flows world.natConfig world.flows storedRules ifaceId
  | securityAssociation event => exact Or.inl rfl
  | configure network => exact Or.inl rfl
  | removeFlows chosen storedRules =>
    exact Or.inr ⟨chosen, storedRules, whole, rfl⟩

/-! ## The invariant -/

/-- A packet that waits at a node behind `cls` has a flow that is still there,
and at the NAT nodes it is ready to have it decided about. -/
def TrackedAt (store : FlowStore) (m : Mbuf) (node : Node) : Prop :=
  node = .cls ∨ node = .drop ∨ (Follows store m ∧ (awaits node = true → Ready store m))

structure Tracked (demands : Demands) (world : World) : Prop where
  shared : Shared demands world.flows
  packets : ∀ id flight, world.flights.lookup id = some flight →
    TrackedAt world.flows (world.mbufs id) flight.node

structure Succeeds (outcomes : NodeOutcomes) : Prop where
  inserted : outcomes.conntrack.insert = InsertOutcomes.succeed
  rekeyed : outcomes.rekeyed = true
  snatRekeyed : outcomes.snat.rekeyed = true

structure Regular
    (demands : Demands) (env : NodeEnv) (store : FlowStore) (m : Mbuf)
    (node : Node) : Prop where
  ordinary : node = .conntrack → ¬ isIcmpError (extractHeaders m).1.df
  admitted : node = .snat → Admitted demands env store m

def Orderly (demands : Demands) (dpdk : Dpdk) (world : World) : Event → Prop
  | .visit id outcomes =>
    Succeeds outcomes ∧ ∀ flight, world.flights.lookup id = some flight →
        Regular demands (world.env dpdk) world.flows (world.mbufs id) flight.node
  | .request request => RemovesWhole request
  | _ => True

variable {demands : Demands}

theorem TrackedAt.of_passes {before : FlowStore} {m : Mbuf} {next : Node}
    (passes : Passes demands before after m next) : TrackedAt after m next :=
  Or.inr (Or.inr ⟨passes.follows, passes.ready⟩)

theorem TrackedAt.evolve {before : FlowStore} (evolves : Evolves before after) (m : Mbuf)
    (node : Node) (tracked : TrackedAt before m node) :
    TrackedAt after m node := by
  rcases tracked with cls | drop | ⟨follows, ready⟩
  · exact Or.inl cls
  · exact Or.inr (Or.inl drop)
  · exact
      Or.inr (Or.inr ⟨evolves.follows follows, fun waits => evolves.ready follows (ready waits)⟩)

/-! ## One node -/

section Nodes

variable {env : NodeEnv} {outcomes : NodeOutcomes} {flows : FlowStore}
variable {m : Mbuf}

theorem TrackedAt.unchanged (shared : Shared demands flows)
    (follows : Follows flows m) {after : Mbuf} {next : Node}
    (conntrack : after.df.conntrack = m.df.conntrack) (elsewhere : awaits next = false) :
    TrackedAt flows after next :=
  .of_passes (Passes.of_not_awaits (Advances.refl shared) follows conntrack elsewhere)

theorem processNode_tracked {tables : Tables} {visit : Visit} (shared : Shared demands flows) (tracked : TrackedAt flows m node) (succeeds : Succeeds outcomes)
    (regular : Regular demands env flows m node)
    (result : processNode env outcomes flows m node = .moved tables visit) :
    Advances demands flows visit.flows ∧ TrackedAt visit.flows visit.m visit.next := by
  have same := Advances.refl shared
  -- beyond `cls` the packet has a flow that is still there
  have beyond : node ≠ .cls → node ≠ .drop →
      Follows flows m ∧ (awaits node = true → Ready flows m) :=
    fun notCls notDrop => (tracked.resolve_left notCls).resolve_left notDrop
  cases processNode_moves result with
  | fresh packet next untracked elsewhere =>
    refine ⟨same, Or.inr (Or.inr ⟨?_, ?_⟩)⟩
    · intro f carried
      rw [untracked] at carried
      cases carried
    · intro waits
      rw [elsewhere] at waits
      cases waits
  | stopped => exact ⟨same, Or.inr (Or.inl rfl)⟩
  | again => exact ⟨same, Or.inl rfl⟩
  | passed packet next notCls notDrop conntrack elsewhere =>
    have follows := (beyond notCls notDrop).1
    exact ⟨same, TrackedAt.unchanged shared follows conntrack elsewhere⟩
  | conntrack =>
    have passes :=
      conntrack_passes shared env succeeds.inserted
        (beyond nofun nofun).1 (regular.ordinary rfl)
    exact ⟨passes.advances, .of_passes passes⟩
  | lb ran =>
    obtain ⟨follows, ready⟩ := beyond nofun nofun
    have passes := lb_passes shared follows (ready rfl) ran
    exact ⟨passes.advances, .of_passes passes⟩
  | dnat ran =>
    obtain ⟨follows, ready⟩ := beyond nofun nofun
    rw [succeeds.rekeyed] at ran
    have passes := dnat_passes shared follows (ready rfl) ran
    exact ⟨passes.advances, .of_passes passes⟩
  | routed etherType viaPf found notCls notDrop waits =>
    obtain ⟨follows, ready⟩ := beyond notCls notDrop
    have passes :=
      @forwardRouted_passes demands env flows m shared follows
        (ready waits) outcomes.strayVni etherType viaPf found
    exact ⟨same, .of_passes passes⟩
  | snat ran =>
    obtain ⟨follows, ready⟩ := beyond nofun nofun
    have passes :=
      snat_passes shared follows (ready rfl) (regular.admitted rfl) succeeds.snatRekeyed ran
    exact ⟨passes.advances, .of_passes passes⟩
  | firewall ran =>
    have passes := firewall_passes shared (beyond nofun nofun).1 ran
    exact ⟨passes.advances, .of_passes passes⟩

theorem processNode_gone (shared : Shared demands flows)
    (tracked : TrackedAt flows m node)
    (result : processNode env outcomes flows m node = .gone after) :
    Advances demands flows after := by
  rcases processNode_leaves result with ⟨_, same⟩ | ⟨port, tx, sent⟩
  · rw [same]
    exact Advances.refl shared
  rw [sent]
  rw [tx] at tracked
  have follows := ((tracked.resolve_left nofun).resolve_left nofun).1
  exact tx_advances shared follows _ _

end Nodes

/-! ## One event -/

inductive PortStep (demands : Demands) (before after : NatPorts) : Prop
  | visited (visit : PortVisit before after)
  | swept
      (returned : Relation.ReflTransGen (PortReturned demands) before after)

theorem PortStep.refl (demands : Demands) (ports : NatPorts) : PortStep demands ports ports :=
  .visited (PortVisit.refl ports)

/-- An event keeps the invariant, and does no more to the ports than give one
away or take some back. -/
structure Stepped (demands : Demands) (before after : World) : Prop where
  tracked : Tracked demands after
  ports : PortStep demands before.flows.ports after.flows.ports

namespace Tracked

variable {world : World}

theorem unchanged (tracked : Tracked demands world) : Stepped demands world world :=
  ⟨tracked, PortStep.refl demands world.flows.ports⟩

theorem visit (tracked : Tracked demands world) {id : MbufId} {outcomes : NodeOutcomes}
    (orderly : Orderly demands dpdk world (.visit id outcomes)) :
    Stepped demands world (world.visit dpdk id outcomes) := by
  obtain ⟨succeeds, regular⟩ := orderly
  rcases world.visit_cases dpdk id outcomes with
    same | ⟨flight, found, ⟨flows, result, gone⟩ | ⟨tables, visit, result, moved⟩⟩
  · rw [same]
    exact tracked.unchanged
  · have advances :=
      processNode_gone tracked.shared (tracked.packets id flight found) result
    rw [gone]
    exact
      ⟨⟨advances.shared,
        InFlight.gone tracked.packets (TrackedAt.evolve advances.evolves)
          flows id⟩, .visited advances.ports⟩
  obtain ⟨advances, here⟩ :=
    processNode_tracked tracked.shared
      (tracked.packets id flight found) succeeds (regular flight found)
      result
  rw [moved]
  exact
    ⟨⟨advances.shared,
      InFlight.moved tracked.packets (TrackedAt.evolve advances.evolves)
        here id flight tables⟩, .visited advances.ports⟩

theorem receive (tracked : Tracked demands world) (id : MbufId) (frame : Frame) (port : PortId) :
    Stepped demands world (world.receive id frame port) := by
  have packets := InFlight.receive tracked.packets (fun _ => Or.inl rfl) id frame port
  obtain ⟨flows, -⟩ := world.receive_state id frame port
  refine ⟨⟨?_, ?_⟩, ?_⟩
  · rw [flows]
    exact tracked.shared
  · rw [flows]
    exact packets
  · rw [flows]
    exact PortStep.refl demands world.flows.ports

theorem ipsecBurst (tracked : Tracked demands world) (dir : IpsecDir)
    (crypto : {env : CryptoEnv // env.Lawful }) (opPool : List OpId) (objs : List MbufId) :
    Stepped demands world (world.ipsecBurst dir crypto.1 opPool objs) := by
  have packets :=
    InFlight.ipsecBurst tracked.packets dir crypto opPool objs (by
      intro before after held conntrack _ elsewhere
      have follows := held.resolve_left (ipsecNodeName_beyond dir).1
      exact
        TrackedAt.unchanged tracked.shared
          (follows.resolve_left (ipsecNodeName_beyond dir).2).1 conntrack
          elsewhere)
  obtain ⟨flows, -⟩ := world.ipsecBurst_state dir crypto.1 opPool objs
  refine ⟨⟨?_, ?_⟩, ?_⟩
  · rw [flows]
    exact tracked.shared
  · rw [flows]
    exact packets
  · rw [flows]
    exact PortStep.refl demands world.flows.ports

/-- Between the walks of the graph flows may come and go, since no packet is
beyond `cls`. -/
theorem setFlows (quiet : world.quiet = true) {after : World}
    (flights : after.flights = world.flights)
    (shared : Shared demands after.flows) : Tracked demands after :=
  ⟨shared, InFlight.of_quiet (fun _ => Or.inl rfl) quiet flights⟩

theorem sweep (quiet : world.quiet = true) {after : World} (flights : after.flights = world.flights)
    (swept : Swept demands world.flows after.flows) :
    Stepped demands world after :=
  ⟨setFlows quiet flights swept.shared, .swept swept.ports⟩

theorem handle (tracked : Tracked demands world) (quiet : world.quiet = true)
    {request : Request} (whole : RemovesWhole request) :
    Stepped demands world (world.handle request) := by
  have flights := (world.handle_packets request).1
  rcases handle_flows world whole with same | ⟨chosen, stored, whole, removed⟩
  · refine ⟨setFlows quiet flights ?_, ?_⟩
    · rw [same]
      exact tracked.shared
    · rw [same]
      exact PortStep.refl demands world.flows.ports
  · apply sweep quiet flights
    rw [removed]
    exact tracked.shared.remove whole stored

theorem ageRule (tracked : Tracked demands world) (quiet : world.quiet = true) (f : Handle) :
    Stepped demands world
      { world with flows := dropRule world.flows f } := by
  obtain ⟨shared, returned⟩ := tracked.shared.dropRule f
  exact ⟨setFlows quiet rfl shared, .swept (Relation.ReflTransGen.single returned)⟩

theorem step (tracked : Tracked demands world) {event : Event}
    (orderly : Orderly demands dpdk world event) :
    Stepped demands world (world.step dpdk event) := by
  cases event with
  | receive id frame port => exact tracked.receive id frame port
  | visit id outcomes => exact tracked.visit orderly
  | ipsecBurst dir crypto opPool objs =>
    exact tracked.ipsecBurst dir crypto opPool objs
  | request request =>
    change Stepped demands world (if world.quiet then world.handle request else world)
    split
    · rename_i quiet
      exact tracked.handle quiet orderly
    · exact tracked.unchanged
  | ageFlows now timerHz expired =>
    change
      Stepped demands world
        (if world.quiet then
          { world with flows := dpProcessAgedFlowsNonOffload now timerHz expired world.flows }
        else world)
    split
    · rename_i quiet
      exact sweep quiet rfl (tracked.shared.age now timerHz expired)
    · exact tracked.unchanged
  | ageRule f =>
    change
      Stepped demands world
        (if world.quiet then { world with flows := dropRule world.flows f }
        else world)
    split
    · rename_i quiet
      exact tracked.ageRule quiet f
    · exact tracked.unchanged

end Tracked

theorem shared_empty (demands : Demands) : Shared demands FlowStore.empty where
  toSustained := sustained_empty
  coherent := coherent_empty
  undecided := fun _ live => absurd live.1 (Nat.not_lt_zero _)
  sameVni := fun _ live => absurd live.1 (Nat.not_lt_zero _)
  natted := fun _ live => absurd live.1 (Nat.not_lt_zero _)
  distinct := fun _ _ _ live => absurd live.1 (Nat.not_lt_zero _)
  owned := fun _ _ _ held => by cases held

theorem tracked_start (demands : Demands) (start : StartUp) : Tracked demands start.world where
  shared := shared_empty demands
  packets := fun _ _ found => by cases found

def OrderlyRun (demands : Demands) (dpdk : Dpdk) (start : StartUp) (events : List Event) :
    Prop :=
  (serviceMachine dpdk start).Along (Orderly demands dpdk) start.world events

theorem tracked_run (dpdk : Dpdk) (start : StartUp) {events : List Event}
    (orderly : OrderlyRun demands dpdk start events) :
    Tracked demands ((serviceMachine dpdk start).run events) :=
  Machine.runFrom_invariant_along
    (fun _ _ allowed tracked => (tracked.step allowed).tracked) events orderly
    (tracked_start demands start)

/-! ## Checking a run -/

instance (df : DpFlow) : Decidable (isIcmpError df) :=
  inferInstanceAs (Decidable (_ ∧ _))

/-- A packet that meets every demand: it is no ICMP error, and it gets to
`snat` as an IPv4 packet on the port that its flow was created for. -/
def checkRegular (env : NodeEnv) (store : FlowStore) (m : Mbuf) (node : Node) : Bool :=
  (node != .conntrack || !decide (isIcmpError (extractHeaders m).1.df)) &&
    (node != .snat ||
      (m.df.l3Type != etherTypeIpv6 &&
        m.df.conntrack.all fun f =>
          (dpGetInPort env.tables.ports m).portId == (store.value f).createdPortId))

def checkOrderly (dpdk : Dpdk) (world : World) : Event → Bool
  | .visit id outcomes =>
    decide (outcomes.conntrack.insert = InsertOutcomes.succeed) &&
      outcomes.rekeyed && outcomes.snat.rekeyed &&
      (world.flights.lookup id).all fun flight =>
        checkRegular (world.env dpdk) world.flows (world.mbufs id) flight.node
  | .request (.removeFlows _ _) => false
  | _ => true

theorem regular_of_check (demands : Demands) {env : NodeEnv} {store : FlowStore} {m : Mbuf}
    (checked : checkRegular env store m node = true) :
    Regular demands env store m node := by
  rw [checkRegular, Bool.and_eq_true, Bool.or_eq_true, Bool.or_eq_true, Bool.and_eq_true] at checked
  obtain ⟨tracked, translated⟩ := checked
  constructor
  · intro conntrack
    rcases tracked with elsewhere | ordinary
    · exact absurd conntrack (ne_of_beq_false (Bool.not_eq_true' _ ▸ elsewhere))
    · exact of_decide_eq_false (Bool.not_eq_true' _ ▸ ordinary)
  intro snat
  rcases translated with elsewhere | ⟨ipv4, charged⟩
  · exact absurd snat (ne_of_beq_false (Bool.not_eq_true' _ ▸ elsewhere))
  constructor
  · intro f carried _ _
    rw [carried] at charged
    exact eq_of_beq charged
  · intro _ ipv6
    exact absurd ipv6 (ne_of_beq_false (Bool.not_eq_true' _ ▸ ipv4))

theorem orderly_of_check (demands : Demands) (dpdk : Dpdk) (world : World) (event : Event)
    (checked : checkOrderly dpdk world event = true) :
    Orderly demands dpdk world event := by
  cases event with
  | visit id outcomes =>
    rw [checkOrderly, Bool.and_eq_true, Bool.and_eq_true, Bool.and_eq_true] at checked
    obtain ⟨⟨⟨inserted, rekeyed⟩, snatRekeyed⟩, packet⟩ := checked
    refine ⟨⟨of_decide_eq_true inserted, rekeyed, snatRekeyed⟩, ?_⟩
    intro flight found
    rw [found] at packet
    exact regular_of_check demands packet
  | request request =>
    cases request with
    | removeFlows chosen stored => cases checked
    | _ => trivial
  | _ => trivial

theorem orderlyRun_of_check (demands : Demands) {start : StartUp} {events : List Event}
    (checked :
      (serviceMachine dpdk start).checkAlong (checkOrderly dpdk) start.world events = true) :
    OrderlyRun demands dpdk start events :=
  Machine.along_of_check (orderly_of_check demands dpdk) checked

end DpService.Graph

import DpService.Graph.Policy
import DpService.Nodes.CryptoSafety

/-!
# Protection along every run

The policy of the packets in flight is kept by every event, so it holds in
every state of the service.  What it says about the packets that a guest sends
and receives is the contract of encryption.
-/

namespace DpService.Graph

open Foundations Packet Dataplane Flow Ipsec Nodes

/-! ## Every event -/

structure Policed (world : World) : Prop where
  sound : world.tables.Sound
  flights : ∀ id flight, world.flights.lookup id = some flight →
    Policy world.tables flight (world.mbufs id) flight.node

theorem processNode_policy {env : NodeEnv} {outcomes : NodeOutcomes} {flows : FlowStore}
    {flight : Flight} {m : Mbuf} {tables : Tables} {visit : Visit} (sound : env.tables.Sound)
    (policy : Policy env.tables flight m flight.node)
    (result : processNode env outcomes flows m flight.node = .moved tables visit) :
    SameRoles env.tables tables ∧ tables.Sound ∧
      Policy env.tables (flight.moveTo visit.next) visit.m visit.next := by
  have unchanged : SameRoles env.tables env.tables ∧ env.tables.Sound :=
    ⟨SameRoles.refl env.tables, sound⟩
  cases waits : flight.node with
  | drop | tx port | ipsecDecap | ipsecEncap =>
    rw [waits] at result
    cases result
  | cls =>
    rw [waits] at result policy
    cases result
    exact ⟨unchanged.1, sound, cls_policy sound waits policy⟩
  | arp | ipv6Nd | dhcp | dhcpv6 =>
    rw [waits] at result
    have roles := service_roles sound outcomes.service m
    cases result
    exact ⟨roles.1, roles.2, service_policy flight outcomes.service m⟩
  | ipipDecap =>
    rw [waits] at result policy
    cases result
    exact ⟨unchanged.1, sound, ipipDecap_policy waits policy⟩
  | conntrack =>
    rw [waits] at result policy
    cases result
    exact ⟨unchanged.1, sound, conntrack_policy outcomes.conntrack flows waits policy⟩
  | lb =>
    rw [waits] at result policy
    obtain ⟨rfl, ran⟩ := moved_of_asserted result
    exact ⟨unchanged.1, sound, lb_policy waits policy (lb_balanced ran)⟩
  | dnat =>
    rw [waits] at result policy
    obtain ⟨rfl, ran⟩ := moved_of_asserted result
    have hop := dnat_hop ran
    exact ⟨unchanged.1, sound, dnat_policy waits policy hop.1 hop.2⟩
  | ipv4Lookup =>
    rw [waits] at result policy
    cases result
    refine ⟨unchanged.1, sound, ?_⟩
    dsimp only
    unfold ipv4Lookup dpGetIp4OutPort
    rcases forwardRouted_hop outcomes.strayVni etherTypeIpv4
        (fun _ => dpMultipathGetPf env.tables m.df.dpFlowHash) with
      dropped | ⟨routed, kept⟩
    · rw [dropped]
      trivial
    · rw [routed]
      exact lookup_policy (by rw [waits]; exact nofun) (by rw [waits]; exact nofun) policy kept
  | ipv6Lookup =>
    rw [waits] at result policy
    cases result
    refine ⟨unchanged.1, sound, ?_⟩
    dsimp only
    unfold ipv6Lookup dpGetIp6OutPort
    dsimp only
    rcases forwardRouted_hop outcomes.strayVni etherTypeIpv6 id with
      dropped | ⟨routed, kept⟩
    · rw [dropped]
      trivial
    · rw [routed]
      exact lookup_policy (by rw [waits]; exact nofun) (by rw [waits]; exact nofun) policy kept
  | snat =>
    rw [waits] at result policy
    obtain ⟨rfl, ran⟩ := moved_of_asserted result
    have hop := snat_hop ran
    exact ⟨unchanged.1, sound, snat_policy waits policy hop.1 hop.2⟩
  | firewall =>
    rw [waits] at result policy
    obtain ⟨rfl, ran⟩ := moved_of_asserted result
    have hop := firewall_hop ran
    refine ⟨unchanged.1, sound, ?_⟩
    rw [hop.1]
    exact firewall_policy waits policy hop.2
  | packetRelay =>
    rw [waits] at result policy
    obtain ⟨rfl, -, ran⟩ := moved_of_packetRelay result
    have hop := packetRelay_hop ran
    exact ⟨unchanged.1, sound, packetRelay_policy waits policy hop.1 hop.2⟩
  | ipipEncap =>
    rw [waits] at result policy
    cases result
    exact ⟨unchanged.1, sound, ipipEncap_policy sound waits policy⟩

namespace Policed

variable {world : World}

theorem each (policed : Policed world) :
    EachFlight (fun flight m => Policy world.tables flight m flight.node) world :=
  policed.flights

theorem visit (policed : Policed world) (dpdk : Dpdk) (id : MbufId) (outcomes : NodeOutcomes) :
    Policed (world.visit dpdk id outcomes) := by
  rcases world.visit_cases dpdk id outcomes with
    same | ⟨flight, found, ⟨flows, _, same⟩ | ⟨tables, visit, result, same⟩⟩
  · rw [same]
    exact policed
  · rw [same]
    exact ⟨policed.sound, policed.each.gone (fun _ _ policy => policy) flows id⟩
  rw [same]
  obtain ⟨roles, sound, moved⟩ :=
    processNode_policy policed.sound (policed.flights id flight found) result
  exact
    ⟨sound,
      policed.each.moved (fun _ _ policy => policy.congr roles) (moved.congr roles) id tables⟩

theorem receive (policed : Policed world) (id : MbufId) (frame : Frame) (port : PortId) :
    Policed (world.receive id frame port) := by
  obtain ⟨-, tables, -⟩ := world.receive_state id frame port
  have flights : EachFlight _ (world.receive id frame port) :=
    policed.each.receive id (by
      rintro m rfl _
      exact ⟨nofun, nofun, Iff.rfl⟩)
  refine ⟨?_, ?_⟩
  · rw [tables]
    exact policed.sound
  · rw [tables]
    exact flights

theorem burstPacket {tables : Tables} {dir : IpsecDir} {flight : Flight} {m after : Mbuf}
    (waits : flight.node = ipsecNodeName dir) (policy : Policy tables flight m (ipsecNodeName dir))
    (tunnel : SameTunnel m after) :
    Policy tables (flight.moveTo ((ipsecNode tables dir).next after)) after
      ((ipsecNode tables dir).next after) := by
  cases dir with
  | egress =>
    obtain ⟨encrypting, vf, notDecrypted⟩ := policy
    change
      Policy tables (flight.moveTo (ipsecEncapNext tables after)) after
        (ipsecEncapNext tables after)
    unfold ipsecEncapNext
    split
    · trivial
    rcases tables.nextPfTx_cases after.df.nxtHop with dropped | sent
    · rw [dropped]
      trivial
    rw [sent]
    intro _
    rw [tunnel.port, Flight.encrypted_moveTo, Flight.decrypted_moveTo, waits]
    refine ⟨fun _ => iff_of_true (Or.inl rfl) encrypting, ?_⟩
    rintro (here | passed)
    · cases here
    · exact absurd passed notDecrypted
  | ingress =>
    obtain ⟨inside, pf, esp, matched, guest, resolved⟩ := policy
    change Policy tables (flight.moveTo (ipsecDecapNext after)) after (ipsecDecapNext after)
    unfold ipsecDecapNext
    split
    · trivial
    have passed : (flight.moveTo .ipipDecap).decrypted :=
      (Flight.decrypted_moveTo _).mpr (Or.inl waits)
    have fromPf : tables.isPf after.port = true := by
      rw [tunnel.port]
      exact pf
    refine
      ⟨⟨?_, fun _ => fromPf, tunnel.natType ▸ inside.direct⟩, fromPf,
        iff_of_true esp passed, ?_, fun _ => ⟨⟨?_, ?_⟩, ?_⟩⟩
    · rw [Flight.encrypted_moveTo, waits]
      exact not_or_intro nofun inside.plain
    · unfold Matched
      rw [tunnel.ulDst]
      exact matched
    · rw [tunnel.vnfType]
      exact guest.vnfType
    · rw [tunnel.nxtHop]
      exact guest.nxtHop
    · rw [tunnel.resolved]
      exact resolved

theorem burstTunnel {world : World} {dir : IpsecDir} {crypto : CryptoEnv} {opPool : List OpId}
    {objs : List MbufId} {result : BurstResult} {flight : Flight}
    {id : MbufId} (member : id ∈ objs)
    (spec :
      BurstSpec (ipsecNode world.tables dir) crypto world.db
        { mbufs := world.mbufs, opPool, queue := [] } objs result)
    (policy : Policy world.tables flight (world.mbufs id) (ipsecNodeName dir)) :
    SameTunnel (world.mbufs id) (result.state.mbufs id) := by
  cases dir with
  | egress =>
    exact
      burst_tunnel spec member (fun sa => SameTunnel.refl _) (ipsecEncap_settle_tunnel world.tables)
  | ingress => ?_
  obtain ⟨_, _, _, _, _, resolved⟩ := policy
  exact
    burst_tunnel spec member
      (ipsecDecap_permit_tunnel world.tables
        (m := setCryptoFailed true (world.mbufs id)) resolved)
      (ipsecDecap_settle_tunnel world.tables)

theorem ipsecBurst (policed : Policed world) (dir : IpsecDir)
    (crypto : { env : CryptoEnv // env.Lawful }) (opPool : List OpId) (objs : List MbufId) :
    Policed (world.ipsecBurst dir crypto.1 opPool objs) := by
  obtain ⟨-, tables, -⟩ := world.ipsecBurst_state dir crypto.1 opPool objs
  have flights :=
    policed.each.ipsecBurst dir crypto opPool objs (by
      intro id member flight result waits spec policy
      rw [waits] at policy
      exact burstPacket waits policy (burstTunnel member spec policy))
  refine ⟨?_, ?_⟩
  · rw [tables]
    exact policed.sound
  · rw [tables]
    exact flights

theorem setTables (policed : Policed world) (quiet : world.quiet = true) {after : World}
    (sound : after.tables.Sound) (flights : after.flights = world.flights)
    (mbufs : after.mbufs = world.mbufs) : Policed after := by
  refine ⟨sound, ?_⟩
  intro id flight held
  rw [flights] at held
  have policy := policed.flights id flight held
  rw [world.node_of_quiet quiet held] at policy ⊢
  rw [mbufs]
  exact policy

theorem handle_sound (sound : world.tables.Sound) (request : Request) :
    (world.handle request).tables.Sound := by
  cases request with
  | createInterface outcomes request =>
    exact sound.createInterface outcomes request
  | deleteInterface outcomes ifaceId =>
    exact sound.deleteInterface outcomes world.flows ifaceId
  | enableInterfaceEncryption ifaceId => exact sound.enableEncryption ifaceId
  | disableInterfaceEncryption ifaceId =>
    exact sound.disableEncryption ifaceId
  | registerVnf outcomes generated request =>
    exact sound.registerVnf outcomes generated request
  | unregisterVnf ulAddr6 => exact sound.unregisterVnf ulAddr6
  | createVip outcomes request =>
    exact @Tables.Sound.createVip world.natConfig sound outcomes request
  | deleteVip storedRules ifaceId =>
    exact @Tables.Sound.deleteVip world.natConfig sound world.flows storedRules ifaceId
  | createNat outcomes request =>
    exact @Tables.Sound.createNat world.natConfig sound outcomes request
  | deleteNat storedRules ifaceId =>
    exact @Tables.Sound.deleteNat world.natConfig sound world.flows storedRules ifaceId
  | securityAssociation event => exact sound
  | configure network => exact sound
  | removeFlows chosen storedRules => exact sound

theorem step (policed : Policed world) (dpdk : Dpdk) (event : Event) :
    Policed (world.step dpdk event) := by
  cases event with
  | receive id frame port => exact policed.receive id frame port
  | visit id outcomes => exact policed.visit dpdk id outcomes
  | ipsecBurst dir crypto opPool objs =>
    exact policed.ipsecBurst dir crypto opPool objs
  | request request =>
    change Policed (if world.quiet then world.handle request else world)
    split
    · rename_i quiet
      have packets := world.handle_packets request
      exact policed.setTables quiet (handle_sound policed.sound request) packets.1 packets.2
    · exact policed
  | ageFlows now timerHz expired =>
    change Policed (if world.quiet then { world with flows := _ } else world)
    split
    · exact ⟨policed.sound, policed.flights⟩
    · exact policed
  | ageRule f =>
    change Policed (if world.quiet then { world with flows := _ } else world)
    split
    · exact ⟨policed.sound, policed.flights⟩
    · exact policed

end Policed

theorem StartUp.sound (start : StartUp) : start.world.tables.Sound where
  enabled := by
    intro id port held encrypting
    rw [start.unconfigured id port held] at encrypting
    cases encrypting
  pfPlain := by
    intro id port held _
    rw [start.unconfigured id port held]
    rfl
  pfAllocated := start.pfAllocated
  ifaces := by
    intro ifaceId id port mapped
    cases mapped
  endpoints := by
    intro address vnf port registered
    cases registered
  pf0 := start.pf0IsPf

theorem policed_run (dpdk : Dpdk) (start : StartUp) (events : List Event) :
    Policed ((serviceMachine dpdk start).run events) := by
  apply Machine.run_invariant
  · refine ⟨start.sound, ?_⟩
    intro id flight held
    cases held
  · intro world event policed
    exact policed.step dpdk event

/-- What encryption promises in a state of the service.  Only a service that
can encrypt has an encrypting interface.  A packet from a PF that is about to
be tracked was received under ESP exactly if the interface that it is for
encrypts.  A packet from an interface that is about to leave through a PF has
passed `ipsec_encap` exactly if the interface encrypts. -/
structure EncryptionPolicy (world : World) : Prop where
  enabled : ∀ id port, world.tables.ports.entry id = some port →
    port.iface.encrypt = true → world.tables.conf.ipsecEnabled = true
  received : ∀ id flight vnf port,
    world.flights.lookup id = some flight → flight.node = .conntrack →
      world.tables.isPf (world.mbufs id).port = true →
      world.tables.endpoint (world.mbufs id).df.tunInfo.ulDstAddr6 = some (vnf, port) →
      (ipv6Proto flight.received = ipprotoEsp ↔ port.iface.encrypt = true)
  sent : ∀ id flight port,
    world.flights.lookup id = some flight → flight.node = .tx port → world.tables.isPf port = true →
      world.tables.isPf (world.mbufs id).port = false →
      (.ipsecEncap ∈ flight.path ↔ world.tables.encrypts (world.mbufs id).port = true)

theorem encryptionPolicy_of_run (dpdk : Dpdk) (start : StartUp) (events : List Event) :
    EncryptionPolicy ((serviceMachine dpdk start).run events) := by
  have policed := policed_run dpdk start events
  refine ⟨policed.sound.enabled, ?_, ?_⟩
  · intro id flight vnf port held waits fromPf endpoint
    have policy := policed.flights id flight held
    rw [waits] at policy
    obtain ⟨_, agree, _⟩ := policy
    obtain ⟨registered, found⟩ := portId_of_endpoint endpoint
    have matched := (agree fromPf).2 vnf registered
    rw [Tables.encrypts_of_found found] at matched
    exact matched
  intro id flight port held waits toPf fromVf
  have policy := policed.flights id flight held
  rw [waits] at policy
  exact (policy toPf).1 fromVf

/-- PFs stay in use and never encrypt, identifiers name VFs, and the underlay
addresses of PFs are those of load balancers. -/
theorem roles_of_run (dpdk : Dpdk) (start : StartUp) (events : List Event) :
    ((serviceMachine dpdk start).run events).tables.Sound :=
  (policed_run dpdk start events).sound

/-- What the crypto nodes get, and where decrypted packets may go. -/
def CryptoAdmission (world : World) : Prop :=
  ∀ id flight, world.flights.lookup id = some flight →
    match flight.node with
    | .ipsecEncap => world.tables.encrypts (world.mbufs id).port = true ∧ ¬ flight.decrypted
    | .ipsecDecap => world.tables.isPf (world.mbufs id).port = true ∧ flight.esp
    | .firewall => flight.decrypted → world.tables.isPf (world.mbufs id).df.nxtHop = false
    | _ => True

theorem cryptoAdmission_of_run (dpdk : Dpdk) (start : StartUp) (events : List Event) :
    CryptoAdmission ((serviceMachine dpdk start).run events) := by
  intro id flight held
  have policy := (policed_run dpdk start events).flights id flight held
  generalize flight.node = node at policy ⊢
  cases node with
  | ipsecEncap => exact ⟨policy.1, policy.2.2⟩
  | ipsecDecap => exact ⟨policy.2.1, policy.2.2.1⟩
  | firewall => exact policy.2
  | _ => trivial

/-! ### A host with one guest -/

def zeroDpdk : Dpdk where
  flowHash := fun _ => 0
  portmapHash := fun _ => 0
  ipv4Cksum := fun _ => 0
  ipv4UdptcpCksum := fun _ => 0
  ipv6UdptcpCksum := fun _ => 0

def hostPort (isPf : Bool) (portId : PortId) (devName : String) : Port :=
  { bootPort isPf portId with devName, linkUp := true, allocated := isPf }

def hostPorts : PortTable :=
  (((PortTable.empty.update (hostPort true 0 "pf0")).update
    (hostPort true 1 "pf1")).update (hostPort false 2 "vf0")).update (hostPort false 3 "vf1")

theorem hostPorts_forall {property : PortId → Port → Prop}
    (pf0 : property 0 (hostPort true 0 "pf0")) (pf1 : property 1 (hostPort true 1 "pf1"))
    (vf0 : property 2 (hostPort false 2 "vf0")) (vf1 : property 3 (hostPort false 3 "vf1")) :
    ∀ id port, hostPorts.entry id = some port → property id port :=
  PortTable.update_forall vf1
    (PortTable.update_forall vf0
      (PortTable.update_forall pf1 (PortTable.update_forall pf0 (fun _ _ held => nomatch held))))

def hostNetwork : Network :=
  { Network.empty with
    route4 := fun vni _ =>
      if vni = 100 then some ⟨0, 0, 100, peerUnderlay⟩ else none
    route6 := fun vni _ =>
      if vni = 100 then some ⟨0, 0, 100, peerUnderlay⟩ else none }

def hostStart (conf : DpConf) : StartUp where
  conf := conf
  ports := hostPorts
  pf0 := 0
  pf1 := 1
  network := hostNetwork
  mbufs := fun _ => mbufOn 0 (tunnelFrame Ipv6.zero Ipv6.zero)
  unconfigured := hostPorts_forall rfl rfl rfl rfl
  pfAllocated := hostPorts_forall (fun _ => rfl) (fun _ => rfl) nofun nofun
  pf0IsPf := ⟨hostPort true 0 "pf0", rfl, rfl⟩

def hostMachine (conf : DpConf) : Machine World Event :=
  serviceMachine zeroDpdk (hostStart conf)

def meterSet : MeterOutcomes where
  total := .set
  publicSet := true
  reset := true

def created : CreateOutcomes where
  generated := Ipv6.zero
  vnf := ⟨true, true⟩
  mapped := true
  routeTables := true
  route4 := none
  route6 := none
  meter := meterSet
  started := true
  pfLinkUp := true

def guestIface (ifaceId : IfaceId) (pciName : String) (ip4Addr : Ipv4) (ulAddr6 : Ipv6)
    (encrypt : Bool) : DpgrpcIface where
  ifaceId := ifaceId
  pciName := pciName
  vni := 100
  ip4Addr := ip4Addr
  ip6Addr := Ipv6.zero
  ulAddr6 := ulAddr6
  totalFlowRateCap := 0
  publicFlowRateCap := 0
  encrypt := encrypt

def createGuest (encrypt : Bool) : Event :=
  .request (.createInterface created (guestIface "guest" "vf0" 0x0a000001 guestUnderlay encrypt))

def natUnderlay : Ipv6 :=
  { guestUnderlay with sfx := 6 }

def natCreated : NatOutcomes where
  generated := Ipv6.zero
  vnf := ⟨true, true⟩
  snatCreated := true
  dnatCreated := true

def createGuestNat (range : PortRange) : Event :=
  .request
    (.createNat natCreated
      { ifaceId := "guest", addr := .v4 0xac100009, ulAddr6 := natUnderlay, range })

def eightPorts : PortRange where
  minPort := 1000
  maxPort := 1008
  ordered := by decide

def etherHdr (type : UInt16) : List UInt8 :=
  List.replicate 12 0 ++ beBytes 2 type.toNat

def ipv4Packet (proto : UInt8) (src dst : Ipv4) (payload : List UInt8) : List UInt8 :=
  [0x45, 0] ++ beBytes 2 (ipv4HdrLen + payload.length) ++
    [0, 0, 0, 0, 64, proto, 0, 0] ++ beBytes 4 src.toNat ++ beBytes 4 dst.toNat ++ payload

def icmpMessage (type : UInt8) (identifier : UInt16) : List UInt8 :=
  [type, 0, 0, 0] ++ beBytes 2 identifier.toNat ++ [0, 1]

def frameOf (packetType : UInt32) (data : List UInt8) : Frame where
  data := data
  stale := fun _ => 0
  headroom := 128
  packetType := ptypeL2Ether ||| packetType
  olFlags := 0
  txOffload := ⟨0, 0, 0, 0, 0⟩

def tunnelled (src dst : Ipv6) (packet : List UInt8) : Frame :=
  frameOf ptypeL3Ipv6
    (etherHdr etherTypeIpv6 ++ outerIpv6Hdr packet.length.toUInt16 ipprotoIpip src dst ++ packet)

def guestWithSas : List Event :=
  [createGuest true, .request (.securityAssociation (.create (egressSa 256 100), .success)),
    .request (.securityAssociation (.create (ingressSa 512 100), .success))]

def throughIpsec (dir : IpsecDir) (id : MbufId) : Event :=
  .ipsecBurst dir ⟨nullEsp, nullEsp_lawful⟩ [1] [id]

def guestTraffic : List Event :=
  guestWithSas ++
    [.receive 7
      (espEncapsulate 512
        (tunnelled peerUnderlay guestUnderlay
          (ipv4Packet ipprotoIcmp 0x08080808 0x0a000001 (icmpMessage 8 5))))
      0] ++
    visits 7 1 ++ [throughIpsec .ingress 7] ++ visits 7 1 ++
    [.receive 8
      (frameOf ptypeL3Ipv4
        (etherHdr etherTypeIpv4 ++ ipv4Packet ipprotoIcmp 0x0a000001 0x08080808 (icmpMessage 8 5)))
      2] ++
    visits 8 7 ++ [throughIpsec .egress 8]

def World.nodeOf (world : World) (id : MbufId) : Option Node :=
  (world.flights.lookup id).map Flight.node

def World.pathOf (world : World) (id : MbufId) : List Node :=
  ((world.flights.lookup id).map Flight.path).getD []

theorem encryptionPolicy_guestTraffic : EncryptionPolicy ((hostMachine hostConf).run guestTraffic) ∧
      ((hostMachine hostConf).run guestTraffic).nodeOf 7 = some .conntrack ∧
      ((hostMachine hostConf).run guestTraffic).nodeOf 8 = some (.tx 0) :=
  ⟨encryptionPolicy_of_run zeroDpdk (hostStart hostConf) guestTraffic,
    by decide +kernel, by decide +kernel⟩

/-! ## Protected payload that leaves again -/

/-- A packet that was decrypted and is about to leave through a PF. -/
def Reemitted (world : World) (id : MbufId) (flight : Flight) : Prop :=
  world.flights.lookup id = some flight ∧ flight.decrypted ∧
    ∃ port, flight.node = .tx port ∧ world.tables.isPf port = true

/-- No protected payload leaves without having passed `ipsec_encap`. -/
def NoCleartextReemission (world : World) : Prop :=
  ∀ id flight, Reemitted world id flight → flight.encrypted

def relayedPing : List Event :=
  guestWithSas ++ [createGuestNat eightPorts] ++
    [.receive 7
      (espEncapsulate 512
        (tunnelled peerUnderlay natUnderlay
          (ipv4Packet ipprotoIcmp 0x08080808 0xac100009 (icmpMessage 8 5))))
      0] ++
    visits 7 1 ++ [throughIpsec .ingress 7] ++ visits 7 5

end DpService.Graph

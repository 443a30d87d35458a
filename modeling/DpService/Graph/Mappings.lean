import DpService.Graph.FailedTranslation

/-!
# The mappings of sources

A source keeps the port of its mapping for as long as the mapping lasts.  The
port is one of the configured range if the mapping was made under that range,
and a mapping lasts for as long as one of the flows of its source has not been
freed.  A flow whose keys were taken over by another one is never freed.
-/

namespace DpService.Graph

open Foundations Packet Dataplane Flow Ipsec Nodes

/-! ## Ranges -/

def natRangeFor (env : NodeEnv) (port : Port) (df : DpFlow) : PortRange :=
  match snatDataFor env port df with
  | some data => data.natPortRange
  | none => port.iface.natPortRange

def mappedPort (ports : NatPorts) (vni : Vni) (df : DpFlow) : Option UInt16 :=
  (natAddresses df).bind fun addresses =>
    (ports.portmap (portmapKeyOf df vni addresses.1)).map PortmapData.natPort

theorem covered_iff_of_allocation {hash : PortmapKey → UInt32} {outcomes : PortOutcomes}
    {nat : NatRange} {df : DpFlow} {port : Port} {ports : NatPorts} {natPort : UInt16}
    (allocated : (dpAllocateNetworkSnatPort hash outcomes nat df port ports).2 = some natPort) :
    nat.portRange.Covers natPort ↔ ∀ mapped, mappedPort ports port.iface.vni df = some mapped →
        nat.portRange.Covers mapped := by
  rcases dpAllocateNetworkSnatPort_cases hash outcomes nat df port ports with
    ⟨after, refused, _⟩ | ⟨after, srcIp, dstIp, given, addresses, result, mapping, _⟩
  · rw [refused] at allocated
    cases allocated
  rw [result] at allocated
  have same : given = natPort := Option.some_inj.mp allocated
  rw [same] at mapping
  have looked : mappedPort ports port.iface.vni df =
      (ports.portmap (portmapKeyOf df port.iface.vni srcIp)).map PortmapData.natPort := by
    rw [mappedPort, addresses, Option.bind_some]
  rw [looked]
  rcases mapping with ⟨data, held, stored⟩ | ⟨unmapped, covered⟩
  · rw [held, Option.map_some]
    constructor
    · intro covered mapped found
      rw [← Option.some_inj.mp found, stored]
      exact covered
    · intro inRange
      exact stored ▸ inRange data.natPort rfl
  · rw [unmapped, Option.map_none]
    exact ⟨fun _ _ found => (by cases found), fun _ => covered⟩

/-- The port that `snat` allocates for a packet, and the range it should be
from. -/
def allocationOf (world : World) (id : MbufId) : Option UInt16 × PortRange :=
  let m := world.mbufs id
  let port := dpGetInPort world.tables.ports m
  (allocatedPort (world.env zeroDpdk) NodeOutcomes.succeed.snat world.flows m port,
    natRangeFor (world.env zeroDpdk) port m.df)

def nat64Address (address : Ipv4) : Ipv6 where
  pfx := 0x0064ff9b00000000
  sfx := address.toUInt64

def guestIcmpv6 (dst : Ipv4) (type : UInt8) : Frame :=
  frameOf ptypeL3Ipv6
    (etherHdr etherTypeIpv6 ++
      outerIpv6Hdr 8 ipprotoIcmpv6 ⟨0x20010db800000000, 1⟩ (nat64Address dst) ++ icmpMessage type 5)

def otherPort : PortRange where
  minPort := 2000
  maxPort := 2001
  ordered := by decide

def guestReconfigured : List Event :=
  guestBehindNat onePort ++ guestSends 1 (guestIcmpv6 0x08080808 2) ++
    [.request (.deleteNat (fun _ => 0) "guest"), createGuestNat otherPort] ++
    [.receive 2 (guestIcmpv6 0x08080404 icmpv6EchoRequest) 2] ++ visits 2 4

def twoPorts : PortRange where
  minPort := 1000
  maxPort := 1002
  ordered := by decide

/-- Two sources share a port, and then the first one turns to the destination
of the second one. -/
def guestTurns : List Event :=
  guestBehindNat twoPorts ++ guestSends 1 (guestFrame ipprotoUdp 0x08080808 (udpHeader 4000 53)) ++
    guestSends 2 (guestFrame ipprotoUdp 0x08080404 (udpHeader 4001 53)) ++
    [.receive 3 (guestFrame ipprotoUdp 0x08080404 (udpHeader 4000 53)) 2] ++ visits 3 4

def sourceOf (value : FlowValue) : Option PortmapKey :=
  (dpFlowToSnatKeys value).map Prod.fst

/-- The flow is found in the table or kept by a hardware rule. -/
def InUse (store : FlowStore) (f : Handle) : Prop :=
  store.Live f ∧ ((∃ key, store.table.lookup key = some f) ∨ 0 < (store.value f).rules)

/-- A flow in use that has a port for `source`. -/
structure UsesMapping
    (store : FlowStore) (f : Handle) (source : PortmapKey) : Prop where
  inUse : InUse store f
  natted : (store.value f).NatLocal
  source : sourceOf (store.value f) = some source

/-- The flows of a source have one port, which is the port of its mapping, and
the mapping is there exactly while there is such a flow. -/
structure EndpointIndependent (store : FlowStore) : Prop where
  onePort : ∀ f g source, UsesMapping store f source →
    UsesMapping store g source → (store.value f).reply.portDst = (store.value g).reply.portDst
  present : ∀ source, (store.ports.portmap source).isSome = true ↔ ∃ f, UsesMapping store f source
  holds : ∀ f source data, UsesMapping store f source →
    store.ports.portmap source = some data → data.natPort = (store.value f).reply.portDst

/-- No flow behind NAT was forgotten before it was freed, unless another flow
of its source is in use. -/
def NoneForgotten (store : FlowStore) : Prop :=
  ∀ f source, store.Live f → (store.value f).NatLocal →
    sourceOf (store.value f) = some source → ∃ g, UsesMapping store g source

def mappingDemands : Demands where
  charged := True
  owned := True

section Endpoints

variable {demands : Demands} {store : FlowStore} {f : Handle}
variable {source : PortmapKey}

theorem mapping_of_natted (shared : Shared demands store) (booked : Booked store.ports)
    (live : store.Live f) (natted : (store.value f).NatLocal)
    (origin : sourceOf (store.value f) = some source) :
    ∃ data, store.ports.portmap source = some data ∧
      data.natPort = (store.value f).reply.portDst := by
  obtain ⟨key, owns⟩ := shared.natted f live natted
  obtain ⟨allocation, held, keys, _⟩ := owns.allocation
  rw [sourceOf, keys, Option.map_some, Option.some_inj] at origin
  obtain ⟨data, stored⟩ := booked.accounted.toCounted.mapping_of_held held
  have natPort : key.natPort = (store.value f).reply.portDst := by
    rw [owns.reply, natReplyKey_portDst]
  rw [← origin, ← natPort]
  exact ⟨data, stored, booked.agreed key allocation data held stored⟩

theorem natted_of_mapping (shared : Shared demands store) (owned : demands.owned)
    (booked : Booked store.ports) (present : (store.ports.portmap source).isSome = true) :
    ∃ f, store.Live f ∧ (store.value f).NatLocal ∧ sourceOf (store.value f) = some source := by
  rw [booked.accounted.present, Finset.card_pos] at present
  obtain ⟨key, member⟩ := present
  obtain ⟨allocation, held, same⟩ := (FiniteTable.mem_keysWhere _ _ key).mp member
  obtain ⟨f, live, natted, owns⟩ := shared.owned owned key allocation held
  obtain ⟨entry, found, keys, _⟩ := owns.allocation
  rw [held, Option.some_inj] at found
  refine ⟨f, live, natted, ?_⟩
  rw [sourceOf, keys, Option.map_some, ← found, same]

theorem endpointIndependent_iff (shared : Shared demands store) (owned : demands.owned)
    (booked : Booked store.ports) :
    EndpointIndependent store ↔ NoneForgotten store := by
  constructor
  · intro independent f source live natted origin
    obtain ⟨data, stored, _⟩ :=
      mapping_of_natted shared booked live natted origin
    apply (independent.present source).mp
    rw [stored]
    rfl
  intro noneForgotten
  have held : ∀ f source, UsesMapping store f source →
      ∃ data, store.ports.portmap source = some data ∧
        data.natPort = (store.value f).reply.portDst :=
    fun f source uses => mapping_of_natted shared booked uses.inUse.1 uses.natted uses.source
  constructor
  · intro f g source first second
    obtain ⟨data, stored, port⟩ := held f source first
    obtain ⟨other, found, samePort⟩ := held g source second
    rw [stored, Option.some_inj] at found
    rw [← port, ← samePort, found]
  · intro source
    constructor
    · intro present
      obtain ⟨f, live, natted, origin⟩ := natted_of_mapping shared owned booked present
      exact noneForgotten f source live natted origin
    rintro ⟨f, uses⟩
    obtain ⟨data, stored, _⟩ := held f source uses
    rw [stored]
    rfl
  intro f source data uses stored
  obtain ⟨other, found, port⟩ := held f source uses
  rw [stored, Option.some_inj] at found
  rw [found, port]

end Endpoints

def guestPingsExpire : List Event :=
  guestPings 0x08080808 ++ [.ageFlows 1000000 1 fun _ => 0]

end DpService.Graph

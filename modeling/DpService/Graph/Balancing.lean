import DpService.Graph.Guidance
import DpService.Graph.Uniqueness
import DpService.Lb.Lifecycle

/-!
# Traffic through load balancers

The service while load balancers and their targets come and go.  A flow keeps
the target that was chosen for its first packet.  Deleting a target removes
the flows that are led to it, deleting a load balancer removes no flow at all.
-/

namespace DpService.Graph

open Foundations Packet Flow Ipsec Nodes Control
open Dataplane hiding dpProcessCreateInterface
  dpProcessDeleteInterface dpProcessCreateVip dpProcessCreateNat
  dpProcessDeleteVip dpProcessDeleteNat setupInterface mapInterface
open Lb hiding dpLbGetBackendIp

variable {config : Config} {lbs : LbTables} {key : LbKey}

/-! ## The service with its load balancers -/

structure Balancer where
  config : Config
  db : IpsecDb
  mbufs : MbufId → Mbuf
  flights : FiniteTable MbufId Flight

inductive LbRequest where
  | createLb (outcomes : CreateLbOutcomes) (request : DpgrpcLb)
  | deleteLb (lbId : LbId)
  | createLbtarget (lbId : LbId) (addr : IpAddress)
  | deleteLbtarget (storedRules : FlowKey → Nat) (lbId : LbId)
      (addr : IpAddress)

def LbRequest.handle (config : Config) : LbRequest → Config
  | .createLb outcomes request => (dpProcessCreateLb outcomes config request).1
  | .deleteLb lbId => (dpProcessDeleteLb config lbId).1
  | .createLbtarget lbId addr => (dpProcessCreateLbtarget true config lbId addr).1
  | .deleteLbtarget storedRules lbId addr =>
    (dpProcessDeleteLbtarget true storedRules config lbId addr).1

inductive BalancerEvent where
  | traffic (event : Event)
  | request (request : LbRequest)

namespace Balancer

variable (balancer : Balancer) (dpdk : Dpdk)

/-- What the nodes see of the configuration.  Load balancers are looked up in
their own table. -/
def network : Network :=
  { balancer.config.network with
    lbEnabled := dpIsLbEnabled balancer.config.lbs
    isLb := fun ip vni => (balancer.config.lbs.lbTable.lookup ⟨vni, ip⟩).isSome
    lbBackend := Lb.dpLbGetBackendIp dpdk.flowHash balancer.config.lbs }

def world : World where
  db := balancer.db
  tables := balancer.config.tables
  network := balancer.network dpdk
  flows := balancer.config.flows
  mbufs := balancer.mbufs
  flights := balancer.flights

def setWorld (world : World) : Balancer where
  config := { balancer.config with tables := world.tables, flows := world.flows }
  db := world.db
  mbufs := world.mbufs
  flights := world.flights

def step : BalancerEvent → Balancer
  -- other requests than those about load balancers are left out
  | .traffic (.request _) => balancer
  | .traffic event => balancer.setWorld ((balancer.world dpdk).step dpdk event)
  | .request request =>
    if (balancer.world dpdk).quiet then { balancer with config := request.handle balancer.config }
    else balancer

end Balancer

structure BalancerStart where
  config : Config
  db : IpsecDb
  mbufs : MbufId → Mbuf
  unbalanced : config.lbs = LbTables.empty
  unused : config.flows = FlowStore.empty
  outside : PfsOutside config.tables.ports

def BalancerStart.balancer (start : BalancerStart) : Balancer where
  config := start.config
  db := start.db
  mbufs := start.mbufs
  flights := ∅

def balancerMachine (dpdk : Dpdk) (start : BalancerStart) : Machine Balancer BalancerEvent where
  init := start.balancer
  step := fun balancer event => balancer.step dpdk event

/-- Every TCP or UDP packet that waits for `lb`, and that the node forwards
for a load balancer, is sent to a target that this load balancer has now. -/
def Balances (dpdk : Dpdk) (balancer : Balancer) : Prop :=
  ∀ id flight, balancer.flights.lookup id = some flight →
    flight.node = .lb → isTransport (balancer.mbufs id).df →
    ∀ visit,
      lb ((balancer.world dpdk).env dpdk) balancer.config.flows (balancer.mbufs id) = some visit →
      visit.next = .ipipEncap →
      ∃ dst src, keyAddresses (balancer.mbufs id).df = some (dst, src) ∧
        IsTarget balancer.config.lbs
          ⟨packetVni ((balancer.world dpdk).env dpdk) (balancer.mbufs id), dst⟩
          visit.m.df.tunInfo.ulDstAddr6

/-- A load balancer is deleted only when no flow is led by it, and a target
only when the flow that is remembered is filed. -/
def Detached (balancer : Balancer) : BalancerEvent → Prop
  | .request (.deleteLb lbId) =>
    ∀ key value, dpGetLb balancer.config.lbs lbId = .ok (key, value) →
      ∀ f, balancer.config.flows.Found f → (balancer.config.flows.value f).flowFlags.dstLb = true →
        (⟨(balancer.config.flows.value f).org.vni,
            (balancer.config.flows.value f).org.l3Dst⟩ : LbKey) ≠
          key
  | .request (.deleteLbtarget ..) => CacheFiled balancer.config.flows
  | _ => True

def Target (lbs : LbTables) (org : FlowKey) (target : Ipv6) : Prop :=
  IsTarget lbs ⟨org.vni, org.l3Dst⟩ target

structure Sound (dpdk : Dpdk) (balancer : Balancer) : Prop where
  allHold : AllHold balancer.config.lbs
  led : Led (Target balancer.config.lbs) (balancer.world dpdk)

variable {dpdk : Dpdk} {balancer : Balancer}

theorem Sound.offers (sound : Sound dpdk balancer) :
    Offers (balancer.world dpdk).network (Target balancer.config.lbs) :=
  fun _ _ found => isTarget_of_dpLbGetBackendIp sound.allHold found

theorem Sound.balances (sound : Sound dpdk balancer) : Balances dpdk balancer := by
  intro id flight found waits transport visit result sent
  have led := sound.led.packets id flight found
  rw [waits] at led
  obtain ⟨-, waiting⟩ := (led.resolve_left nofun).resolve_left nofun
  have waiting := waiting rfl
  have vni : ∀ f, (balancer.mbufs id).df.conntrack = some f →
      (balancer.mbufs id).df.flowDir = .org →
      packetVni ((balancer.world dpdk).env dpdk) (balancer.mbufs id) =
        (balancer.config.flows.value f).org.vni :=
    fun f carried forward => Waiting.packetVni waiting carried forward
  obtain ⟨-, allowed⟩ :=
    lb_led sound.led.coherent sound.offers
      (fun f carried => ⟨waiting.guided f carried, vni f carried⟩) result
  obtain ⟨f, carried, forward, target⟩ := allowed sent
  obtain ⟨src, addresses⟩ := (waiting.addressed f carried forward).dst transport
  refine ⟨_, src, addresses, ?_⟩
  rw [vni f carried forward]
  exact target

/-! ## Requests -/

/-- A request that keeps the ports, leaves coherent flows behind and leaves
every flow that is found on a target. -/
theorem Sound.request (sound : Sound dpdk balancer) (quiet : (balancer.world dpdk).quiet = true)
    (ports : config.tables.ports = balancer.config.tables.ports) (allHold : AllHold config.lbs)
    (coherent : Coherent config.flows)
    (guided : ∀ f, config.flows.Found f → Guided (Target config.lbs) (config.flows.value f)) :
    Sound dpdk { balancer with config } where
  allHold := allHold
  led := by
    apply Led.of_quiet quiet
    · rfl
    · exact coherent
    · exact guided
    · change PfsOutside config.tables.ports
      rw [ports]
      exact sound.led.outside

theorem Sound.keepTargets (sound : Sound dpdk balancer) (quiet : (balancer.world dpdk).quiet = true)
    (ports : config.tables.ports = balancer.config.tables.ports)
    (flows : config.flows = balancer.config.flows)
    (allHold : AllHold config.lbs)
    (targets : ∀ key target, IsTarget balancer.config.lbs key target →
      IsTarget config.lbs key target) :
    Sound dpdk { balancer with config } := by
  apply sound.request quiet ports allHold
  · rw [flows]
    exact sound.led.coherent
  · rw [flows]
    intro f found balanced
    exact targets _ _ (sound.led.guided f found balanced)

theorem Sound.createLb (sound : Sound dpdk balancer) (quiet : (balancer.world dpdk).quiet = true)
    (outcomes : CreateLbOutcomes) (request : DpgrpcLb) :
    Sound dpdk
      { balancer with
        config := (dpProcessCreateLb outcomes balancer.config request).1 } := by
  obtain ⟨allHold, targets, flows, ports⟩ :=
    dpProcessCreateLb_targets sound.allHold outcomes request
  exact sound.keepTargets quiet ports flows allHold targets

theorem Sound.deleteLb (sound : Sound dpdk balancer) (quiet : (balancer.world dpdk).quiet = true)
    {lbId : LbId} (detached : Detached balancer (.request (.deleteLb lbId))) :
    Sound dpdk
      { balancer with
        config := (dpProcessDeleteLb balancer.config lbId).1 } := by
  cases found : dpGetLb balancer.config.lbs lbId with
  | error error =>
    rw [dpProcessDeleteLb, found]
    exact sound
  | ok held => ?_
  obtain ⟨key, value⟩ := held
  have free := detached key value found
  obtain ⟨table, flows, ports⟩ := dpProcessDeleteLb_of_found found
  generalize (dpProcessDeleteLb balancer.config lbId).1 = after at table flows ports ⊢
  apply sound.request quiet ports
  · exact allHold_erase sound.allHold table
  · rw [flows]
    exact sound.led.coherent
  rw [flows]
  intro f there balanced
  obtain ⟨held, entry, listed⟩ := sound.led.guided f there balanced
  refine ⟨held, ?_, listed⟩
  rw [table, FiniteTable.lookup_erase_eq, if_neg (free f there balanced)]
  exact entry

theorem Sound.createLbtarget (sound : Sound dpdk balancer)
    (quiet : (balancer.world dpdk).quiet = true) (lbId : LbId) (addr : IpAddress) :
    Sound dpdk
      { balancer with
        config := (dpProcessCreateLbtarget true balancer.config lbId addr).1 } := by
  cases addr with
  | v4 ip => exact sound
  | v6 ip => ?_
  obtain ⟨allHold, targets⟩ :=
    (replaces_insert ip).changeBackends sound.allHold lbId
  apply sound.keepTargets quiet
  · rfl
  · rfl
  · exact allHold
  · intro key target before
    exact (targets key target before).resolve_right fun lost => lost.1

theorem Sound.deleteLbtarget (sound : Sound dpdk balancer)
    (quiet : (balancer.world dpdk).quiet = true) {storedRules : FlowKey → Nat}
    (cacheFiled : CacheFiled balancer.config.flows) (lbId : LbId) (addr : IpAddress) :
    Sound dpdk
      { balancer with
        config := (dpProcessDeleteLbtarget true storedRules balancer.config lbId addr).1 } := by
  cases addr with
  | v4 ip => exact sound
  | v6 ip => ?_
  obtain ⟨allHold, targets⟩ :=
    (replaces_delete ip).changeBackends sound.allHold lbId
  unfold dpProcessDeleteLbtarget
  change AllHold (dpDelLbBackIp true balancer.config.lbs lbId ip).1 at allHold
  change ∀ key target, _ →
    IsTarget (dpDelLbBackIp true balancer.config.lbs lbId ip).1 key target ∨
      target = ip ∧ (dpDelLbBackIp true balancer.config.lbs lbId ip).2 = none
    at targets
  dsimp only
  generalize dpDelLbBackIp true balancer.config.lbs lbId ip = result at allHold targets ⊢
  rcases result with ⟨lbs, _ | error⟩
  · have trims :
        Trims balancer.config.flows
          (dpRemoveLbtargetFlows ip storedRules balancer.config.flows) :=
      Trims.removeFlows _ _ _
    apply sound.request quiet
    · rfl
    · exact allHold
    · exact trims.coherent sound.led.coherent
    intro f found balanced
    have course := trims.course f
    have before := sound.led.guided f (trims.found found) (course.dstLb ▸ balanced)
    have elsewhere :=
      dpRemoveFlows_not_found (fun first second same => by rw [same.underlayDst]) cacheFiled
        found
    rw [beq_eq_false_iff_ne] at elsewhere
    rw [Target, course.org, course.underlayDst]
    refine (targets _ _ before).resolve_right ?_
    rintro ⟨same, -⟩
    exact elsewhere (course.underlayDst.trans same)
  apply sound.keepTargets quiet
  · rfl
  · rfl
  · exact allHold
  intro key target before
  refine (targets key target before).resolve_right ?_
  rintro ⟨-, granted⟩
  cases granted

/-! ## Whole runs -/

theorem Balancer.step_traffic (balancer : Balancer) (dpdk : Dpdk) {event : Event}
    (traffic : ∀ request, event ≠ .request request) :
    balancer.step dpdk (.traffic event) =
      balancer.setWorld ((balancer.world dpdk).step dpdk event) := by
  rw [Balancer.step]
  exact traffic

theorem Sound.traffic (sound : Sound dpdk balancer) (event : Event) :
    Sound dpdk (balancer.step dpdk (.traffic event)) := by
  by_cases traffic : ∀ request, event ≠ .request request
  · rw [balancer.step_traffic dpdk traffic]
    have led := sound.led.step sound.offers dpdk traffic
    exact ⟨sound.allHold, led.coherent, led.guided, led.outside, led.packets⟩
  · push Not at traffic
    obtain ⟨request, rfl⟩ := traffic
    exact sound

theorem Sound.step (sound : Sound dpdk balancer) {event : BalancerEvent}
    (detached : Detached balancer event) :
    Sound dpdk (balancer.step dpdk event) := by
  cases event with
  | traffic event => exact sound.traffic event
  | request request => ?_
  by_cases quiet : (balancer.world dpdk).quiet = true
  · rw [Balancer.step, if_pos quiet]
    cases request with
    | createLb outcomes request =>
      exact sound.createLb quiet outcomes request
    | deleteLb lbId => exact sound.deleteLb quiet detached
    | createLbtarget lbId addr =>
      exact sound.createLbtarget quiet lbId addr
    | deleteLbtarget storedRules lbId addr =>
      exact sound.deleteLbtarget quiet detached lbId addr
  · rw [Balancer.step, if_neg quiet]
    exact sound

theorem sound_start (dpdk : Dpdk) (start : BalancerStart) : Sound dpdk start.balancer where
  allHold := by
    intro key value entry
    change start.config.lbs.lbTable.lookup key = _ at entry
    rw [start.unbalanced] at entry
    cases entry
  led := by
    refine ⟨?_, ?_, start.outside, nofun⟩
    · change Coherent start.config.flows
      rw [start.unused]
      exact coherent_empty
    change ∀ f, start.config.flows.Found f → Guided _ (start.config.flows.value f)
    rw [start.unused]
    rintro f (⟨key, filed⟩ | cached)
    · cases filed
    · cases cached

/-- In a run in which load balancers are deleted only when no flow is led by
them, load balanced packets reach current targets only, in every state. -/
theorem balances_of_run (dpdk : Dpdk) (start : BalancerStart) {events : List BalancerEvent}
    (detached : (balancerMachine dpdk start).Along Detached start.balancer events) :
    Balances dpdk ((balancerMachine dpdk start).run events) := by
  have sound : Sound dpdk ((balancerMachine dpdk start).run events) :=
    @Machine.runFrom_invariant_along _ _ (balancerMachine dpdk start)
      (Sound dpdk) Detached (fun _ _ allowed sound => sound.step allowed) _
      events detached (sound_start dpdk start)
  exact sound.balances

/-! ### A host with a load balancer -/

def balancerStart : BalancerStart where
  config :=
    { tables := (hostStart hostConf).world.tables
      network := hostNetwork
      vnis := fun _ => none
      lbs := LbTables.empty
      fwall := fun _ => []
      flows := FlowStore.empty }
  db := (hostStart hostConf).world.db
  mbufs := (hostStart hostConf).mbufs
  unbalanced := rfl
  unused := rfl
  outside := by
    intro m fromPf
    change (dpGetInPort hostPorts m).iface.vni = 0
    cases found : dpGetPortById hostPorts m.port with
    | none =>
      rw [dpGetInPort, found]
      rfl
    | some port => ?_
    have zeroed : port.iface = PortIface.zeroed :=
      (hostStart hostConf).unconfigured m.port port (dpGetPortById_eq_some found)
    rw [dpGetInPort, found, Option.getD_some, zeroed]
    rfl

def lbUnderlay : Ipv6 :=
  { guestUnderlay with sfx := 9 }

def lbUp (target : UInt64) : List BalancerEvent :=
  [.request
      (.createLb
        { generated := Ipv6.zero
          vnf := ⟨true, true⟩
          lb := ⟨true, true⟩
          vniAllocated := true }
        { lbId := "lb"
          vni := 100
          addr := .v4 0x0a000064
          lbports := [⟨53, ipprotoUdp⟩]
          ulAddr6 := lbUnderlay }),
    .request (.createLbtarget "lb" (targetIp target))]

def clientSends (id : MbufId) (count : Nat) : List BalancerEvent :=
  (.receive id
      (tunnelled peerUnderlay lbUnderlay
        (ipv4Packet ipprotoUdp 0x08080808 0x0a000064 (udpHeader 4000 53)))
      0 ::
    visits id count).map .traffic

def deletesNothing : BalancerEvent → Bool
  | .request (.deleteLb _) => false
  | .request (.deleteLbtarget ..) => false
  | _ => true

theorem detached_of_deletesNothing (balancer : Balancer) (event : BalancerEvent)
    (nothing : deletesNothing event = true) : Detached balancer event := by
  rcases event with event | (_ | _ | _ | _)
  · trivial
  · trivial
  · cases nothing
  · trivial
  · cases nothing

def balancerRun (events : List BalancerEvent) : Balancer :=
  (balancerMachine zeroDpdk balancerStart).run events

theorem lbUp_balances : ((balancerRun (lbUp 5 ++ clientSends 1 3)).world zeroDpdk).nodeOf 1 =
        some .lb ∧
      Balances zeroDpdk (balancerRun (lbUp 5 ++ clientSends 1 3)) :=
  ⟨by decide +kernel,
    balances_of_run zeroDpdk balancerStart
      (Machine.along_of_check detached_of_deletesNothing (by decide +kernel))⟩

def sentTo (dpdk : Dpdk) (balancer : Balancer) (id : MbufId) : Option Ipv6 :=
  (lb ((balancer.world dpdk).env dpdk) balancer.config.flows
    (balancer.mbufs id)).bind fun visit =>
      if visit.next = .ipipEncap then some visit.m.df.tunInfo.ulDstAddr6
      else none

theorem isTarget_of_sentTo {id : MbufId} {target : Ipv6} (balances : Balances dpdk balancer)
    (waits : (balancer.world dpdk).nodeOf id = some .lb)
    (transport : isTransport (balancer.mbufs id).df)
    (sent : sentTo dpdk balancer id = some target) :
    ∃ key, IsTarget balancer.config.lbs key target := by
  rw [World.nodeOf, Option.map_eq_some_iff] at waits
  obtain ⟨flight, found, node⟩ := waits
  rw [sentTo, Option.bind_eq_some_iff] at sent
  obtain ⟨visit, result, sent⟩ := sent
  split at sent
  · rename_i next
    obtain ⟨dst, src, -, isTarget⟩ :=
      balances id flight found node transport visit result next
    rw [Option.some.inj sent] at isTarget
    exact ⟨_, isTarget⟩
  cases sent

def allTargets (lbs : LbTables) : List Ipv6 :=
  lbs.lbTable.entries.flatMap fun entry =>
    match entry.2 with
    | .value value => (List.range value.backends.backEndCnt).map value.backends.backEndIps
    | .freed => []

theorem mem_allTargets {target : Ipv6}
    (isTarget : IsTarget lbs key target) : target ∈ allTargets lbs := by
  obtain ⟨value, entry, i, inside, same⟩ := isTarget
  refine
    List.mem_flatMap.mpr
      ⟨⟨key, .value value⟩, FiniteTable.mem_entries_of_lookup lbs.lbTable entry, ?_⟩
  exact List.mem_map.mpr ⟨i, List.mem_range.mpr inside, same⟩

/-- The load balancer is deleted and created again with another target, while
a flow of the client is known. -/
def lbRecreated : List BalancerEvent :=
  lbUp 5 ++ clientSends 1 8 ++ [.request (.deleteLb "lb")] ++ lbUp 6 ++ clientSends 2 3

/-- The next packet of the flow goes to the target of the load balancer that
was deleted. -/
theorem lbRecreated_stale : sentTo zeroDpdk (balancerRun lbRecreated) 2 =
        some ⟨0xfc00000200000000, 5⟩ ∧
      ¬ Balances zeroDpdk (balancerRun lbRecreated) := by
  have ends : sentTo zeroDpdk (balancerRun lbRecreated) 2 = some ⟨0xfc00000200000000, 5⟩ ∧
        ((balancerRun lbRecreated).world zeroDpdk).nodeOf 2 = some .lb ∧
        ((balancerRun lbRecreated).mbufs 2).df.l4Type = ipprotoUdp ∧
        (⟨0xfc00000200000000, 5⟩ : Ipv6) ∉ allTargets (balancerRun lbRecreated).config.lbs := by
    decide +kernel
  obtain ⟨sent, waits, udp, missing⟩ := ends
  refine ⟨sent, fun balances => ?_⟩
  obtain ⟨key, isTarget⟩ := isTarget_of_sentTo balances waits (Or.inr udp) sent
  exact missing (mem_allTargets isTarget)

/-! ## Targets that are taken away -/

def BalancedBy (lbs : LbTables) (lbId : LbId) (target : Ipv6) (value : FlowValue) : Prop :=
  value.flowFlags.dstLb = true ∧ lbs.idMap lbId = some ⟨value.org.vni, value.org.l3Dst⟩ ∧
    value.nfInfo.underlayDst = target

instance (lbs : LbTables) (lbId : LbId) (target : Ipv6) (value : FlowValue) :
    Decidable (BalancedBy lbs lbId target value) :=
  inferInstanceAs (Decidable (_ ∧ _ ∧ _))

def LeavesOthers (config : Config) (lbId : LbId) (target : Ipv6) (after : FlowStore) : Prop :=
  ∀ key f, config.flows.table.lookup key = some f →
    ¬ BalancedBy config.lbs lbId target (config.flows.value f) →
      after.table.lookup key = some f ∧ after.value f = config.flows.value f

theorem deleteLbtarget_flows {allocated : Bool} {storedRules : FlowKey → Nat} {lbId : LbId}
    {target : Ipv6}
    (deleted : (dpProcessDeleteLbtarget allocated storedRules config lbId (.v6 target)).2 = none) :
    (dpProcessDeleteLbtarget allocated storedRules config lbId (.v6 target)).1.flows =
      dpRemoveLbtargetFlows target storedRules config.flows := by
  revert deleted
  unfold dpProcessDeleteLbtarget
  dsimp only
  split
  · exact nofun
  · exact fun _ => rfl

theorem leavesOthers_removal_iff (storedRules : FlowKey → Nat) (lbId : LbId) (target : Ipv6) :
    LeavesOthers config lbId target (dpRemoveLbtargetFlows target storedRules config.flows) ↔
      ∀ entry ∈ config.flows.table.entries,
        (config.flows.value entry.2).nfInfo.underlayDst = target →
          BalancedBy config.lbs lbId target (config.flows.value entry.2) := by
  rw [dpRemoveLbtargetFlows]
  constructor
  · intro leaves entry member toTarget
    by_contra other
    obtain ⟨still, kept⟩ :=
      leaves _ _ (FiniteTable.lookup_of_mem_entries config.flows.table member) other
    have left := @dpRemoveFlows_left config.flows _ storedRules (by
      intro _ first second same
      rw [same.underlayDst]) _ _ still
    rw [kept, toTarget, beq_self_eq_true] at left
    cases left
  intro led key f filed other
  apply dpRemoveFlows_keeps filed
  rw [beq_eq_false_iff_ne]
  exact fun toTarget =>
    other (led _ (FiniteTable.mem_entries_of_lookup config.flows.table filed) toTarget)

/-- All flows to the address of the target are removed, whoever has chosen
it. -/
theorem deleteLbtarget_leavesOthers_iff {allocated : Bool} {storedRules : FlowKey → Nat}
    {lbId : LbId} {target : Ipv6}
    (deleted : (dpProcessDeleteLbtarget allocated storedRules config lbId (.v6 target)).2 = none) :
    LeavesOthers config lbId target
        (dpProcessDeleteLbtarget allocated storedRules config lbId (.v6 target)).1.flows ↔
      ∀ entry ∈ config.flows.table.entries,
        (config.flows.value entry.2).nfInfo.underlayDst = target →
          BalancedBy config.lbs lbId target (config.flows.value entry.2) := by
  rw [deleteLbtarget_flows deleted]
  exact leavesOthers_removal_iff storedRules lbId target

def spareUp (target : UInt64) : List BalancerEvent :=
  [.request
      (.createLb
        { generated := Ipv6.zero
          vnf := ⟨true, true⟩
          lb := ⟨true, true⟩
          vniAllocated := true }
        { lbId := "spare"
          vni := 100
          addr := .v4 0x0a000065
          lbports := [⟨53, ipprotoUdp⟩]
          ulAddr6 := { guestUnderlay with sfx := 8 } }),
    .request (.createLbtarget "spare" (targetIp target))]

def balancedFlows : Config :=
  (balancerRun (lbUp 5 ++ spareUp 5 ++ clientSends 1 8)).config

theorem balancedFlows_led :
    balancedFlows.flows.table.entries.map (fun entry =>
        decide
          (BalancedBy balancedFlows.lbs "lb" ⟨0xfc00000200000000, 5⟩
            (balancedFlows.flows.value entry.2))) =
      [true, true] := by
  decide +kernel

theorem balancedFlows_idMap : balancedFlows.lbs.idMap "lb" ≠ balancedFlows.lbs.idMap "spare" := by
  decide +kernel

theorem leavesOthers_balancedFlows :
    LeavesOthers balancedFlows "lb" ⟨0xfc00000200000000, 5⟩
      (dpProcessDeleteLbtarget true (fun _ => 0) balancedFlows "lb" (targetIp 5)).1.flows := by
  refine (deleteLbtarget_leavesOthers_iff (by decide +kernel)).mpr ?_
  intro entry member _
  have led :=
    List.mem_map_of_mem (f := fun entry =>
      decide
        (BalancedBy balancedFlows.lbs "lb" ⟨0xfc00000200000000, 5⟩
          (balancedFlows.flows.value entry.2))) member
  rw [balancedFlows_led] at led
  simpa using led

theorem balancedFlows_lost :
    (dpProcessDeleteLbtarget true (fun _ => 0) balancedFlows "spare" (targetIp 5)).2 = none ∧
      ¬ LeavesOthers balancedFlows "spare" ⟨0xfc00000200000000, 5⟩
        (dpProcessDeleteLbtarget true (fun _ => 0) balancedFlows "spare" (targetIp 5)).1.flows := by
  have deleted :
      (dpProcessDeleteLbtarget true (fun _ => 0) balancedFlows "spare" (targetIp 5)).2 = none := by
    decide +kernel
  refine ⟨deleted, ?_⟩
  change
    ¬ LeavesOthers balancedFlows "spare" ⟨0xfc00000200000000, 5⟩
      (dpProcessDeleteLbtarget true (fun _ => 0) balancedFlows "spare"
        (.v6 ⟨0xfc00000200000000, 5⟩)).1.flows
  rw [deleteLbtarget_flows deleted, leavesOthers_removal_iff]
  intro led
  obtain ⟨entry, rest, entries, balanced, -⟩ := List.map_eq_cons_iff.mp balancedFlows_led
  have member : entry ∈ balancedFlows.flows.table.entries := by
    rw [entries]
    exact List.mem_cons_self
  obtain ⟨-, own, toTarget⟩ := of_decide_eq_true balanced
  obtain ⟨-, other, -⟩ := led entry member toTarget
  exact balancedFlows_idMap (own.trans other.symm)

end DpService.Graph

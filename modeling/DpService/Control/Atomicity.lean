import DpService.Control.Interfaces
import DpService.Graph.Protection

/-!
# Failed requests

A request that is answered with an error should leave everything as it was.
A request for a VIP, NAT, load balancer or prefix does so unless the endpoint
that it registers was registered before, or it changed an entry that existed.
A request for an interface also clears the port it was meant for and, if it
had to set up the VNI, whatever the network already had under its number.
-/

namespace DpService.Control

open Foundations Packet Flow
open Dataplane

variable {config after : Config} {ulAddr6 : Ipv6} {error : GrpcErr} {vni : Vni} {port : Port}

/-! ## Restored entries -/

theorem setVnfs_eq_self_iff {vnfs : VnfTables} :
    config.setVnfs vnfs = config ↔ vnfs = config.tables.vnfs := by
  constructor
  · intro same
    rw [← same]
    rfl
  · rintro rfl
    rfl

theorem setVnfs_forget_iff {vnf : Vnf} : config.setVnfs (forget config.tables.vnfs vnf) = config ↔
      config.tables.vnfs.value vnf = none := by
  rw [setVnfs_eq_self_iff, forget_eq_self_iff]

theorem clearedVip_eq_some_iff {data : SnatData} : clearedVip ulAddr6 data = some data ↔
      data.natIp ≠ 0 ∧ data.vipIp = 0 ∧ data.ulVipIp6 = ulAddr6 := by
  obtain ⟨vipIp, natIp, natPortRange, ulVipIp6, ulNatIp6⟩ := data
  rw [clearedVip]
  by_cases unset : natIp = 0
  · simp [unset]
  · simp [unset, eq_comm]

theorem clearedNat_eq_some_iff {data : SnatData} : clearedNat ulAddr6 data = some data ↔
      data.vipIp ≠ 0 ∧ data.natIp = 0 ∧
        data.natPortRange = PortRange.zeroed ∧ data.ulNatIp6 = ulAddr6 := by
  obtain ⟨vipIp, natIp, natPortRange, ulVipIp6, ulNatIp6⟩ := data
  rw [clearedNat]
  by_cases unset : vipIp = 0
  · simp [unset]
  · simp [unset, eq_comm]

def Config.snatOf (config : Config) (ifaceId : IfaceId) : Option SnatData :=
  (dpGetPortWithIfaceId config.tables ifaceId).bind fun port =>
    config.network.snat port.iface.ownIp port.iface.vni

theorem withdrawnNetwork_eq_self_iff {cleared : SnatData → Option SnatData} {ifaceId : IfaceId} :
    withdrawnNetwork cleared config ifaceId = config.network ↔
      ∀ data, config.snatOf ifaceId = some data → cleared data = some data := by
  unfold withdrawnNetwork Config.snatOf
  cases dpGetPortWithIfaceId config.tables ifaceId with
  | none => simp
  | some port => ?_
  dsimp only
  rw [setSnat_eq_self_iff, Option.bind_some]
  cases config.network.snat port.iface.ownIp port.iface.vni with
  | none => simp
  | some data => simp [eq_comm]

theorem Failure.restores_iff {endpoint : Option (Ipv6 × Vnf)} {late : GrpcErr → Prop}
    {network : Ipv6 → Network} (failure : Failure config endpoint late network after error) :
    after = config ↔ ∀ ulAddr6 vnf, endpoint = some (ulAddr6, vnf) →
        config.tables.vnfs.value vnf = none ∧ (late error → network ulAddr6 = config.network) := by
  cases failure with
  | refused _ unattempted => simp [unattempted]
  | undone ulAddr6 vnf _ attempted early =>
    simp [attempted, early, setVnfs_forget_iff]
  | withdrawn ulAddr6 vnf _ attempted isLate => ?_
  constructor
  · intro same other otherVnf registered
    obtain ⟨rfl, rfl⟩ := Prod.mk.inj (Option.some.inj (attempted.symm.trans registered))
    have vnfs : forget config.tables.vnfs vnf = config.tables.vnfs :=
      congrArg (fun config => config.tables.vnfs) same
    exact ⟨forget_eq_self_iff.mp vnfs, fun _ => congrArg Config.network same⟩
  intro restored
  obtain ⟨absent, sameNetwork⟩ := restored ulAddr6 vnf attempted
  rw [sameNetwork isLate, forget_eq_self_iff.mpr absent]
  rfl

theorem LbFailure.restores_iff {outcomes : CreateLbOutcomes} {request : DpgrpcLb}
    (failure : LbFailure outcomes config request after error) :
    after = config ↔ ∀ ulAddr6 vnf, lbEndpoint outcomes config request = some (ulAddr6, vnf) →
        config.tables.vnfs.value vnf = none ∧
          (error = .outOfMemory → outcomes.lb.inserted = false) ∧
          (error = .vniInit4 → config.lbs.idMap request.lbId = none) := by
  cases failure with
  | refused _ unattempted => simp [unattempted]
  | undone ulAddr6 vnf _ attempted vniReady memory =>
    simp only [attempted, Option.some.injEq, Prod.mk.injEq, setVnfs_forget_iff]
    constructor
    · rintro absent _ _ ⟨-, rfl⟩
      exact ⟨absent, memory, fun isVni => absurd isVni vniReady⟩
    · intro restored
      exact (restored ulAddr6 vnf ⟨rfl, rfl⟩).1
  | unmapped ulAddr6 vnf attempted absent inserted =>
    constructor
    · intro same
      have lookup : (config.lbs.lbTable.insert request.key .freed).lookup request.key =
            config.lbs.lbTable.lookup request.key :=
        congrArg (fun config : Config => config.lbs.lbTable.lookup request.key) same
      rw [AList.lookup_insert, absent] at lookup
      cases lookup
    intro restored
    have none_inserted := (restored ulAddr6 vnf attempted).2.1 rfl
    rw [inserted] at none_inserted
    cases none_inserted
  | withoutVni ulAddr6 vnf attempted absent =>
    constructor
    · rintro same other otherVnf registered
      obtain ⟨rfl, rfl⟩ := Prod.mk.inj (Option.some.inj (attempted.symm.trans registered))
      have vnfs : forget config.tables.vnfs vnf = config.tables.vnfs :=
        congrArg (fun config => config.tables.vnfs) same
      have idMap : assign config.lbs.idMap request.lbId none = config.lbs.idMap :=
        congrArg (fun config => config.lbs.idMap) same
      exact ⟨forget_eq_self_iff.mp vnfs, nofun, fun _ => assign_eq_self_iff.mp idMap⟩
    intro restored
    obtain ⟨absentVnf, -, unmapped⟩ := restored ulAddr6 vnf attempted
    rw [forget_eq_self_iff.mpr absentVnf, assign_eq_self_iff.mpr (unmapped rfl)]
    rfl

/-! ## Requests for addresses -/

def ConfigRequest.CreatesAddress : ConfigRequest → Prop
  | .createVip .. | .createNat .. | .createLb .. | .createPrefix ..
  | .createLbPrefix .. => True
  | _ => False

/-- What has to hold besides, so that nothing is left of a request that fails
after it has registered an underlay address. -/
def ConfigRequest.Restores (config : Config) (ulAddr6 : Ipv6) (error : GrpcErr) :
    ConfigRequest → Prop
  -- the entry of the interface is freed, or keeps the new underlay address
  | .createVip _ request =>
    LateVipError error → ∀ data, config.snatOf request.ifaceId = some data →
        data.natIp ≠ 0 ∧ data.vipIp = 0 ∧ data.ulVipIp6 = ulAddr6
  | .createNat _ request =>
    LateNatError error → ∀ data, config.snatOf request.ifaceId = some data →
        data.vipIp ≠ 0 ∧ data.natIp = 0 ∧
          data.natPortRange = PortRange.zeroed ∧ data.ulNatIp6 = ulAddr6
  -- an entry stays without its value, or an identifier is no longer mapped
  | .createLb outcomes request =>
    (error = .outOfMemory → outcomes.lb.inserted = false) ∧
      (error = .vniInit4 → config.lbs.idMap request.lbId = none)
  | _ => True

theorem error_of_answered {Reply : Type} {reply : Except GrpcErr Reply}
    (failed : (answered (after, reply)).2 = some error) :
    reply = .error error := by
  cases reply with
  | ok value => cases failed
  | error other =>
    rw [Option.some.inj failed]

/-- A request for an address that is answered with an error leaves everything
as it was exactly if its endpoint was not registered under another address,
and no entry was changed on the way that existed before. -/
theorem addressRequest_unchanged_iff (config : Config) (request : ConfigRequest) (error : GrpcErr)
    (creates : request.CreatesAddress) (failed : (config.handle request).2 = some error) :
    (config.handle request).1 = config ↔
      ∀ ulAddr6 vnf, request.endpoint config = some (ulAddr6, vnf) →
        config.tables.vnfs.value vnf = none ∧ request.Restores config ulAddr6 error := by
  cases request with
  | createVip outcomes request =>
    rw [Config.handle] at failed ⊢
    rcases dpProcessCreateVip_cases outcomes config request with
      ⟨after, other, result, failure⟩ | ⟨_, _, result⟩
    · rw [result] at failed ⊢
      obtain rfl := Except.error.inj (error_of_answered failed)
      refine failure.restores_iff.trans ?_
      simp only [withdrawnNetwork_eq_self_iff, clearedVip_eq_some_iff]
      rfl
    · rw [result] at failed
      cases failed
  | createNat outcomes request =>
    rw [Config.handle] at failed ⊢
    rcases dpProcessCreateNat_cases outcomes config request with
      ⟨after, other, result, failure⟩ | ⟨_, _, result⟩
    · rw [result] at failed ⊢
      obtain rfl := Except.error.inj (error_of_answered failed)
      refine failure.restores_iff.trans ?_
      simp only [withdrawnNetwork_eq_self_iff, clearedNat_eq_some_iff]
      rfl
    · rw [result] at failed
      cases failed
  | createLb outcomes request =>
    rw [Config.handle] at failed ⊢
    rcases dpProcessCreateLb_cases outcomes config request with
      ⟨after, other, result, failure⟩ | ⟨_, _, result, -⟩
    · rw [result] at failed ⊢
      obtain rfl := Except.error.inj (error_of_answered failed)
      exact failure.restores_iff
    · rw [result] at failed
      cases failed
  | createPrefix outcomes request =>
    rw [Config.handle] at failed ⊢
    rcases dpProcessCreatePrefix_cases outcomes config request with
      ⟨after, other, result, failure⟩ | ⟨_, _, result⟩
    · rw [result] at failed ⊢
      obtain rfl := Except.error.inj (error_of_answered failed)
      refine failure.restores_iff.trans ?_
      simp only [false_implies]
      rfl
    · rw [result] at failed
      cases failed
  | createLbPrefix outcomes request =>
    rw [Config.handle] at failed ⊢
    rcases dpProcessCreateLbPrefix_cases outcomes config request with
      ⟨after, other, result, failure⟩ | ⟨_, _, _, result, -⟩
    · rw [result] at failed ⊢
      obtain rfl := Except.error.inj (error_of_answered failed)
      refine failure.restores_iff.trans ?_
      simp only [false_implies]
      rfl
    · rw [result] at failed
      cases failed
  | _ => exact absurd creates not_false

section VipExamples

open Graph Nodes Ipsec

def interfaceCreated : InterfaceOutcomes where
  generated := Ipv6.zero
  vnf := ⟨true, true⟩
  mapped := true
  vniAllocated := true
  route4 := true
  route6 := true
  meter := meterSet
  started := true
  pfLinkUp := true

def vipOf (ifaceId : IfaceId) (sfx : UInt64) : ConfigRequest :=
  .createVip natCreated
    { ifaceId, addr := .v4 0xac100008,
      ulAddr6 := { guestUnderlay with sfx } }

def guestWithVip : Config :=
  (configMachine (hostStart hostConf)).run
    [.createInterface interfaceCreated (guestIface "guest" "vf0" 0x0a000001 guestUnderlay false),
      .createInterface interfaceCreated
        (guestIface "other" "vf1" 0x0a000002
          { guestUnderlay with sfx := 20 } false),
      vipOf "guest" 7]

theorem guestWithVip_taken_address : (guestWithVip.handle (vipOf "other" 8)).2 = some .dnatExists ∧
      (guestWithVip.handle (vipOf "other" 8)).1 = guestWithVip := by
  have failed : (guestWithVip.handle (vipOf "other" 8)).2 = some .dnatExists := by
    decide +kernel
  have registered : (vipOf "other" 8).endpoint guestWithVip =
        some ({ guestUnderlay with sfx := 8 }, ⟨.vip, 100, 3, ⟨.v4 0, 0⟩⟩) := by
    decide +kernel
  have unknown : guestWithVip.tables.vnfs.value ⟨.vip, 100, 3, ⟨.v4 0, 0⟩⟩ = none := by
    decide +kernel
  have without : guestWithVip.snatOf "other" = none := by
    decide +kernel
  refine
    ⟨failed,
      (addressRequest_unchanged_iff guestWithVip (vipOf "other" 8)
        .dnatExists trivial failed).mpr ?_⟩
  intro ulAddr6 vnf attempted
  obtain ⟨-, rfl⟩ := Prod.mk.inj (Option.some.inj (registered.symm.trans attempted))
  refine ⟨unknown, ?_⟩
  intro _ data held
  rw [without] at held
  cases held

/-- A second VIP is refused, and the first one is no longer found by its
endpoint. -/
theorem guestWithVip_second_vip : (guestWithVip.handle (vipOf "guest" 8)).2 = some .snatExists ∧
      guestWithVip.tables.vnfs.value ⟨.vip, 100, 2, ⟨.v4 0, 0⟩⟩ =
        some { guestUnderlay with sfx := 7 } ∧
      (guestWithVip.handle (vipOf "guest" 8)).1.tables.vnfs.value
        ⟨.vip, 100, 2, ⟨.v4 0, 0⟩⟩ = none := by
  decide +kernel

end VipExamples

/-! ## Requests for interfaces -/

def NothingToPurge (network : Network) (vni : Vni) : Prop :=
  (∀ entry ∈ network.neighnat, entry.vni ≠ vni ∧ vni ≠ dpNetworkNatAllVni) ∧
    ∀ ip, network.dnat ip vni = none

theorem purged_eq_self_iff {network : Network} :
    dpDelAllNeighNatEntriesInVni network vni = network ↔ NothingToPurge network vni := by
  obtain ⟨snat, dnat, neighnat, route4, route6, lbEnabled, isLb, lbBackend,
    firewallAction⟩ := network
  have dnats : (fun ip other => if other = vni then none else dnat ip other) = dnat ↔
        ∀ ip, dnat ip vni = none := by
    constructor
    · intro same ip
      rw [← same]
      exact if_pos rfl
    intro absent
    funext ip other
    by_cases here : other = vni
    · rw [if_pos here, here, absent]
    · rw [if_neg here]
  simp only [dpDelAllNeighNatEntriesInVni, Network.mk.injEq, true_and,
    and_true, dnats, List.filter_eq_self, NothingToPurge, Bool.not_eq_true',
    Bool.or_eq_false_iff, beq_eq_false_iff_ne]
  exact and_comm

/-- What has to hold so that nothing is left of a request for an interface
that fails after its endpoint was registered. -/
def RestoresInterface (config : Config) (request : DpgrpcIface) (port : Port)
    (error : GrpcErr) : Prop :=
  -- the port keeps the identifier when the VNI cannot be set up
  (error = .vniInit4 → port.iface.id = request.ifaceId) ∧
    (LateIfaceError error → port.iface = PortIface.zeroed ∧ config.fwall port.portId = [] ∧
        (∀ data, config.vnis request.vni = some data →
          OwnUnrouted port.portId request.ip4Addr request.ip6Addr data) ∧
        (config.vnis request.vni = none → NothingToPurge config.network request.vni))

theorem abandonedVnis_eq_self_iff {portId : PortId} {ip4 : Ipv4} {ip6 : Ipv6} :
    abandonedVnis config vni portId ip4 ip6 = config.vnis ↔ ∀ data, config.vnis vni = some data →
        OwnUnrouted portId ip4 ip6 data := by
  rw [abandonedVnis, assign_eq_self_iff]
  cases config.vnis vni with
  | none => simp
  | some data => simp [← dropRoutes_eq_self_iff, eq_comm]

theorem abandonedNetwork_eq_self_iff : abandonedNetwork config vni = config.network ↔
      (config.vnis vni = none → NothingToPurge config.network vni) := by
  rw [abandonedNetwork]
  cases config.vnis vni with
  | none => simp [purged_eq_self_iff]
  | some data => simp

theorem abandoned_eq_self_iff {request : DpgrpcIface}
    (held : config.tables.ports.entry port.portId = some port) :
    config.abandoned request port = config ↔
      config.tables.vnfs.value (ifaceVnf request port) = none ∧
        port.iface = PortIface.zeroed ∧ config.fwall port.portId = [] ∧
        (∀ data, config.vnis request.vni = some data →
          OwnUnrouted port.portId request.ip4Addr request.ip6Addr data) ∧
        (config.vnis request.vni = none → NothingToPurge config.network request.vni) := by
  constructor
  · intro same
    have vnfs : forget config.tables.vnfs (ifaceVnf request port) = config.tables.vnfs :=
      congrArg (fun config => config.tables.vnfs) same
    have ports :
        config.tables.ports.update { port with iface := PortIface.zeroed } = config.tables.ports :=
      congrArg (fun config => config.tables.ports) same
    have fwall : assign config.fwall port.portId [] = config.fwall := congrArg Config.fwall same
    have cleared := PortTable.update_eq_self_iff.mp ports
    have iface : port.iface = PortIface.zeroed :=
      congrArg Port.iface (Option.some.inj (held.symm.trans cleared))
    exact
      ⟨forget_eq_self_iff.mp vnfs, iface, assign_eq_self_iff.mp fwall,
        abandonedVnis_eq_self_iff.mp (congrArg Config.vnis same),
        abandonedNetwork_eq_self_iff.mp (congrArg Config.network same)⟩
  rintro ⟨unknown, zeroed, rules, unrouted, purged⟩
  have ports :
      config.tables.ports.update { port with iface := PortIface.zeroed } =
        config.tables.ports := by
    rw [← zeroed]
    exact PortTable.update_eq_self_iff.mpr held
  rw [Config.abandoned, forget_eq_self_iff.mpr unknown, ports,
    assign_eq_self_iff.mpr rules, abandonedVnis_eq_self_iff.mpr unrouted,
    abandonedNetwork_eq_self_iff.mpr purged]

theorem setVnfs_setPort_iff {vnf : Vnf} (held : config.tables.ports.entry port.portId = some port)
    (ifaceId : IfaceId) :
    (config.setVnfs (forget config.tables.vnfs vnf)).setPort
        { port with iface := { port.iface with id := ifaceId } } = config ↔
      config.tables.vnfs.value vnf = none ∧ port.iface.id = ifaceId := by
  constructor
  · intro same
    have vnfs : forget config.tables.vnfs vnf = config.tables.vnfs :=
      congrArg (fun config => config.tables.vnfs) same
    have ports :
        config.tables.ports.update
            { port with iface := { port.iface with id := ifaceId } } =
          config.tables.ports :=
      congrArg (fun config => config.tables.ports) same
    have changed := PortTable.update_eq_self_iff.mp ports
    have id : port.iface.id = ifaceId :=
      congrArg (fun port => port.iface.id) (Option.some.inj (held.symm.trans changed))
    exact ⟨forget_eq_self_iff.mp vnfs, id⟩
  rintro ⟨unknown, rfl⟩
  have ports : config.tables.ports.update port = config.tables.ports :=
    PortTable.update_eq_self_iff.mpr held
  rw [forget_eq_self_iff.mpr unknown, Config.setPort]
  simp only [Config.setVnfs, ports]

theorem forall_named_iff {outcomes : InterfaceOutcomes} {request : DpgrpcIface}
    (attempted : ifaceEndpoint outcomes config request = some (ulAddr6, ifaceVnf request port))
    (found : dpGetPortByName config.tables.ports request.pciName = some port)
    (property : Port → Prop) :
    (∀ ulAddr6 port, ifaceEndpoint outcomes config request = some (ulAddr6, ifaceVnf request port) →
      dpGetPortByName config.tables.ports request.pciName = some port →
      property port) ↔ property port := by
  constructor
  · intro all
    exact all ulAddr6 port attempted found
  · rintro holds _ other - named
    rw [← Option.some.inj (found.symm.trans named)]
    exact holds

/-- A request for an interface that is answered with an error leaves
everything as it was exactly if its endpoint was not registered before, the
port had kept nothing of an earlier interface, and no route, neighbour NAT or
DNAT entry was there that the failed request takes with it. -/
theorem createInterface_unchanged_iff (outcomes : InterfaceOutcomes) (config : Config)
    (request : DpgrpcIface) (error : GrpcErr)
    (failed : (config.handle (.createInterface outcomes request)).2 = some error) :
    (config.handle (.createInterface outcomes request)).1 = config ↔ ∀ ulAddr6 port,
        ifaceEndpoint outcomes config request = some (ulAddr6, ifaceVnf request port) →
        dpGetPortByName config.tables.ports request.pciName = some port →
        config.tables.vnfs.value (ifaceVnf request port) = none ∧
          RestoresInterface config request port error := by
  rw [Config.handle] at failed ⊢
  rcases dpProcessCreateInterface_ending outcomes config request with
    ⟨after, other, result, failure⟩ | ⟨_, _, _, result, -⟩
  swap
  · rw [result] at failed
    cases failed
  rw [result] at failed ⊢
  obtain rfl := Except.error.inj (error_of_answered failed)
  cases failure with
  | refused _ unattempted => simp [unattempted, answered]
  | undone ulAddr6 port _ attempted found early =>
    rw [forall_named_iff attempted found]
    have isEarly : other ≠ .vniInit4 ∧ ¬ LateIfaceError other := by
      rcases early with rfl | rfl
      · exact ⟨nofun, fun late => late.1 rfl⟩
      · exact ⟨nofun, fun late => late.2.1 rfl⟩
    refine setVnfs_forget_iff.trans ?_
    simp only [RestoresInterface, isEarly.1, isEarly.2, false_implies, and_self, and_true]
  | withoutVni ulAddr6 port attempted found =>
    rw [forall_named_iff attempted found]
    have notLate : ¬ LateIfaceError .vniInit4 := fun late => late.2.2 rfl
    simp only [RestoresInterface, notLate, false_implies, and_true, true_implies]
    exact setVnfs_setPort_iff (entry_of_dpGetPortByName found) request.ifaceId
  | abandoned ulAddr6 port _ attempted found late =>
    rw [forall_named_iff attempted found]
    refine (abandoned_eq_self_iff (entry_of_dpGetPortByName found)).trans ?_
    simp only [RestoresInterface, late, late.2.2, false_implies, true_and, true_implies]

section MeterExamples

open Graph Nodes Ipsec

/-- A request for more public than total bandwidth, which a Mellanox NIC
refuses. -/
def overbooked : ConfigRequest :=
  .createInterface interfaceCreated
    { guestIface "guest" "vf0" 0x0a000001 guestUnderlay false with
      publicFlowRateCap := 1 }

def mellanoxStart : StartUp :=
  hostStart { hostConf with mellanoxNic := true }

/-- On a host without neighbours nothing is left of the request. -/
theorem overbooked_unchanged : ((Config.initial mellanoxStart).handle overbooked).2 =
        some .portMeter ∧
      ((Config.initial mellanoxStart).handle overbooked).1 = Config.initial mellanoxStart := by
  have failed : ((Config.initial mellanoxStart).handle overbooked).2 = some .portMeter := by
    decide +kernel
  have named : dpGetPortByName (Config.initial mellanoxStart).tables.ports "vf0" =
        some (hostPort false 2 "vf0") := by
    decide +kernel
  refine
    ⟨failed,
      (createInterface_unchanged_iff interfaceCreated
        (Config.initial mellanoxStart) _ .portMeter failed).mpr ?_⟩
  intro ulAddr6 port attempted found
  obtain rfl := Option.some.inj (named.symm.trans found)
  refine ⟨rfl, nofun, ?_⟩
  intro _
  refine ⟨rfl, rfl, nofun, ?_⟩
  intro _
  exact ⟨nofun, fun _ => rfl⟩

def neighbourNat : Config :=
  (configMachine mellanoxStart).run
    [.createNeighnat ⟨true, true⟩
      { addr := .v4 0xac100009, vni := 100, range := eightPorts,
        neighAddr6 := { guestUnderlay with sfx := 30 } }]

/-- The failed request for an interface takes the neighbour NAT with it. -/
theorem neighbourNat_overbooked : (neighbourNat.handle overbooked).2 = some .portMeter ∧
      neighbourNat.network.neighnat.length = 1 ∧ neighbourNat.network.dnat 0xac100009 100 = some 0 ∧
      (neighbourNat.handle overbooked).1.network.neighnat = [] ∧
      (neighbourNat.handle overbooked).1.network.dnat 0xac100009 100 =
        none := by
  decide +kernel

end MeterExamples

end DpService.Control

import DpService.Control.Requests

/-!
# What the requests do

The configuration that each request to create something leaves behind, for
every way in which it can end.  A request that registers an endpoint and then
fails withdraws it by its address, and the reverse table forgets the endpoint
whoever it belonged to before.
-/

namespace DpService.Control

open Foundations Packet Flow
open Dataplane

variable {config : Config}

/-! ## The tables -/

section Tables

variable (vnfs : VnfTables) (ulAddr6 : Ipv6) (vnf : Vnf)

def register : VnfTables where
  handle := Function.update vnfs.handle ulAddr6 (some vnf)
  value := Function.update vnfs.value vnf (some ulAddr6)

def forget : VnfTables :=
  { vnfs with value := Function.update vnfs.value vnf none }

variable {vnfs ulAddr6 vnf}

theorem forget_eq_self_iff : forget vnfs vnf = vnfs ↔ vnfs.value vnf = none := by
  constructor
  · intro same
    rw [← same]
    exact Function.update_self ..
  · intro unknown
    rw [forget, ← unknown, Function.update_eq_self]

theorem dpDelVnf_register (free : vnfs.handle ulAddr6 = none) :
    dpDelVnf (register vnfs ulAddr6 vnf) ulAddr6 = (forget vnfs vnf, true) := by
  have held : (register vnfs ulAddr6 vnf).handle ulAddr6 = some vnf := Function.update_self ..
  have restored : Function.update (register vnfs ulAddr6 vnf).handle ulAddr6 none =
        vnfs.handle := by
    rw [register, Function.update_idem, ← free, Function.update_eq_self]
  have valued : (register vnfs ulAddr6 vnf).value vnf = some ulAddr6 := Function.update_self ..
  rw [dpDelVnf, held]
  dsimp only
  rw [restored, valued, register, Function.update_idem]
  rfl

end Tables

/-- A registration gets as far as `vnf_handle_tbl`. -/
def Attempts (outcomes : VnfOutcomes) (vnfs : VnfTables) (ulAddr6 : Ipv6) :
    Prop :=
  vnfs.handle ulAddr6 = none ∧ outcomes.addHandle = true

instance (outcomes : VnfOutcomes) (vnfs : VnfTables) (ulAddr6 : Ipv6) :
    Decidable (Attempts outcomes vnfs ulAddr6) :=
  inferInstanceAs (Decidable (_ ∧ _))

theorem dpAddVnf_of_not_attempts {outcomes : VnfOutcomes} {vnfs : VnfTables} {ulAddr6 : Ipv6}
    (vnf : Vnf) (refused : ¬ Attempts outcomes vnfs ulAddr6) :
    dpAddVnf outcomes vnfs ulAddr6 vnf = (vnfs, false) := by
  rw [dpAddVnf, if_pos]
  by_contra open_
  apply refused
  simp only [Bool.or_eq_true, Bool.not_eq_true', not_or,
    Bool.not_eq_true, Option.isSome_eq_false_iff, Option.isNone_iff_eq_none,
    Bool.not_eq_false] at open_
  exact open_

theorem dpAddVnf_of_attempts {outcomes : VnfOutcomes} {vnfs : VnfTables} {ulAddr6 : Ipv6}
    (vnf : Vnf) (attempts : Attempts outcomes vnfs ulAddr6) :
    dpAddVnf outcomes vnfs ulAddr6 vnf =
      if outcomes.addValue then (register vnfs ulAddr6 vnf, true)
      else (forget vnfs vnf, false) := by
  obtain ⟨free, addHandle⟩ := attempts
  have open_ : ¬ ((vnfs.handle ulAddr6).isSome || !outcomes.addHandle) = true := by
    simp [free, addHandle]
  rw [dpAddVnf, if_neg open_]
  cases outcomes.addValue with
  | true => rfl
  | false => ?_
  have held : Function.update vnfs.handle ulAddr6 (some vnf) ulAddr6 = some vnf :=
    Function.update_self ..
  have restored :
      Function.update (Function.update vnfs.handle ulAddr6 (some vnf))
        ulAddr6 none = vnfs.handle := by
    rw [Function.update_idem, ← free, Function.update_eq_self]
  simp only [Bool.not_false, if_true, Bool.false_eq_true, if_false,
    dpDelVnf, held, restored, forget]

def chosenAddress (generated ulAddr6 : Ipv6) : Ipv6 :=
  if ulAddr6 = Ipv6.zero then generated else ulAddr6

def attempt (outcomes : VnfOutcomes) (generated : Ipv6) (tables : Tables)
    (ulAddr6 : Ipv6) (vnf : Vnf) : Option (Ipv6 × Vnf) :=
  if Attempts outcomes tables.vnfs (chosenAddress generated ulAddr6) then
    some (chosenAddress generated ulAddr6, vnf)
  else none

section CreateVnfRoute

variable {outcomes : VnfOutcomes} {generated : Ipv6} {tables : Tables} {ulAddr6 : Ipv6} {vnf : Vnf}

theorem dpCreateVnfRoute_of_unattempted
    (unattempted : attempt outcomes generated tables ulAddr6 vnf = none) :
    dpCreateVnfRoute outcomes generated tables ulAddr6 vnf =
      (tables, chosenAddress generated ulAddr6, false) := by
  have refused : ¬ Attempts outcomes tables.vnfs (chosenAddress generated ulAddr6) := by
    intro attempts
    rw [attempt, if_pos attempts] at unattempted
    cases unattempted
  have added := dpAddVnf_of_not_attempts vnf refused
  rw [chosenAddress] at added
  rw [dpCreateVnfRoute, added]
  rfl

theorem dpCreateVnfRoute_of_attempted {pair : Ipv6 × Vnf}
    (attempted : attempt outcomes generated tables ulAddr6 vnf = some pair) :
    pair = (chosenAddress generated ulAddr6, vnf) ∧ tables.vnfs.handle pair.1 = none ∧
      dpCreateVnfRoute outcomes generated tables ulAddr6 vnf =
        if outcomes.addValue then
          ({ tables with vnfs := register tables.vnfs pair.1 vnf }, pair.1, true)
        else ({ tables with vnfs := forget tables.vnfs vnf }, pair.1, false) := by
  unfold attempt at attempted
  split at attempted
  · next attempts =>
    obtain rfl := Option.some.inj attempted
    refine ⟨rfl, attempts.1, ?_⟩
    have added := dpAddVnf_of_attempts vnf attempts
    rw [chosenAddress] at added
    rw [dpCreateVnfRoute, added]
    cases outcomes.addValue with
    | true => rfl
    | false => rfl
  cases attempted

theorem dpCreateVnfRoute_cases (outcomes : VnfOutcomes) (generated : Ipv6) (tables : Tables)
    (ulAddr6 : Ipv6) (vnf : Vnf) :
    (attempt outcomes generated tables ulAddr6 vnf = none ∧ ∃ address,
        dpCreateVnfRoute outcomes generated tables ulAddr6 vnf = (tables, address, false)) ∨
    ∃ address, attempt outcomes generated tables ulAddr6 vnf = some (address, vnf) ∧
        tables.vnfs.handle address = none ∧
        (dpCreateVnfRoute outcomes generated tables ulAddr6 vnf =
            ({ tables with vnfs := forget tables.vnfs vnf }, address, false) ∨
          dpCreateVnfRoute outcomes generated tables ulAddr6 vnf =
            ({ tables with vnfs := register tables.vnfs address vnf }, address, true)) := by
  cases attempted : attempt outcomes generated tables ulAddr6 vnf with
  | none =>
    exact Or.inl ⟨rfl, _, dpCreateVnfRoute_of_unattempted attempted⟩
  | some pair => ?_
  obtain ⟨rfl, unused, route⟩ := dpCreateVnfRoute_of_attempted attempted
  refine Or.inr ⟨_, rfl, unused, ?_⟩
  rw [route]
  cases outcomes.addValue with
  | true => exact Or.inr rfl
  | false => exact Or.inl rfl

end CreateVnfRoute

def Config.setVnfs (config : Config) (vnfs : VnfTables) : Config :=
  { config with tables := { config.tables with vnfs } }

theorem delVnf_register {config : Config} {ulAddr6 : Ipv6} {vnf : Vnf}
    (free : config.tables.vnfs.handle ulAddr6 = none) :
    (config.setVnfs (register config.tables.vnfs ulAddr6 vnf)).delVnf ulAddr6 =
      config.setVnfs (forget config.tables.vnfs vnf) := by
  have deleted := @dpDelVnf_register config.tables.vnfs ulAddr6 vnf free
  rw [Config.delVnf, unregisterVnf, Config.setVnfs]
  dsimp only
  rw [deleted]
  rfl

/-! ## VIP and NAT -/

section Snat

variable (network : Network) (ifaceIp : Ipv4) (vni : Vni)

@[simp]
theorem setSnat_snat_self (data : Option SnatData) :
    (network.setSnat ifaceIp vni data).snat ifaceIp vni = data :=
  if_pos ⟨rfl, rfl⟩

@[simp]
theorem setSnat_setSnat (first second : Option SnatData) :
    (network.setSnat ifaceIp vni first).setSnat ifaceIp vni second =
      network.setSnat ifaceIp vni second := by
  simp only [Network.setSnat, Network.mk.injEq, and_true]
  funext ip other
  split
  · rfl
  · rfl

theorem setSnat_eq_self_iff (data : Option SnatData) : network.setSnat ifaceIp vni data = network ↔
      network.snat ifaceIp vni = data := by
  constructor
  · intro same
    have entry := setSnat_snat_self network ifaceIp vni data
    rw [same] at entry
    exact entry
  intro same
  cases network
  simp only [Network.setSnat, Network.mk.injEq, and_true]
  funext ip other
  split
  · next here => rw [here.1, here.2, ← same]
  · rfl

end Snat

def vipVnf (port : Port) : Vnf :=
  ⟨.vip, port.iface.vni, port.portId, ⟨.v4 0, 0⟩⟩

def natVnf (port : Port) : Vnf :=
  ⟨.nat, port.iface.vni, port.portId, ⟨.v4 0, 0⟩⟩

/-- The pair that a request for an address of an interface registers. -/
def natEndpoint (vnfOf : Port → Vnf) (outcomes : NatOutcomes) (config : Config)
    (request : DpgrpcVip) : Option (Ipv6 × Vnf) :=
  match dpGetPortWithIfaceId config.tables request.ifaceId, request.addr with
  | some port, .v4 _ =>
    attempt outcomes.vnf outcomes.generated config.tables request.ulAddr6 (vnfOf port)
  | _, _ => none

def withVip (vip : Ipv4) (ulAddr6 : Ipv6) (entry : Option SnatData) :
    SnatData :=
  { entry.getD SnatData.zeroed with vipIp := vip, ulVipIp6 := ulAddr6 }

def withNat (natIp : Ipv4) (natPortRange : PortRange) (ulAddr6 : Ipv6)
    (entry : Option SnatData) : SnatData :=
  { entry.getD SnatData.zeroed with natIp, natPortRange, ulNatIp6 := ulAddr6 }

def clearedVip (ulAddr6 : Ipv6) (data : SnatData) : Option SnatData :=
  if data.natIp = 0 then none
  else some { data with vipIp := 0, ulVipIp6 := ulAddr6 }

def clearedNat (ulAddr6 : Ipv6) (data : SnatData) : Option SnatData :=
  if data.vipIp = 0 then none
  else
    some
      { data with natIp := 0, natPortRange := PortRange.zeroed, ulNatIp6 := ulAddr6 }

def withdrawnNetwork (cleared : SnatData → Option SnatData) (config : Config)
    (ifaceId : IfaceId) : Network :=
  match dpGetPortWithIfaceId config.tables ifaceId with
  | none => config.network
  | some port =>
    config.network.setSnat port.iface.ownIp port.iface.vni
      ((config.network.snat port.iface.ownIp port.iface.vni).bind cleared)

/-- How a request fails that registers an endpoint and then changes the
network. -/
inductive Failure
    (config : Config) (endpoint : Option (Ipv6 × Vnf))
    (late : GrpcErr → Prop) (network : Ipv6 → Network) :
    Config → GrpcErr → Prop
  | refused (error : GrpcErr) (unattempted : endpoint = none) :
      Failure config endpoint late network config error
  | undone (ulAddr6 : Ipv6) (vnf : Vnf) (error : GrpcErr)
      (attempted : endpoint = some (ulAddr6, vnf)) (early : ¬ late error) :
      Failure config endpoint late network (config.setVnfs (forget config.tables.vnfs vnf)) error
  | withdrawn (ulAddr6 : Ipv6) (vnf : Vnf) (error : GrpcErr)
      (attempted : endpoint = some (ulAddr6, vnf)) (isLate : late error) :
      Failure config endpoint late network
        { config.setVnfs (forget config.tables.vnfs vnf) with network := network ulAddr6 }
        error

theorem changeSnatData_cases (created : Bool) (isSet : SnatData → Bool)
    (change : SnatData → SnatData) (network : Network) (ifaceIp : Ipv4) (vni : Vni) :
    (∃ error, (error = .snatCreate ∨ error = .snatExists) ∧
      changeSnatData created isSet change network ifaceIp vni = (network, some error)) ∨
    changeSnatData created isSet change network ifaceIp vni =
      (network.setSnat ifaceIp vni
        (some (change ((network.snat ifaceIp vni).getD SnatData.zeroed))), none) := by
  unfold changeSnatData dpGetIfaceSnatData
  cases network.snat ifaceIp vni with
  | none =>
    cases created with
    | true => exact Or.inr rfl
    | false => exact Or.inl ⟨_, Or.inl rfl, rfl⟩
  | some data =>
    dsimp only
    cases isSet data with
    | true => exact Or.inl ⟨_, Or.inr rfl, rfl⟩
    | false => exact Or.inr rfl

theorem dpSetIfaceVipIp_cases (created : Bool) (network : Network) (ifaceIp vipIp : Ipv4)
    (vni : Vni) (ulIpv6 : Ipv6) :
    (∃ error, (error = .snatCreate ∨ error = .snatExists) ∧
      dpSetIfaceVipIp created network ifaceIp vipIp vni ulIpv6 = (network, some error)) ∨
    dpSetIfaceVipIp created network ifaceIp vipIp vni ulIpv6 =
      (network.setSnat ifaceIp vni
        (some (withVip vipIp ulIpv6 (network.snat ifaceIp vni))), none) :=
  changeSnatData_cases ..

theorem dpSetIfaceNatIp_cases (created : Bool) (network : Network) (ifaceIp natIp : Ipv4)
    (vni : Vni) (range : PortRange) (ulIpv6 : Ipv6) :
    (∃ error, (error = .snatCreate ∨ error = .snatExists) ∧
      dpSetIfaceNatIp created network ifaceIp natIp vni range ulIpv6 = (network, some error)) ∨
    dpSetIfaceNatIp created network ifaceIp natIp vni range ulIpv6 =
      (network.setSnat ifaceIp vni
        (some (withNat natIp range ulIpv6 (network.snat ifaceIp vni))), none) :=
  changeSnatData_cases ..

theorem dpSetDnatIp_cases (created : Bool) (network : Network) (dIp dnatIp : Ipv4) (vni : Vni) :
    dpSetDnatIp created network dIp dnatIp vni = (network, some .dnatExists) ∨
      dpSetDnatIp created network dIp dnatIp vni = (network, some .dnatCreate) ∨
      ∃ after, dpSetDnatIp created network dIp dnatIp vni = (after, none) := by
  unfold dpSetDnatIp dpGetDnatData
  cases network.dnat dIp vni with
  | some old => exact Or.inl rfl
  | none =>
    cases created with
    | true => exact Or.inr (Or.inr ⟨_, rfl⟩)
    | false => exact Or.inr (Or.inl rfl)

theorem withdrawSnatData_setSnat (inUse : SnatData → Bool) (clear : SnatData → SnatData)
    (network : Network) (ifaceIp : Ipv4) (vni : Vni) (data : SnatData) :
    (withdrawSnatData inUse clear (network.setSnat ifaceIp vni (some data)) ifaceIp vni).1 =
      network.setSnat ifaceIp vni (if inUse data then some (clear data) else none) := by
  unfold withdrawSnatData dpGetIfaceSnatData
  rw [setSnat_snat_self]
  dsimp only
  rw [setSnat_setSnat]

/-- A request that fails after its endpoint was registered, in the terms of
the whole configuration. -/
theorem setNat_withdrawVnf {ulAddr6 : Ipv6} {vnf : Vnf} (network : Network)
    (free : config.tables.vnfs.handle ulAddr6 = none) :
    config.setNat
        (withdrawVnf
          ⟨{ config.tables with
             vnfs := register config.tables.vnfs ulAddr6 vnf },
            network⟩
          ulAddr6) =
      { config.setVnfs (forget config.tables.vnfs vnf) with network } := by
  have deleted := @delVnf_register config ulAddr6 vnf free
  calc
    _ = { (config.setVnfs (register config.tables.vnfs ulAddr6 vnf)).delVnf
            ulAddr6 with network } := rfl
    _ = { config.setVnfs (forget config.tables.vnfs vnf) with network } := by
      rw [deleted]

def LateVipError (error : GrpcErr) : Prop :=
  error = .dnatExists ∨ error = .dnatCreate

def LateNatError (error : GrpcErr) : Prop :=
  error = .dnatCreate

theorem withdrawn_withVip (network : Network) (ifaceIp : Ipv4) (vni : Vni) (vip : Ipv4)
    (ulAddr6 : Ipv6) :
    (dpDelIfaceVipIp
        (network.setSnat ifaceIp vni (some (withVip vip ulAddr6 (network.snat ifaceIp vni))))
        ifaceIp vni).1 =
      network.setSnat ifaceIp vni ((network.snat ifaceIp vni).bind (clearedVip ulAddr6)) := by
  rw [dpDelIfaceVipIp, withdrawSnatData_setSnat]
  cases network.snat ifaceIp vni with
  | none => rfl
  | some data => ?_
  rw [Option.bind_some, clearedVip, withVip, Option.getD_some]
  by_cases unset : data.natIp = 0
  · simp [unset]
  · simp [unset]

theorem withdrawn_withNat (network : Network) (ifaceIp : Ipv4) (vni : Vni) (natIp : Ipv4)
    (range : PortRange) (ulAddr6 : Ipv6) :
    (dpDelIfaceNatIp
        (network.setSnat ifaceIp vni
          (some (withNat natIp range ulAddr6 (network.snat ifaceIp vni))))
        ifaceIp vni).1 =
      network.setSnat ifaceIp vni ((network.snat ifaceIp vni).bind (clearedNat ulAddr6)) := by
  rw [dpDelIfaceNatIp, withdrawSnatData_setSnat]
  cases network.snat ifaceIp vni with
  | none => rfl
  | some data => ?_
  rw [Option.bind_some, clearedNat, withNat, Option.getD_some]
  by_cases unset : data.vipIp = 0
  · simp [unset]
  · simp [unset]

theorem failure_of_late {ifaceId : IfaceId} {port : Port} {ulAddr6 : Ipv6} {vnf : Vnf}
    {late : GrpcErr → Prop} {error : GrpcErr} {cleared : Ipv6 → SnatData → Option SnatData}
    (found : dpGetPortWithIfaceId config.tables ifaceId = some port)
    (unused : config.tables.vnfs.handle ulAddr6 = none) (isLate : late error) :
    Failure config (some (ulAddr6, vnf)) late
      (fun ulAddr6 => withdrawnNetwork (cleared ulAddr6) config ifaceId)
      (config.setNat
        (withdrawVnf
          ⟨{ config.tables with
             vnfs := register config.tables.vnfs ulAddr6 vnf },
            config.network.setSnat port.iface.ownIp port.iface.vni
              ((config.network.snat port.iface.ownIp port.iface.vni).bind (cleared ulAddr6))⟩
          ulAddr6))
      error := by
  have network : withdrawnNetwork (cleared ulAddr6) config ifaceId =
        config.network.setSnat port.iface.ownIp port.iface.vni
          ((config.network.snat port.iface.ownIp port.iface.vni).bind (cleared ulAddr6)) := by
    rw [withdrawnNetwork, found]
  rw [setNat_withdrawVnf _ unused, ← network]
  exact .withdrawn ulAddr6 vnf error rfl isLate

theorem dpProcessCreateVip_cases (outcomes : NatOutcomes) (config : Config) (request : DpgrpcVip) :
    (∃ after error, dpProcessCreateVip outcomes config request = (after, .error error) ∧
        Failure config (natEndpoint vipVnf outcomes config request) LateVipError
          (fun ulAddr6 => withdrawnNetwork (clearedVip ulAddr6) config request.ifaceId)
          after error) ∨
    ∃ after ulAddr6, dpProcessCreateVip outcomes config request = (after, .ok ulAddr6) := by
  unfold dpProcessCreateVip Dataplane.dpProcessCreateVip
  simp only [Config.natConfig]
  cases found : dpGetPortWithIfaceId config.tables request.ifaceId with
  | none =>
    refine Or.inl ⟨config, _, rfl, .refused _ ?_⟩
    rw [natEndpoint, found]
  | some port => ?_
  cases addr : request.addr with
  | v6 address =>
    refine Or.inl ⟨config, _, rfl, .refused _ ?_⟩
    rw [natEndpoint, found, addr]
  | v4 vip => ?_
  have endpoint : natEndpoint vipVnf outcomes config request =
        attempt outcomes.vnf outcomes.generated config.tables
          request.ulAddr6 (vipVnf port) := by
    rw [natEndpoint, found, addr]
  rw [endpoint]
  dsimp only
  rcases dpCreateVnfRoute_cases outcomes.vnf outcomes.generated
      config.tables request.ulAddr6 (vipVnf port) with
    ⟨unattempted, _, route⟩ | ⟨ulAddr6, attempted, unused, route | route⟩
  · rw [vipVnf] at route
    rw [route]
    exact Or.inl ⟨config, _, rfl, .refused _ unattempted⟩
  · rw [vipVnf] at route
    rw [route]
    refine Or.inl ⟨_, _, rfl, .undone ulAddr6 _ _ attempted ?_⟩
    rintro (late | late) <;> cases late
  rw [vipVnf] at route
  rw [route]
  dsimp only
  have early : ∀ error, error = .snatCreate ∨ error = .snatExists → ¬ LateVipError error := by
    rintro error (rfl | rfl) (late | late) <;> cases late
  rcases dpSetIfaceVipIp_cases outcomes.snatCreated config.network
      port.iface.ownIp vip port.iface.vni ulAddr6 with
    ⟨error, snatError, failed⟩ | changed
  · rw [failed]
    dsimp only
    rw [setNat_withdrawVnf config.network unused]
    exact Or.inl ⟨_, _, rfl, .undone ulAddr6 _ _ attempted (early error snatError)⟩
  rw [changed, attempted]
  dsimp only
  rcases dpSetDnatIp_cases outcomes.dnatCreated
      (config.network.setSnat port.iface.ownIp port.iface.vni
        (some (withVip vip ulAddr6 (config.network.snat port.iface.ownIp port.iface.vni))))
      vip port.iface.ownIp port.iface.vni with
    failed | failed | ⟨redirected, set⟩
  · rw [failed]
    dsimp only
    rw [withdrawn_withVip]
    exact Or.inl ⟨_, _, rfl, failure_of_late found unused (Or.inl rfl)⟩
  · rw [failed]
    dsimp only
    rw [withdrawn_withVip]
    exact Or.inl ⟨_, _, rfl, failure_of_late found unused (Or.inr rfl)⟩
  · rw [set]
    exact Or.inr ⟨_, _, rfl⟩

theorem dpProcessCreateNat_cases (outcomes : NatOutcomes) (config : Config) (request : DpgrpcNat) :
    (∃ after error, dpProcessCreateNat outcomes config request = (after, .error error) ∧
        Failure config (natEndpoint natVnf outcomes config request.toDpgrpcVip) LateNatError
          (fun ulAddr6 => withdrawnNetwork (clearedNat ulAddr6) config request.ifaceId)
          after error) ∨
    ∃ after ulAddr6, dpProcessCreateNat outcomes config request = (after, .ok ulAddr6) := by
  unfold dpProcessCreateNat Dataplane.dpProcessCreateNat
  simp only [Config.natConfig]
  cases found : dpGetPortWithIfaceId config.tables request.ifaceId with
  | none =>
    refine Or.inl ⟨config, _, rfl, .refused _ ?_⟩
    rw [natEndpoint, found]
  | some port => ?_
  cases addr : request.addr with
  | v6 address =>
    refine Or.inl ⟨config, _, rfl, .refused _ ?_⟩
    rw [natEndpoint, found, addr]
  | v4 natIp => ?_
  have endpoint : natEndpoint natVnf outcomes config request.toDpgrpcVip =
        attempt outcomes.vnf outcomes.generated config.tables
          request.ulAddr6 (natVnf port) := by
    rw [natEndpoint, found, addr]
  rw [endpoint]
  dsimp only
  rcases dpCreateVnfRoute_cases outcomes.vnf outcomes.generated
      config.tables request.ulAddr6 (natVnf port) with
    ⟨unattempted, _, route⟩ | ⟨ulAddr6, attempted, unused, route | route⟩
  · rw [natVnf] at route
    rw [route]
    exact Or.inl ⟨config, _, rfl, .refused _ unattempted⟩
  · rw [natVnf] at route
    rw [route]
    exact Or.inl ⟨_, _, rfl, .undone ulAddr6 _ _ attempted nofun⟩
  rw [natVnf] at route
  rw [route]
  dsimp only
  have early : ∀ error, error = .snatCreate ∨ error = .snatExists → ¬ LateNatError error := by
    rintro error (rfl | rfl) late <;> cases late
  rcases dpSetIfaceNatIp_cases outcomes.snatCreated config.network
      port.iface.ownIp natIp port.iface.vni request.range ulAddr6 with
    ⟨error, snatError, failed⟩ | changed
  · rw [failed]
    dsimp only
    rw [setNat_withdrawVnf config.network unused]
    exact Or.inl ⟨_, _, rfl, .undone ulAddr6 _ _ attempted (early error snatError)⟩
  rw [changed, attempted]
  dsimp only
  rcases dpSetDnatIp_cases outcomes.dnatCreated
      (config.network.setSnat port.iface.ownIp port.iface.vni
        (some
          (withNat natIp request.range ulAddr6
            (config.network.snat port.iface.ownIp port.iface.vni))))
      natIp 0 port.iface.vni with
    shared | failed | ⟨redirected, set⟩
  · rw [shared]
    exact Or.inr ⟨_, _, rfl⟩
  · rw [failed]
    dsimp only
    rw [withdrawn_withNat]
    exact Or.inl ⟨_, _, rfl, failure_of_late found unused rfl⟩
  · rw [set]
    exact Or.inr ⟨_, _, rfl⟩

/-! ## Load balancers -/

def lbEndpoint (outcomes : CreateLbOutcomes) (config : Config) (request : DpgrpcLb) :
    Option (Ipv6 × Vnf) :=
  attempt outcomes.vnf outcomes.generated config.tables request.ulAddr6
    (lbVnf config.tables request)

def Config.setLbs (config : Config) (lbs : LbTables) : Config :=
  { config with lbs }

def addedLb (lbs : LbTables) (request : DpgrpcLb) (ulAddr6 : Ipv6) : LbTables where
  lbTable := lbs.lbTable.insert request.key (.value (newLb request ulAddr6))
  idMap := assign lbs.idMap request.lbId (some request.key)

theorem dpCreateLb_cases (outcomes : LbOutcomes) (lbs : LbTables) (request : DpgrpcLb)
    (ulAddr6 : Ipv6) :
    (∃ error, dpCreateLb outcomes lbs request ulAddr6 = (lbs, some error) ∧ error ≠ .vniInit4 ∧
        (error = .outOfMemory → outcomes.inserted = false)) ∨
    (lbs.lbTable.lookup request.key = none ∧ outcomes = ⟨true, false⟩ ∧
      dpCreateLb outcomes lbs request ulAddr6 =
        ({ lbs with lbTable := lbs.lbTable.insert request.key .freed }, some .outOfMemory)) ∨
    (lbs.lbTable.lookup request.key = none ∧ dpCreateLb outcomes lbs request ulAddr6 =
        (addedLb lbs request ulAddr6, none)) := by
  unfold dpCreateLb
  obtain ⟨inserted, mapped⟩ := outcomes
  cases held : lbs.lbTable.lookup request.key with
  | some entry => exact Or.inl ⟨_, rfl, nofun, nofun⟩
  | none => ?_
  cases inserted with
  | false => exact Or.inl ⟨_, rfl, nofun, fun _ => rfl⟩
  | true =>
    cases mapped with
    | false => exact Or.inr (Or.inl ⟨rfl, rfl, rfl⟩)
    | true => exact Or.inr (Or.inr ⟨rfl, rfl⟩)

inductive LbFailure
    (outcomes : CreateLbOutcomes) (config : Config) (request : DpgrpcLb) :
    Config → GrpcErr → Prop
  | refused (error : GrpcErr)
      (unattempted : lbEndpoint outcomes config request = none) :
      LbFailure outcomes config request config error
  | undone (ulAddr6 : Ipv6) (vnf : Vnf) (error : GrpcErr)
      (attempted : lbEndpoint outcomes config request = some (ulAddr6, vnf))
      (vniReady : error ≠ .vniInit4)
      (memory : error = .outOfMemory → outcomes.lb.inserted = false) :
      LbFailure outcomes config request (config.setVnfs (forget config.tables.vnfs vnf)) error
  | unmapped (ulAddr6 : Ipv6) (vnf : Vnf)
      (attempted : lbEndpoint outcomes config request = some (ulAddr6, vnf))
      (absent : config.lbs.lbTable.lookup request.key = none)
      (inserted : outcomes.lb = ⟨true, false⟩) :
      LbFailure outcomes config request
        ((config.setVnfs (forget config.tables.vnfs vnf)).setLbs
          { config.lbs with
            lbTable := config.lbs.lbTable.insert request.key .freed })
        .outOfMemory
  | withoutVni (ulAddr6 : Ipv6) (vnf : Vnf)
      (attempted : lbEndpoint outcomes config request = some (ulAddr6, vnf))
      (absent : config.lbs.lbTable.lookup request.key = none) :
      LbFailure outcomes config request
        ((config.setVnfs (forget config.tables.vnfs vnf)).setLbs
          { config.lbs with
            idMap := assign config.lbs.idMap request.lbId none })
        .vniInit4

structure LbCreated
    (outcomes : CreateLbOutcomes) (config : Config) (request : DpgrpcLb)
    (ulAddr6 : Ipv6) (after : Config) : Prop where
  absent : config.lbs.lbTable.lookup request.key = none
  result : after =
      { (config.setVnfs (register config.tables.vnfs ulAddr6 (lbVnf config.tables request))).setLbs
          (addedLb config.lbs request ulAddr6) with
        vnis := (dpCreateVniRouteTables outcomes.vniAllocated config.vnis request.vni).1 }
  ready : (dpCreateVniRouteTables outcomes.vniAllocated config.vnis request.vni).2 = true

theorem dpDeleteLb_addedLb {lbs : LbTables} {request : DpgrpcLb} {ulAddr6 : Ipv6}
    (absent : lbs.lbTable.lookup request.key = none) :
    (dpDeleteLb (addedLb lbs request ulAddr6) request.lbId).1 =
      { lbs with idMap := assign lbs.idMap request.lbId none } := by
  have mapped : (addedLb lbs request ulAddr6).idMap request.lbId = some request.key :=
    assign_self ..
  have erased :
      (lbs.lbTable.insert request.key (.value (newLb request ulAddr6))).erase request.key =
        lbs.lbTable :=
    FiniteTable.erase_insert_of_lookup_none lbs.lbTable _ absent
  unfold dpDeleteLb
  rw [mapped]
  dsimp only
  rw [addedLb, erased, assign_assign]

theorem dpCreateVniRouteTables_failed {allocated : Bool} {vnis changed : VniTable} {vni : Vni}
    (failed : dpCreateVniRouteTables allocated vnis vni = (changed, false)) :
    changed = vnis := by
  unfold dpCreateVniRouteTables at failed
  split at failed
  · cases failed
  split at failed
  · cases failed
  · exact ((Prod.mk.inj failed).1).symm

theorem dpProcessCreateLb_cases
    (outcomes : CreateLbOutcomes) (config : Config) (request : DpgrpcLb) :
    (∃ after error, dpProcessCreateLb outcomes config request = (after, .error error) ∧
        LbFailure outcomes config request after error) ∨
    ∃ after ulAddr6, dpProcessCreateLb outcomes config request = (after, .ok ulAddr6) ∧
        LbCreated outcomes config request ulAddr6 after := by
  unfold dpProcessCreateLb
  rcases dpCreateVnfRoute_cases outcomes.vnf outcomes.generated
      config.tables request.ulAddr6 (lbVnf config.tables request) with
    ⟨unattempted, _, route⟩ | ⟨ulAddr6, attempted, unused, route | route⟩
  · rw [route]
    exact Or.inl ⟨config, _, rfl, .refused _ unattempted⟩
  · rw [route]
    exact Or.inl ⟨_, _, rfl, .undone ulAddr6 _ _ attempted nofun nofun⟩
  rw [route]
  dsimp only
  -- the errors behind the registration withdraw it
  have withdrawn : ∀ lbs : LbTables,
      { config with
        tables :=
          { config.tables with
            vnfs := register config.tables.vnfs ulAddr6 (lbVnf config.tables request) }
        lbs }.delVnf ulAddr6 =
      (config.setVnfs
        (forget config.tables.vnfs (lbVnf config.tables request))).setLbs lbs := by
    intro lbs
    exact @delVnf_register (config.setLbs lbs) ulAddr6 _ unused
  rcases dpCreateLb_cases outcomes.lb config.lbs request ulAddr6 with
    ⟨error, failed, vniReady, memory⟩ | ⟨absent, inserted, failed⟩ | ⟨absent, added⟩
  · rw [failed]
    dsimp only
    rw [withdrawn]
    exact Or.inl ⟨_, _, rfl, .undone ulAddr6 _ _ attempted vniReady memory⟩
  · rw [failed]
    dsimp only
    rw [withdrawn]
    exact Or.inl ⟨_, _, rfl, .unmapped ulAddr6 _ attempted absent inserted⟩
  rw [added]
  dsimp only
  cases created : dpCreateVniRouteTables outcomes.vniAllocated config.vnis request.vni with
  | mk vnis ready =>
    cases ready with
    | true =>
      refine Or.inr ⟨_, _, rfl, absent, ?_, ?_⟩
      · rw [created]
        rfl
      · rw [created]
    | false =>
      rw [dpCreateVniRouteTables_failed created]
      dsimp only
      rw [withdrawn, dpDeleteLb_addedLb absent]
      exact Or.inl ⟨_, _, rfl, .withoutVni ulAddr6 _ attempted absent⟩

/-! ## Prefixes -/

def prefixEndpoint (outcomes : PrefixOutcomes) (config : Config) (request : DpgrpcPrefix) :
    Option (Ipv6 × Vnf) :=
  (dpGetPortWithIfaceId config.tables request.ifaceId).bind fun port =>
    if (dpGrpcAddRoute outcomes.routeInserted config.vnis port
        port.iface.vni 0 request.addr Ipv6.zero request.length).2.isSome then
      none
    else
      attempt outcomes.vnf outcomes.generated config.tables request.ulAddr6
        (prefixVnf .aliasPfx port request)

def lbprefixEndpoint (outcomes : PrefixOutcomes) (config : Config) (request : DpgrpcPrefix) :
    Option (Ipv6 × Vnf) :=
  (dpGetPortWithIfaceId config.tables request.ifaceId).bind fun port =>
    if dpVnfLbprefixExists config.tables.vnfs port.portId port.iface.vni
        request.addr request.length then
      none
    else
      attempt outcomes.vnf outcomes.generated config.tables request.ulAddr6
        (prefixVnf .lbAliasPfx port request)

structure LbprefixCreated
    (config : Config) (request : DpgrpcPrefix) (ulAddr6 : Ipv6) (port : Port)
    (after : Config) : Prop where
  found : dpGetPortWithIfaceId config.tables request.ifaceId = some port
  result : after =
      config.setVnfs (register config.tables.vnfs ulAddr6 (prefixVnf .lbAliasPfx port request))

/-- No error of a request for a prefix comes after its registration. -/
abbrev PrefixFailure (config : Config) (endpoint : Option (Ipv6 × Vnf)) : Config → GrpcErr → Prop :=
  Failure config endpoint (fun _ => False) fun _ => config.network

theorem dpProcessCreatePrefix_cases
    (outcomes : PrefixOutcomes) (config : Config) (request : DpgrpcPrefix) :
    (∃ after error, dpProcessCreatePrefix outcomes config request = (after, .error error) ∧
        PrefixFailure config (prefixEndpoint outcomes config request) after error) ∨
    ∃ after ulAddr6, dpProcessCreatePrefix outcomes config request = (after, .ok ulAddr6) := by
  unfold dpProcessCreatePrefix prefixEndpoint
  cases found : dpGetPortWithIfaceId config.tables request.ifaceId with
  | none => exact Or.inl ⟨config, _, rfl, .refused _ rfl⟩
  | some port => ?_
  dsimp only
  rw [Option.bind_some]
  cases routed :
    dpGrpcAddRoute outcomes.routeInserted config.vnis port port.iface.vni 0
      request.addr Ipv6.zero request.length with
  | mk vnis error =>
    cases error with
    | some error =>
      rw [dpGrpcAddRoute_failed routed]
      exact Or.inl ⟨config, _, rfl, .refused _ rfl⟩
    | none => ?_
    rw [if_neg nofun]
    dsimp only
    rcases dpCreateVnfRoute_cases outcomes.vnf outcomes.generated config.tables request.ulAddr6
        (prefixVnf .aliasPfx port request) with
      ⟨unattempted, _, route⟩ | ⟨ulAddr6, attempted, unused, route | route⟩
    · rw [route, dpGrpcDelRoute_added routed]
      exact Or.inl ⟨config, _, rfl, .refused _ unattempted⟩
    · rw [route, dpGrpcDelRoute_added routed]
      exact Or.inl ⟨_, _, rfl, .undone ulAddr6 _ _ attempted not_false⟩
    · rw [route]
      exact Or.inr ⟨_, _, rfl⟩

theorem dpProcessCreateLbPrefix_cases
    (outcomes : PrefixOutcomes) (config : Config) (request : DpgrpcPrefix) :
    (∃ after error, dpProcessCreateLbPrefix outcomes config request = (after, .error error) ∧
        PrefixFailure config (lbprefixEndpoint outcomes config request) after error) ∨
    ∃ after ulAddr6 port, dpProcessCreateLbPrefix outcomes config request = (after, .ok ulAddr6) ∧
        LbprefixCreated config request ulAddr6 port after := by
  unfold dpProcessCreateLbPrefix lbprefixEndpoint
  cases found : dpGetPortWithIfaceId config.tables request.ifaceId with
  | none => exact Or.inl ⟨config, _, rfl, .refused _ rfl⟩
  | some port => ?_
  dsimp only
  rw [Option.bind_some]
  cases exists_ :
    dpVnfLbprefixExists config.tables.vnfs port.portId port.iface.vni
      request.addr request.length with
  | true => exact Or.inl ⟨config, _, rfl, .refused _ rfl⟩
  | false => ?_
  simp only [Bool.false_eq_true, if_false]
  rcases dpCreateVnfRoute_cases outcomes.vnf outcomes.generated config.tables request.ulAddr6
      (prefixVnf .lbAliasPfx port request) with
    ⟨unattempted, _, route⟩ | ⟨ulAddr6, attempted, unused, route | route⟩
  · rw [route]
    exact Or.inl ⟨config, _, rfl, .refused _ unattempted⟩
  · rw [route]
    exact Or.inl ⟨_, _, rfl, .undone ulAddr6 _ _ attempted not_false⟩
  · rw [route]
    exact Or.inr ⟨_, _, _, rfl, found, rfl⟩

def ifaceEndpoint (outcomes : InterfaceOutcomes) (config : Config) (request : DpgrpcIface) :
    Option (Ipv6 × Vnf) :=
  if request.encrypt && !config.tables.conf.ipsecEnabled then none
  else
    (dpGetPortByName config.tables.ports request.pciName).bind fun port =>
      if port.allocated then none
      else
        attempt outcomes.vnf outcomes.generated config.tables request.ulAddr6
          (ifaceVnf request port)

/-- The pair that a request registers, if it gets that far.  It may be
withdrawn again before the request is answered. -/
def ConfigRequest.endpoint (config : Config) : ConfigRequest → Option (Ipv6 × Vnf)
  | .createInterface outcomes request => ifaceEndpoint outcomes config request
  | .createVip outcomes request => natEndpoint vipVnf outcomes config request
  | .createNat outcomes request => natEndpoint natVnf outcomes config request.toDpgrpcVip
  | .createLb outcomes request => lbEndpoint outcomes config request
  | .createPrefix outcomes request => prefixEndpoint outcomes config request
  | .createLbPrefix outcomes request => lbprefixEndpoint outcomes config request
  | _ => none

theorem attempt_eq_some {outcomes : VnfOutcomes} {generated ulAddr6 address : Ipv6}
    {tables : Tables} {vnf registered : Vnf}
    (attempted : attempt outcomes generated tables ulAddr6 vnf = some (address, registered)) :
    registered = vnf ∧ tables.vnfs.handle address = none := by
  obtain ⟨pair, unused, -⟩ := dpCreateVnfRoute_of_attempted attempted
  exact ⟨(Prod.mk.inj pair).2, unused⟩

theorem ifaceEndpoint_eq_some {outcomes : InterfaceOutcomes} {request : DpgrpcIface}
    {ulAddr6 : Ipv6} {vnf : Vnf}
    (attempted : ifaceEndpoint outcomes config request = some (ulAddr6, vnf)) :
    ∃ port, dpGetPortByName config.tables.ports request.pciName = some port ∧
        port.allocated = false ∧ vnf = ifaceVnf request port ∧
        config.tables.vnfs.handle ulAddr6 = none := by
  unfold ifaceEndpoint at attempted
  split at attempted
  · cases attempted
  obtain ⟨port, found, chosen⟩ := Option.bind_eq_some_iff.mp attempted
  split at chosen
  · cases chosen
  · next idle =>
    obtain ⟨rfl, unused⟩ := attempt_eq_some chosen
    exact ⟨port, found, Bool.not_eq_true _ ▸ idle, rfl, unused⟩

end DpService.Control

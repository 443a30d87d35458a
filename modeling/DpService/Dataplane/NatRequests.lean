import DpService.Dataplane.Interface
import DpService.Dataplane.Network

/-!
# VIP and NAT of an interface

The handlers `dp_process_create_vip`, `_delete_vip`, `_create_nat` and
`_delete_nat`, with the tables for source and destination NAT behind them.
-/

namespace DpService.Dataplane

open Foundations Packet Flow

/-! ## The tables -/

def SnatData.zeroed : SnatData where
  vipIp := 0
  natIp := 0
  natPortRange := PortRange.zeroed
  ulVipIp6 := Ipv6.zero
  ulNatIp6 := Ipv6.zero

namespace Network

def setSnat (network : Network) (ifaceIp : Ipv4) (vni : Vni) (data : Option SnatData) :
    Network :=
  { network with
    snat := fun ip other =>
      if ip = ifaceIp ∧ other = vni then data else network.snat ip other }

def setDnat (network : Network) (dIp : Ipv4) (vni : Vni) (dnatIp : Option Ipv4) :
    Network :=
  { network with
    dnat := fun ip other =>
      if ip = dIp ∧ other = vni then dnatIp else network.dnat ip other }

end Network

/-- The steps that `dp_set_iface_vip_ip` and `dp_set_iface_nat_ip` share: the
entry is made unless there is one, in which `isSet` must not hold. -/
def changeSnatData (created : Bool) (isSet : SnatData → Bool) (change : SnatData → SnatData)
    (network : Network) (ifaceIp : Ipv4) (vni : Vni) :
    Network × Option GrpcErr :=
  match dpGetIfaceSnatData network ifaceIp vni with
  | none =>
    if created then (network.setSnat ifaceIp vni (some (change SnatData.zeroed)), none)
    else (network, some .snatCreate)
  | some data =>
    if isSet data then (network, some .snatExists)
    else (network.setSnat ifaceIp vni (some (change data)), none)

def dpSetIfaceVipIp (created : Bool) (network : Network) (ifaceIp vipIp : Ipv4) (vni : Vni)
    (ulIpv6 : Ipv6) : Network × Option GrpcErr :=
  changeSnatData created (fun data => data.vipIp != 0)
    (fun data => { data with vipIp, ulVipIp6 := ulIpv6 }) network ifaceIp vni

def dpSetIfaceNatIp (created : Bool) (network : Network) (ifaceIp natIp : Ipv4) (vni : Vni)
    (natPortRange : PortRange) (ulIpv6 : Ipv6) : Network × Option GrpcErr :=
  changeSnatData created (fun data => data.natIp != 0)
    (fun data => { data with natIp, natPortRange, ulNatIp6 := ulIpv6 })
    network ifaceIp vni

/-- The steps that `dp_del_iface_vip_ip` and `dp_del_iface_nat_ip` share: an
entry that is still in use is kept. -/
def withdrawSnatData (inUse : SnatData → Bool) (clear : SnatData → SnatData)
    (network : Network) (ifaceIp : Ipv4) (vni : Vni) :
    Network × Option GrpcErr :=
  match dpGetIfaceSnatData network ifaceIp vni with
  | none => (network, some .snatNoData)
  | some data =>
    (network.setSnat ifaceIp vni (if inUse data then some (clear data) else none), none)

def dpDelIfaceVipIp (network : Network) (ifaceIp : Ipv4) (vni : Vni) : Network × Option GrpcErr :=
  withdrawSnatData (fun data => data.natIp != 0)
    (fun data => { data with vipIp := 0 }) network ifaceIp vni

def dpDelIfaceNatIp (network : Network) (ifaceIp : Ipv4) (vni : Vni) : Network × Option GrpcErr :=
  withdrawSnatData (fun data => data.vipIp != 0)
    (fun data => { data with natIp := 0, natPortRange := PortRange.zeroed })
    network ifaceIp vni

def dpSetDnatIp (created : Bool) (network : Network) (dIp dnatIp : Ipv4) (vni : Vni) :
    Network × Option GrpcErr :=
  if (dpGetDnatData network dIp vni).isSome then (network, some .dnatExists)
  else if created then (network.setDnat dIp vni (some dnatIp), none)
  else (network, some .dnatCreate)

def dpDelDnatIp (network : Network) (dIp : Ipv4) (vni : Vni) : Network × Option GrpcErr :=
  if (dpGetDnatData network dIp vni).isSome then (network.setDnat dIp vni none, none)
  else (network, some .dnatNoData)

/-- The entry stays as long as a neighbour has a range of the address. -/
def dpDelVipFromDnat (network : Network) (dIp : Ipv4) (vni : Vni) : Network :=
  if network.neighnat.any fun entry => entry.vni == vni && entry.natIp == dIp
  then network
  else (dpDelDnatIp network dIp vni).1

/-! ## The handlers -/

structure NatOutcomes where
  generated : Ipv6
  vnf : VnfOutcomes
  snatCreated : Bool
  dnatCreated : Bool

structure DpgrpcVip where
  ifaceId : IfaceId
  addr : IpAddress
  ulAddr6 : Ipv6
  deriving DecidableEq, Repr

structure DpgrpcNat extends DpgrpcVip where
  range : PortRange
  deriving DecidableEq, Repr

structure NatConfig where
  tables : Tables
  network : Network

/-- A request that fails after its endpoint was registered. -/
def withdrawVnf (config : NatConfig) (ulAddr6 : Ipv6) : NatConfig :=
  { config with tables := unregisterVnf config.tables ulAddr6 }

def dpProcessCreateVip (outcomes : NatOutcomes) (config : NatConfig) (request : DpgrpcVip) :
    NatConfig × Except GrpcErr Ipv6 :=
  match dpGetPortWithIfaceId config.tables request.ifaceId, request.addr with
  | none, _ => (config, .error .noVm)
  | some _, .v6 _ => (config, .error .badIpver)
  | some port, .v4 vip =>
    match
      dpCreateVnfRoute outcomes.vnf outcomes.generated config.tables request.ulAddr6
        ⟨.vip, port.iface.vni, port.portId, ⟨.v4 0, 0⟩⟩ with
    | (tables, _, false) => ({ config with tables }, .error .vnfInsert)
    | (tables, ulAddr6, true) =>
      match
        dpSetIfaceVipIp outcomes.snatCreated config.network
          port.iface.ownIp vip port.iface.vni ulAddr6 with
      | (network, some error) => (withdrawVnf ⟨tables, network⟩ ulAddr6, .error error)
      | (network, none) =>
        match
          dpSetDnatIp outcomes.dnatCreated network vip port.iface.ownIp port.iface.vni with
        | (network, some error) =>
          (withdrawVnf ⟨tables, (dpDelIfaceVipIp network port.iface.ownIp port.iface.vni).1⟩
              ulAddr6,
            .error error)
        | (network, none) => (⟨tables, network⟩, .ok ulAddr6)

def dpProcessCreateNat (outcomes : NatOutcomes) (config : NatConfig) (request : DpgrpcNat) :
    NatConfig × Except GrpcErr Ipv6 :=
  match dpGetPortWithIfaceId config.tables request.ifaceId, request.addr with
  | none, _ => (config, .error .noVm)
  | some _, .v6 _ => (config, .error .badIpver)
  | some port, .v4 natIp =>
    match
      dpCreateVnfRoute outcomes.vnf outcomes.generated config.tables request.ulAddr6
        ⟨.nat, port.iface.vni, port.portId, ⟨.v4 0, 0⟩⟩ with
    | (tables, _, false) => ({ config with tables }, .error .vnfInsert)
    | (tables, ulAddr6, true) =>
      match
        dpSetIfaceNatIp outcomes.snatCreated config.network
          port.iface.ownIp natIp port.iface.vni request.range ulAddr6 with
      | (network, some error) => (withdrawVnf ⟨tables, network⟩ ulAddr6, .error error)
      | (network, none) =>
        match
          dpSetDnatIp outcomes.dnatCreated network natIp 0 port.iface.vni with
        | (network, some .dnatCreate) =>
          (withdrawVnf ⟨tables, (dpDelIfaceNatIp network port.iface.ownIp port.iface.vni).1⟩
              ulAddr6,
            .error .dnatCreate)
        -- a NAT address may be shared
        | (network, _) => (⟨setIfaceNat tables port natIp request.range, network⟩, .ok ulAddr6)

def dpProcessDeleteVip (config : NatConfig) (flows : FlowStore) (storedRules : FlowKey → Nat)
    (ifaceId : IfaceId) : NatConfig × FlowStore × Except GrpcErr Ipv4 :=
  match dpGetPortWithIfaceId config.tables ifaceId with
  | none => (config, flows, .error .noVm)
  | some port =>
    match
      (dpGetIfaceSnatData config.network port.iface.ownIp
        port.iface.vni).filter fun data => data.vipIp != 0 with
    | none => (config, flows, .error .snatNoData)
    | some data =>
      let network := (dpDelDnatIp config.network data.vipIp port.iface.vni).1
      (⟨unregisterVnf config.tables data.ulVipIp6,
          (dpDelIfaceVipIp network port.iface.ownIp port.iface.vni).1⟩,
        dpRemoveNatFlows port.portId .vip storedRules flows, .ok data.vipIp)

def dpProcessDeleteNat (config : NatConfig) (flows : FlowStore) (storedRules : FlowKey → Nat)
    (ifaceId : IfaceId) : NatConfig × FlowStore × Except GrpcErr Ipv4 :=
  match dpGetPortWithIfaceId config.tables ifaceId with
  | none => (config, flows, .error .noVm)
  | some port =>
    match
      (dpGetIfaceSnatData config.network port.iface.ownIp
        port.iface.vni).filter fun data => data.natIp != 0 with
    | none => (config, flows, .error .snatNoData)
    | some data =>
      let network := dpDelVipFromDnat config.network data.natIp port.iface.vni
      let tables := unregisterVnf config.tables data.ulNatIp6
      (⟨setIfaceNat tables port 0 PortRange.zeroed,
          (dpDelIfaceNatIp network port.iface.ownIp port.iface.vni).1⟩,
        dpRemoveNatFlows port.portId .networkLocal storedRules flows, .ok data.natIp)

end DpService.Dataplane

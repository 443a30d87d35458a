import DpService.Control.Interfaces

/-!
# The objects behind the tables

What the requests are about, without routes, rates and identifiers: the
interfaces that are ready, the endpoints, the network, the load balancers and
how often each VNI is referred to.
-/

namespace DpService.Control

open Foundations Packet Flow
open Dataplane

/-! ## The view -/

structure IfaceInfo where
  id : IfaceId
  vni : Vni
  ownIp : Ipv4
  ulIpv6 : Ipv6
  deriving DecidableEq, Repr

def Port.info (port : Port) : IfaceInfo where
  id := port.iface.id
  vni := port.iface.vni
  ownIp := port.iface.ownIp
  ulIpv6 := port.iface.ulIpv6

def Port.shown (port : Port) : Option IfaceInfo :=
  if port.iface.ready then some (Port.info port) else none

def ifacesOf (ports : PortTable) (id : PortId) : Option IfaceInfo :=
  (ports.entry id).bind Port.shown

def refsOf (vnis : VniTable) (vni : Vni) : Nat :=
  (vnis vni).elim 0 VniData.refCount

@[ext]
structure View where
  ifaces : PortId → Option IfaceInfo
  vnfs : VnfTables
  network : Network
  lbs : FiniteTable LbKey LbEntry
  refs : Vni → Nat

def Config.view (config : Config) : View where
  ifaces := ifacesOf config.tables.ports
  vnfs := config.tables.vnfs
  network := config.network
  lbs := config.lbs.lbTable
  refs := refsOf config.vnis

theorem ifacesOf_update (ports : PortTable) (port : Port) : ifacesOf (ports.update port) =
      assign (ifacesOf ports) port.portId (Port.shown port) := by
  funext id
  by_cases here : id = port.portId
  · subst here
    rw [ifacesOf, PortTable.update_entry_self, assign_self, Option.bind_some]
  · rw [ifacesOf, PortTable.update_entry_of_ne ports here, assign_of_ne _ _ here, ifacesOf]

theorem ifacesOf_update_same {ports : PortTable} {port changed : Port}
    (held : ports.entry port.portId = some port) (same : changed.portId = port.portId)
    (shown : Port.shown changed = Port.shown port) :
    ifacesOf (ports.update changed) = ifacesOf ports := by
  rw [ifacesOf_update, assign_eq_self_iff, same, shown, ifacesOf, held, Option.bind_some]

theorem refsOf_assign (vnis : VniTable) (vni : Vni) (entry : Option VniData) :
    refsOf (assign vnis vni entry) = assign (refsOf vnis) vni (entry.elim 0 VniData.refCount) := by
  funext other
  by_cases here : other = vni
  · rw [here, refsOf, assign_self, assign_self]
  · rw [refsOf, assign_of_ne _ _ here, assign_of_ne _ _ here, refsOf]

theorem refsOf_changeRoutes {Address : Type} (family : RouteFamily Address)
    (change : Rib Address → Except GrpcErr (Rib Address)) (vnis : VniTable) (vni : Vni) :
    refsOf (changeRoutes family change vnis vni).1 = refsOf vnis := by
  rcases changeRoutes_cases family change vnis vni with
    ⟨error, failed⟩ | ⟨data, rib, changed, held, -, -, result⟩
  · rw [failed]
  · rw [result, refsOf_assign, assign_eq_self_iff, refsOf, held]
    exact (family.refCount_setTable data changed).symm

/-! ## References -/

theorem refsOf_takenVni (vnis : VniTable) (vni : Vni) :
    (takenVni vnis vni).refCount = refsOf vnis vni + 1 := by
  unfold takenVni refsOf
  cases vnis vni with
  | none => rfl
  | some data => rfl

theorem dpDeleteVniRouteTables_refs (state : VniState) (vni : Vni) :
    refsOf (dpDeleteVniRouteTables state vni).1.vnis =
        assign (refsOf state.vnis) vni (refsOf state.vnis vni - 1) ∧
      (dpDeleteVniRouteTables state vni).1.network =
        if refsOf state.vnis vni = 1 then dpDelAllNeighNatEntriesInVni state.network vni
        else state.network := by
  unfold dpDeleteVniRouteTables
  cases held : state.vnis vni with
  | none =>
    have absent : refsOf state.vnis vni = 0 := by
      rw [refsOf, held]
      rfl
    rw [absent]
    exact ⟨(assign_eq_self_iff.mpr absent).symm, rfl⟩
  | some data => ?_
  have count : refsOf state.vnis vni = data.refCount := by
    rw [refsOf, held]
    rfl
  rw [count]
  dsimp only
  unfold VniData.decRef
  by_cases more : 1 < data.refCount
  · rw [dif_pos more, if_neg (Nat.ne_of_gt more)]
    dsimp only
    rw [refsOf_assign]
    exact ⟨rfl, rfl⟩
  have last : data.refCount = 1 :=
    Nat.le_antisymm (Nat.not_lt.mp more) data.referenced
  rw [dif_neg more, if_pos last]
  dsimp only
  rw [refsOf_assign, last]
  exact ⟨rfl, rfl⟩

theorem refsOf_eq_zero_iff {vnis : VniTable} {vni : Vni} :
    refsOf vnis vni = 0 ↔ vnis vni = none := by
  unfold refsOf
  cases vnis vni with
  | none => simp
  | some data => simpa using Nat.ne_of_gt data.referenced

theorem refsOf_abandonedVnis (config : Config) (vni : Vni) (portId : PortId) (ip4 : Ipv4)
    (ip6 : Ipv6) :
    refsOf (abandonedVnis config vni portId ip4 ip6) = refsOf config.vnis := by
  rw [abandonedVnis, refsOf_assign, assign_eq_self_iff, refsOf]
  cases config.vnis vni with
  | none => rfl
  | some data => rfl

/-- The identifiers are those of the interfaces that are ready, and these are
on ports that are in use. -/
structure Config.Orderly (config : Config) : Prop where
  mapped : ∀ ifaceId id, config.tables.ifaceIds ifaceId = some id ↔
      ∃ info, config.view.ifaces id = some info ∧ info.id = ifaceId
  allocated : ∀ id port,
    config.tables.ports.entry id = some port → port.iface.ready = true → port.allocated = true

theorem Config.Orderly.shown {config : Config} (orderly : config.Orderly) {ifaceId : IfaceId}
    {port : Port} (found : dpGetPortWithIfaceId config.tables ifaceId = some port) :
    config.tables.ports.entry port.portId = some port ∧
      port.iface.id = ifaceId ∧ port.iface.ready = true ∧
      config.view.ifaces port.portId = some (Port.info port) := by
  obtain ⟨id, mapped, held⟩ := Option.bind_eq_some_iff.mp found
  have here : port.portId = id := config.tables.ports.numbered id port held
  obtain ⟨info, shown, named⟩ := (orderly.mapped ifaceId id).mp mapped
  have showsPort : Port.shown port = some info := by
    have unfolded : config.view.ifaces id = Port.shown port := by
      simp only [Config.view, ifacesOf, held, Option.bind_some]
    rw [← unfolded, shown]
  unfold Port.shown at showsPort
  split at showsPort
  · next ready =>
    obtain rfl := Option.some.inj showsPort
    exact ⟨here ▸ held, named, ready, here ▸ shown⟩
  cases showsPort

theorem Config.Orderly.unshown {config : Config} (orderly : config.Orderly) {port : Port}
    (held : config.tables.ports.entry port.portId = some port) (idle : port.allocated = false) :
    port.iface.ready = false ∧ config.view.ifaces port.portId = none := by
  have unready : port.iface.ready = false := by
    by_contra ready
    have inUse := orderly.allocated _ port held (Bool.not_eq_false _ ▸ ready)
    rw [idle] at inUse
    cases inUse
  refine ⟨unready, ?_⟩
  simp only [Config.view, ifacesOf, held, Option.bind_some, Port.shown,
    unready, Bool.false_eq_true, if_false]

end DpService.Control

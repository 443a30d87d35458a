import DpService.Control.Steps

/-!
# Creation of an interface

What a request for an interface leaves behind.  However far it gets, its
routes and its reference to the VNI are taken back, so all errors behind the
set-up of the interface end in the same configuration.
-/

namespace DpService.Control

open Foundations Packet Flow
open Dataplane

/-! ## Routes of one VNI -/

section Drop

variable {Address : Type} [DecidableEq Address] (family : RouteFamily Address)
variable (portId : PortId) (address : Address) (depth : UInt8)

def RouteFamily.dropRib (rib : Rib Address) : Rib Address :=
  match lookupExact family rib address depth with
  | none => rib
  | some route =>
    if route.nextHop = portId then setRoute family rib address depth none
    else rib

def RouteFamily.Unrouted (rib : Rib Address) : Prop :=
  ∀ route, lookupExact family rib address depth = some route → route.nextHop ≠ portId

theorem lookupExact_setRoute_none (rib : Rib Address) :
    lookupExact family (setRoute family rib address depth none) address depth = none := by
  unfold lookupExact setRoute
  split
  · exact if_pos ⟨rfl, rfl⟩
  · rfl

theorem dropRib_cases (rib : Rib Address) :
    (family.Unrouted portId address depth rib ∧ family.dropRib portId address depth rib = rib) ∨
    ∃ route, lookupExact family rib address depth = some route ∧ route.nextHop = portId ∧
        family.dropRib portId address depth rib = setRoute family rib address depth none := by
  unfold RouteFamily.dropRib RouteFamily.Unrouted
  cases lookupExact family rib address depth with
  | none => exact Or.inl ⟨nofun, rfl⟩
  | some route => ?_
  dsimp only
  by_cases own : route.nextHop = portId
  · rw [if_pos own]
    exact Or.inr ⟨route, rfl, own, rfl⟩
  rw [if_neg own]
  refine Or.inl ⟨?_, rfl⟩
  rintro other ⟨⟩
  exact own

theorem dropRib_eq_self_iff {rib : Rib Address} : family.dropRib portId address depth rib = rib ↔
      family.Unrouted portId address depth rib := by
  rcases dropRib_cases family portId address depth rib with
    ⟨unrouted, kept⟩ | ⟨route, found, own, dropped⟩
  · simp only [kept, unrouted]
  constructor
  · intro same
    have cleared := lookupExact_setRoute_none family address depth rib
    rw [← dropped, same, found] at cleared
    cases cleared
  · intro unrouted
    exact absurd own (unrouted route found)

theorem dropRib_dropRib (rib : Rib Address) :
    family.dropRib portId address depth (family.dropRib portId address depth rib) =
      family.dropRib portId address depth rib := by
  rw [dropRib_eq_self_iff]
  rcases dropRib_cases family portId address depth rib with
    ⟨unrouted, kept⟩ | ⟨route, found, own, dropped⟩
  · rw [kept]
    exact unrouted
  rw [dropped]
  intro other looked
  rw [lookupExact_setRoute_none] at looked
  cases looked

theorem dropRib_addRoute {inserted : Bool} {port : Port} {tVni : Vni} {tIp6 : Ipv6}
    {rib changed : Rib Address}
    (added : addRoute family inserted port tVni address tIp6 depth rib = .ok changed) :
    family.dropRib port.portId address depth changed = rib := by
  obtain ⟨fits, free, ext, rfl⟩ := addRoute_ok family added
  have found :
      lookupExact family (setRoute family rib address depth (some ⟨port.portId, ext⟩))
          address depth =
        some ⟨port.portId, ext⟩ := by
    rw [lookupExact, if_pos fits]
    exact if_pos ⟨rfl, rfl⟩
  unfold RouteFamily.dropRib
  rw [found]
  dsimp only
  rw [if_pos rfl, setRoute_setRoute, (setRoute_eq_self_iff family).mpr free]

def RouteFamily.drop (data : VniData) : VniData :=
  match family.table data with
  | none => data
  | some rib => family.setTable data (family.dropRib portId address depth rib)

theorem changeRoutes_delRoute {port : Port} {vnis : VniTable} {vni : Vni} {data : VniData}
    (held : vnis vni = some data) :
    (changeRoutes family (delRoute family port address depth) vnis vni).1 =
      assign vnis vni (some (family.drop port.portId address depth data)) := by
  have kept : vnis = assign vnis vni (some data) := (assign_eq_self_iff.mpr held).symm
  unfold changeRoutes RouteFamily.drop RouteFamily.dropRib delRoute
  rw [held]
  dsimp only
  cases table : family.table data with
  | none => exact kept
  | some rib => ?_
  have same := family.setTable_table data rib table
  dsimp only
  cases lookupExact family rib address depth with
  | none =>
    dsimp only
    rw [same]
    exact kept
  | some route => ?_
  dsimp only
  by_cases own : route.nextHop = port.portId
  · rw [if_neg (not_not_intro own), if_pos own]
  · rw [if_pos own, if_neg own, same]
    exact kept

theorem changeRoutes_addRoute {inserted : Bool} {port : Port} {tVni vni : Vni} {tIp6 : Ipv6}
    {vnis : VniTable} {data : VniData} (held : vnis vni = some data) :
    (∃ error, (error = .noVni ∨ error = .routeExists ∨ error = .routeInsert) ∧
      changeRoutes family (addRoute family inserted port tVni address tIp6 depth) vnis vni =
        (vnis, some error)) ∨
    ∃ grown, family.drop port.portId address depth grown = data ∧
        changeRoutes family (addRoute family inserted port tVni address tIp6 depth) vnis vni =
          (assign vnis vni (some grown), none) := by
  unfold changeRoutes
  rw [held]
  dsimp only
  cases table : family.table data with
  | none => exact Or.inl ⟨_, Or.inl rfl, rfl⟩
  | some rib => ?_
  dsimp only
  cases added : addRoute family inserted port tVni address tIp6 depth rib with
  | error error =>
    refine Or.inl ⟨error, Or.inr ?_, rfl⟩
    unfold addRoute at added
    split at added
    · exact Or.inl (Except.error.inj added).symm
    split at added
    · cases added
    · exact Or.inr (Except.error.inj added).symm
  | ok changed =>
    refine Or.inr ⟨family.setTable data changed, ?_, rfl⟩
    unfold RouteFamily.drop
    rw [family.table_setTable]
    dsimp only
    rw [family.setTable_setTable, dropRib_addRoute family address depth added,
      family.setTable_table data rib table]

end Drop

/-! ## The routes of an interface -/

section OwnRoutes

variable (portId : PortId) (ip4 : Ipv4) (ip6 : Ipv6)

def dropRoute4 (data : VniData) : VniData :=
  { data with ipv4 := data.ipv4.map (ipv4Routes.dropRib portId ip4 32) }

def dropRoute6 (data : VniData) : VniData :=
  { data with ipv6 := data.ipv6.map (ipv6Routes.dropRib portId ip6 128) }

theorem drop_ipv4Routes (data : VniData) :
    ipv4Routes.drop portId ip4 32 data = dropRoute4 portId ip4 data := by
  obtain ⟨ipv4, ipv6, refCount, referenced⟩ := data
  cases ipv4 with
  | none => rfl
  | some rib => rfl

theorem drop_ipv6Routes (data : VniData) :
    ipv6Routes.drop portId ip6 128 data = dropRoute6 portId ip6 data := by
  obtain ⟨ipv4, ipv6, refCount, referenced⟩ := data
  cases ipv6 with
  | none => rfl
  | some rib => rfl

@[simp]
theorem dropRoute4_dropRoute4 (data : VniData) :
    dropRoute4 portId ip4 (dropRoute4 portId ip4 data) = dropRoute4 portId ip4 data := by
  simp only [dropRoute4, Option.map_map, Function.comp_def, dropRib_dropRib]

@[simp]
theorem dropRoute6_dropRoute6 (data : VniData) :
    dropRoute6 portId ip6 (dropRoute6 portId ip6 data) = dropRoute6 portId ip6 data := by
  simp only [dropRoute6, Option.map_map, Function.comp_def, dropRib_dropRib]

theorem dropRoute4_dropRoute6 (data : VniData) :
    dropRoute4 portId ip4 (dropRoute6 portId ip6 data) =
      dropRoute6 portId ip6 (dropRoute4 portId ip4 data) :=
  rfl

/-- However many routes of an interface were added, none of them is left when
its creation has failed. -/
theorem dropRoutes_added {data grown4 grown6 : VniData}
    (added4 : dropRoute4 portId ip4 grown4 = data ∨ grown4 = data)
    (added6 : dropRoute6 portId ip6 grown6 = grown4 ∨ grown6 = grown4) :
    dropRoute6 portId ip6
        (dropRoute4 portId ip4 (dropRoute4 portId ip4 (dropRoute6 portId ip6 grown6))) =
      dropRoute6 portId ip6 (dropRoute4 portId ip4 data) := by
  rcases added6 with added6 | rfl
  · rw [added6]
    rcases added4 with added4 | rfl
    · rw [added4]
    · rw [dropRoute4_dropRoute4]
  rw [dropRoute4_dropRoute6, dropRoute4_dropRoute6, dropRoute6_dropRoute6]
  rcases added4 with added4 | rfl
  · rw [added4]
  · rw [dropRoute4_dropRoute4]

structure VniData.SameShape (data other : VniData) : Prop where
  refCount : data.refCount = other.refCount
  ipv4 : data.ipv4.isSome = other.ipv4.isSome
  ipv6 : data.ipv6.isSome = other.ipv6.isSome

theorem sameShape_of_added {data grown4 grown6 : VniData}
    (added4 : dropRoute4 portId ip4 grown4 = data ∨ grown4 = data)
    (added6 : dropRoute6 portId ip6 grown6 = grown4 ∨ grown6 = grown4) :
    grown6.SameShape data := by
  rcases added6 with rfl | rfl
  · rcases added4 with rfl | rfl
    · exact ⟨rfl, Option.isSome_map.symm, Option.isSome_map.symm⟩
    · exact ⟨rfl, rfl, Option.isSome_map.symm⟩
  · rcases added4 with rfl | rfl
    · exact ⟨rfl, Option.isSome_map.symm, rfl⟩
    · exact ⟨rfl, rfl, rfl⟩

def OwnUnrouted (data : VniData) : Prop :=
  (∀ rib, data.ipv4 = some rib → ipv4Routes.Unrouted portId ip4 32 rib) ∧
    ∀ rib, data.ipv6 = some rib → ipv6Routes.Unrouted portId ip6 128 rib

theorem dropRoutes_eq_self_iff {data : VniData} :
    dropRoute6 portId ip6 (dropRoute4 portId ip4 data) = data ↔
      OwnUnrouted portId ip4 ip6 data := by
  obtain ⟨ipv4, ipv6, refCount, referenced⟩ := data
  have kept : ∀ {Address : Type} (change : Rib Address → Rib Address)
      (table : Option (Rib Address)),
      table.map change = table ↔ ∀ rib, table = some rib → change rib = rib := by
    intro Address change table
    cases table with
    | none => simp
    | some rib => simp
  simp only [dropRoute6, dropRoute4, VniData.mk.injEq, and_true, kept,
    dropRib_eq_self_iff, OwnUnrouted]

end OwnRoutes

/-! ## References to a VNI -/

def takenVni (vnis : VniTable) (vni : Vni) : VniData :=
  match vnis vni with
  | some data => data.incRef
  | none => VniData.fresh

theorem dpCreateVniRouteTables_ready {allocated : Bool} {vnis changed : VniTable} {vni : Vni}
    (ready : dpCreateVniRouteTables allocated vnis vni = (changed, true)) :
    changed = assign vnis vni (some (takenVni vnis vni)) := by
  unfold dpCreateVniRouteTables at ready
  unfold takenVni
  cases held : vnis vni with
  | some data =>
    rw [held] at ready
    exact ((Prod.mk.inj ready).1).symm
  | none => ?_
  rw [held] at ready
  cases allocated with
  | false => cases ready
  | true => exact ((Prod.mk.inj ready).1).symm

theorem decRef_incRef (data : VniData) : data.incRef.decRef = some data := by
  have more : 1 < data.incRef.refCount := Nat.succ_lt_succ data.referenced
  unfold VniData.decRef
  rw [dif_pos more]
  rfl

section Abandoned

variable (config : Config) (vni : Vni) (portId : PortId) (ip4 : Ipv4) (ip6 : Ipv6)

def abandonedVnis : VniTable :=
  assign config.vnis vni
    ((config.vnis vni).map fun data => dropRoute6 portId ip6 (dropRoute4 portId ip4 data))

/-- A VNI that was only set up for the interface is freed. -/
def abandonedNetwork : Network :=
  if (config.vnis vni).isNone then dpDelAllNeighNatEntriesInVni config.network vni
  else config.network

theorem dropRoutes_fresh : dropRoute6 portId ip6 (dropRoute4 portId ip4 VniData.fresh) =
      VniData.fresh := by
  rw [dropRoutes_eq_self_iff]
  constructor
  · rintro _ ⟨⟩ route found
    simp [lookupExact, Rib.empty] at found
  · rintro _ ⟨⟩ route found
    simp [lookupExact, Rib.empty] at found

theorem dpDeleteVniRouteTables_taken :
    (dpDeleteVniRouteTables
        ⟨assign config.vnis vni
            (some (dropRoute6 portId ip6 (dropRoute4 portId ip4 (takenVni config.vnis vni)))),
          config.network⟩
        vni).1 =
      ⟨abandonedVnis config vni portId ip4 ip6, abandonedNetwork config vni⟩ := by
  unfold dpDeleteVniRouteTables abandonedVnis abandonedNetwork takenVni
  dsimp only
  rw [assign_self]
  dsimp only
  cases held : config.vnis vni with
  | none =>
    dsimp only
    rw [dropRoutes_fresh, Option.map_none, assign_assign]
    rfl
  | some data => ?_
  dsimp only
  have dropped : dropRoute6 portId ip6 (dropRoute4 portId ip4 data.incRef) =
        (dropRoute6 portId ip6 (dropRoute4 portId ip4 data)).incRef :=
    rfl
  rw [dropped, decRef_incRef, Option.map_some]
  dsimp only
  rw [assign_assign]
  rfl

end Abandoned

/-! ## A request for an interface that fails -/

theorem PortTable.ext {ports others : PortTable}
    (same : ports.entry = others.entry) : ports = others := by
  cases ports
  cases others
  cases same
  rfl

theorem PortTable.update_update (ports : PortTable) {first second : Port}
    (same : first.portId = second.portId) :
    (ports.update first).update second = ports.update second := by
  apply PortTable.ext
  simp only [PortTable.update]
  rw [same, Function.update_idem]

theorem PortTable.update_eq_self_iff {ports : PortTable} {port : Port} :
    ports.update port = ports ↔ ports.entry port.portId = some port := by
  constructor
  · intro same
    rw [← same]
    exact Function.update_self ..
  intro held
  apply PortTable.ext
  simp only [PortTable.update]
  rw [← held, Function.update_eq_self]

theorem entry_of_dpGetPortByName {ports : PortTable} {pciName : String} {port : Port}
    (found : dpGetPortByName ports pciName = some port) :
    ports.entry port.portId = some port := by
  unfold dpGetPortByName at found
  split at found
  · cases found
  obtain ⟨id, -, filtered⟩ := List.exists_of_findSome?_eq_some found
  have held := (Option.filter_eq_some_iff.mp filtered).1
  rw [ports.numbered _ port held]
  exact held

def Config.settingUp (config : Config) (request : DpgrpcIface) (ulAddr6 : Ipv6) (port : Port)
    (iface : PortIface) (data : VniData) : Config :=
  { config with
    tables :=
      { config.tables with
        vnfs := register config.tables.vnfs ulAddr6 (ifaceVnf request port)
        ports := config.tables.ports.update { port with iface }
        ifaceIds := Function.update config.tables.ifaceIds request.ifaceId (some port.portId) }
    vnis := assign config.vnis request.vni (some data)
    fwall := assign config.fwall port.portId [] }

def Config.abandoned (config : Config) (request : DpgrpcIface) (port : Port) : Config :=
  { config with
    tables :=
      { config.tables with
        vnfs := forget config.tables.vnfs (ifaceVnf request port)
        ports := config.tables.ports.update { port with iface := PortIface.zeroed } }
    vnis := abandonedVnis config request.vni port.portId request.ip4Addr request.ip6Addr
    network := abandonedNetwork config request.vni
    fwall := assign config.fwall port.portId [] }

structure Requested (request : DpgrpcIface) (iface : PortIface) : Prop where
  vni : iface.vni = request.vni
  ownIp : iface.ownIp = request.ip4Addr
  ownIpv6 : iface.ownIpv6 = request.ip6Addr

section Ladder

variable {config : Config} {request : DpgrpcIface} {ulAddr6 : Ipv6}
    {port : Port} {iface : PortIface} {data : VniData}

theorem routeErr_settingUp :
    routeErr (config.settingUp request ulAddr6 port iface data)
        { request with ulAddr6 } { port with iface } =
      ifaceErr
        (config.settingUp request ulAddr6 port iface (dropRoute4 port.portId request.ip4Addr data))
        { request with ulAddr6 } { port with iface } := by
  have deleted :=
    @changeRoutes_delRoute _ _ ipv4Routes request.ip4Addr 32 { port with iface }
      (config.settingUp request ulAddr6 port iface data).vnis request.vni
      data (assign_self ..)
  unfold routeErr dpDelRoute
  rw [deleted, drop_ipv4Routes, Config.settingUp]
  dsimp only
  rw [assign_assign]
  rfl

theorem route6Err_settingUp :
    route6Err (config.settingUp request ulAddr6 port iface data)
        { request with ulAddr6 } { port with iface } =
      routeErr
        (config.settingUp request ulAddr6 port iface (dropRoute6 port.portId request.ip6Addr data))
        { request with ulAddr6 } { port with iface } := by
  have deleted :=
    @changeRoutes_delRoute _ _ ipv6Routes request.ip6Addr 128 { port with iface }
      (config.settingUp request ulAddr6 port iface data).vnis request.vni
      data (assign_self ..)
  unfold route6Err dpDelRoute6
  rw [deleted, drop_ipv6Routes, Config.settingUp]
  dsimp only
  rw [assign_assign]
  rfl

theorem dpDeleteIface_eq {config : Config} {port : Port} {data : VniData}
    (held : config.vnis port.iface.vni = some data) :
    dpDeleteIface config port =
      ({ config.setVnis
          (dpDeleteVniRouteTables
            ⟨assign config.vnis port.iface.vni
                (some
                  (dropRoute6 port.portId port.iface.ownIpv6
                    (dropRoute4 port.portId port.iface.ownIp data))),
              config.network⟩
            port.iface.vni).1 with
          fwall := assign config.fwall port.portId [] }).setPort
        { port with iface := PortIface.zeroed } := by
  have deleted4 :=
    @changeRoutes_delRoute _ _ ipv4Routes port.iface.ownIp 32 port config.vnis
      port.iface.vni data held
  have deleted6 :=
    @changeRoutes_delRoute _ _ ipv6Routes port.iface.ownIpv6 128 port
      (assign config.vnis port.iface.vni (some (dropRoute4 port.portId port.iface.ownIp data)))
      port.iface.vni _ (assign_self ..)
  rw [drop_ipv4Routes] at deleted4
  rw [drop_ipv6Routes, assign_assign] at deleted6
  unfold dpDeleteIface dpDelRoute dpDelRoute6
  dsimp only
  rw [deleted4, deleted6]
  rfl

theorem ifaceErr_settingUp (unused : config.tables.vnfs.handle ulAddr6 = none)
    (unmapped : config.tables.ifaceIds request.ifaceId = none)
    (requested : Requested request iface)
    (dropped :
      dropRoute6 port.portId request.ip6Addr (dropRoute4 port.portId request.ip4Addr data) =
        dropRoute6 port.portId request.ip6Addr
          (dropRoute4 port.portId request.ip4Addr (takenVni config.vnis request.vni))) :
    ifaceErr (config.settingUp request ulAddr6 port iface data)
        { request with ulAddr6 } { port with iface } =
      config.abandoned request port := by
  have held : (config.settingUp request ulAddr6 port iface data).vnis iface.vni = some data := by
    rw [requested.vni]
    exact assign_self ..
  have released :=
    dpDeleteVniRouteTables_taken config request.vni port.portId request.ip4Addr request.ip6Addr
  have deleted := @dpDelVnf_register config.tables.vnfs ulAddr6 (ifaceVnf request port) unused
  unfold ifaceErr handleErr
  rw [@dpDeleteIface_eq _ { port with iface } data held]
  dsimp only
  rw [requested.vni, requested.ownIp, requested.ownIpv6, dropped]
  simp only [Config.settingUp, assign_assign]
  rw [released]
  simp only [Config.setVnis, Config.setPort, Config.mapIfaceId, Config.delVnf,
    unregisterVnf, deleted, Config.abandoned, Function.update_idem]
  rw [← unmapped, Function.update_eq_self]
  congr 2
  exact PortTable.update_update _ rfl

end Ladder

/-! ## How a request for an interface ends -/

def LateIfaceError (error : GrpcErr) : Prop :=
  error ≠ .vnfInsert ∧ error ≠ .vmHandle ∧ error ≠ .vniInit4

theorem lateIfaceError_of_route {error : GrpcErr}
    (route : error = .noVni ∨ error = .routeExists ∨ error = .routeInsert) :
    LateIfaceError error := by
  rcases route with rfl | rfl | rfl <;> exact ⟨nofun, nofun, nofun⟩

def PortIface.metered (iface : PortIface) (total external : UInt64) :
    PortIface :=
  { iface with totalFlowRateCap := total, publicFlowRateCap := external }

theorem meterInterface_eq (conf : DpConf) (outcomes : MeterOutcomes) (port : Port)
    (totalFlowRateCap publicFlowRateCap : UInt64) :
    ∃ total external, (meterInterface conf outcomes port totalFlowRateCap publicFlowRateCap).1 =
        { port with iface := PortIface.metered port.iface total external } := by
  have configured : ∀ port : Port, ∃ total external,
      (configurePublicMeter outcomes port publicFlowRateCap).1 =
        { port with
          iface := PortIface.metered port.iface total external } := by
    intro port
    unfold configurePublicMeter
    split
    · exact ⟨_, _, rfl⟩
    split
    · exact ⟨_, _, rfl⟩
    · exact ⟨_, _, rfl⟩
  unfold meterInterface dpPortMeterConfig
  split
  · exact ⟨_, _, rfl⟩
  split
  · exact ⟨_, _, rfl⟩
  split
  · exact ⟨_, _, rfl⟩
  split
  · exact ⟨_, _, rfl⟩
  · exact configured port
  · obtain ⟨total, external, metered⟩ := configured (setTotalFlowRateCap port totalFlowRateCap)
    exact ⟨total, external, metered⟩

section Stages

variable {outcomes : InterfaceOutcomes} {config : Config} {request : DpgrpcIface} {ulAddr6 : Ipv6}
    {port : Port} {iface : PortIface} {data : VniData}

theorem addOwnRoute_cases {vnis : VniTable} (inserted : Bool) (port : Port)
    (held : vnis request.vni = some data) :
    (∃ error, LateIfaceError error ∧ addOwnRoute inserted vnis request port = (vnis, some error)) ∨
    ∃ grown, (dropRoute4 port.portId request.ip4Addr grown = data ∨ grown = data) ∧
        addOwnRoute inserted vnis request port = (assign vnis request.vni (some grown), none) := by
  unfold addOwnRoute
  split
  · rcases changeRoutes_addRoute ipv4Routes request.ip4Addr 32 held with
      ⟨error, isRoute, failed⟩ | ⟨grown, dropped, added⟩
    · exact Or.inl ⟨error, lateIfaceError_of_route isRoute, failed⟩
    · rw [drop_ipv4Routes] at dropped
      exact Or.inr ⟨grown, Or.inl dropped, added⟩
  · refine Or.inr ⟨data, Or.inr rfl, ?_⟩
    rw [assign_eq_self_iff.mpr held]

theorem addOwnRoute6_cases {vnis : VniTable} (inserted : Bool) (port : Port)
    (held : vnis request.vni = some data) :
    (∃ error, LateIfaceError error ∧ addOwnRoute6 inserted vnis request port = (vnis, some error)) ∨
    ∃ grown, (dropRoute6 port.portId request.ip6Addr grown = data ∨ grown = data) ∧
        addOwnRoute6 inserted vnis request port = (assign vnis request.vni (some grown), none) := by
  unfold addOwnRoute6
  split
  · rcases changeRoutes_addRoute ipv6Routes request.ip6Addr 128 held with
      ⟨error, isRoute, failed⟩ | ⟨grown, dropped, added⟩
    · exact Or.inl ⟨error, lateIfaceError_of_route isRoute, failed⟩
    · rw [drop_ipv6Routes] at dropped
      exact Or.inr ⟨grown, Or.inl dropped, added⟩
  · refine Or.inr ⟨data, Or.inr rfl, ?_⟩
    rw [assign_eq_self_iff.mpr held]

abbrev newIface (request : DpgrpcIface) (ulAddr6 : Ipv6) (port : Port) :
    PortIface :=
  requestedIface port.iface { request with ulAddr6 }

/-- What `dp_process_create_interface` answers once the interface is set up:
it is given up, or it is started. -/
inductive SetupResult
    (outcomes : InterfaceOutcomes) (config : Config) (request : DpgrpcIface)
    (ulAddr6 : Ipv6) (port : Port) :
    Config × Except GrpcErr Unit → Prop
  | abandoned (error : GrpcErr) (late : LateIfaceError error) :
      SetupResult outcomes config request ulAddr6 port (config.abandoned request port, .error error)
  | started (total external : UInt64) (data : VniData)
      (shape : data.SameShape (takenVni config.vnis request.vni)) :
      SetupResult outcomes config request ulAddr6 port
        ((config.settingUp request ulAddr6 port (newIface request ulAddr6 port) data).setPort
            (startPort outcomes
              { port with
                iface := PortIface.metered (newIface request ulAddr6 port) total external }),
          .ok ())

theorem settingUp_setPort (changed : PortIface) :
    (config.settingUp request ulAddr6 port iface data).setPort
        { port with iface := changed } =
      config.settingUp request ulAddr6 port changed data := by
  have updated :=
    @PortTable.update_update config.tables.ports { port with iface }
      { port with iface := changed } rfl
  simp only [Config.settingUp, Config.setPort]
  rw [updated]

theorem startInterface_result {grown4 : VniData} (unused : config.tables.vnfs.handle ulAddr6 = none)
    (unmapped : config.tables.ifaceIds request.ifaceId = none)
    (added4 : dropRoute4 port.portId request.ip4Addr grown4 = takenVni config.vnis request.vni ∨
        grown4 = takenVni config.vnis request.vni)
    (added6 : dropRoute6 port.portId request.ip6Addr data = grown4 ∨ data = grown4) :
    SetupResult outcomes config request ulAddr6 port
      (startInterface outcomes
        (config.settingUp request ulAddr6 port (newIface request ulAddr6 port) data)
        { request with ulAddr6 }
        { port with iface := newIface request ulAddr6 port }) := by
  have failed : ∀ total external,
      route6Err
          (config.settingUp request ulAddr6 port
            (PortIface.metered (newIface request ulAddr6 port) total external)
            data)
          { request with ulAddr6 }
          { port with
            iface := PortIface.metered (newIface request ulAddr6 port) total external } =
        config.abandoned request port := by
    intro total external
    rw [route6Err_settingUp, routeErr_settingUp]
    exact
      ifaceErr_settingUp unused unmapped ⟨rfl, rfl, rfl⟩
        (dropRoutes_added port.portId request.ip4Addr request.ip6Addr added4 added6)
  unfold startInterface
  obtain ⟨total, external, metered⟩ :=
    meterInterface_eq
      (config.settingUp request ulAddr6 port (newIface request ulAddr6 port) data).tables.conf
      outcomes.meter { port with iface := newIface request ulAddr6 port }
      request.totalFlowRateCap request.publicFlowRateCap
  generalize
    meterInterface
      (config.settingUp request ulAddr6 port (newIface request ulAddr6 port) data).tables.conf
      outcomes.meter { port with iface := newIface request ulAddr6 port }
      request.totalFlowRateCap request.publicFlowRateCap = result at metered ⊢
  obtain ⟨changed, success⟩ := result
  obtain rfl : changed = _ := metered
  dsimp only
  cases success with
  | false =>
    dsimp only
    rw [settingUp_setPort, failed]
    exact .abandoned _ ⟨nofun, nofun, nofun⟩
  | true => ?_
  dsimp only
  cases outcomes.started with
  | false =>
    simp only [Bool.false_eq_true, if_false]
    rw [settingUp_setPort, failed]
    exact .abandoned _ ⟨nofun, nofun, nofun⟩
  | true =>
    exact .started total external data (sameShape_of_added port.portId _ _ added4 added6)

theorem routeInterface_result (unused : config.tables.vnfs.handle ulAddr6 = none)
    (unmapped : config.tables.ifaceIds request.ifaceId = none) :
    SetupResult outcomes config request ulAddr6 port
      (routeInterface outcomes
        (config.settingUp request ulAddr6 port (newIface request ulAddr6 port)
          (takenVni config.vnis request.vni))
        { request with ulAddr6 }
        { port with iface := newIface request ulAddr6 port }) := by
  have requested : Requested request (newIface request ulAddr6 port) := ⟨rfl, rfl, rfl⟩
  have grows : ∀ data grown : VniData,
      assign (config.settingUp request ulAddr6 port (newIface request ulAddr6 port) data).vnis
          request.vni (some grown) =
        (config.settingUp request ulAddr6 port (newIface request ulAddr6 port) grown).vnis := by
    intro data grown
    simp only [Config.settingUp, assign_assign]
  unfold routeInterface
  rcases @addOwnRoute_cases { request with ulAddr6 } (takenVni config.vnis request.vni)
      (config.settingUp request ulAddr6 port (newIface request ulAddr6 port)
        (takenVni config.vnis request.vni)).vnis
      outcomes.route4 { port with iface := newIface request ulAddr6 port }
      (assign_self ..) with
    ⟨error, late, failed⟩ | ⟨grown4, added4, added⟩
  · rw [failed]
    dsimp only
    rw [ifaceErr_settingUp unused unmapped requested rfl]
    exact .abandoned error late
  rw [added]
  dsimp only
  rw [grows]
  rcases @addOwnRoute6_cases { request with ulAddr6 } grown4
      (config.settingUp request ulAddr6 port (newIface request ulAddr6 port) grown4).vnis
      outcomes.route6 { port with iface := newIface request ulAddr6 port }
      (assign_self ..) with
    ⟨error, late, failed⟩ | ⟨grown6, added6, added⟩
  · have dropped :
        dropRoute6 port.portId request.ip6Addr
            (dropRoute4 port.portId request.ip4Addr
              (dropRoute4 port.portId request.ip4Addr grown4)) =
          dropRoute6 port.portId request.ip6Addr
            (dropRoute4 port.portId request.ip4Addr (takenVni config.vnis request.vni)) := by
      rcases added4 with added4 | added4
      · rw [added4]
      · rw [added4, dropRoute4_dropRoute4]
    have undone :=
      @routeErr_settingUp config request ulAddr6 port (newIface request ulAddr6 port) grown4
    rw [ifaceErr_settingUp unused unmapped requested dropped] at undone
    rw [failed]
    dsimp only
    exact undone ▸ .abandoned error late
  rw [added]
  dsimp only
  rw [grows]
  exact startInterface_result unused unmapped added4 added6

end Stages

inductive InterfaceFailure
    (outcomes : InterfaceOutcomes) (config : Config)
    (request : DpgrpcIface) : Config → GrpcErr → Prop
  | refused (error : GrpcErr)
      (unattempted : ifaceEndpoint outcomes config request = none) :
      InterfaceFailure outcomes config request config error
  | undone (ulAddr6 : Ipv6) (port : Port) (error : GrpcErr)
      (attempted : ifaceEndpoint outcomes config request = some (ulAddr6, ifaceVnf request port))
      (found : dpGetPortByName config.tables.ports request.pciName = some port)
      (early : error = .vnfInsert ∨ error = .vmHandle) :
      InterfaceFailure outcomes config request
        (config.setVnfs (forget config.tables.vnfs (ifaceVnf request port)))
        error
  | withoutVni (ulAddr6 : Ipv6) (port : Port)
      (attempted : ifaceEndpoint outcomes config request = some (ulAddr6, ifaceVnf request port))
      (found : dpGetPortByName config.tables.ports request.pciName = some port) :
      InterfaceFailure outcomes config request
        ((config.setVnfs (forget config.tables.vnfs (ifaceVnf request port))).setPort
          { port with iface := { port.iface with id := request.ifaceId } })
        .vniInit4
  | abandoned (ulAddr6 : Ipv6) (port : Port) (error : GrpcErr)
      (attempted : ifaceEndpoint outcomes config request = some (ulAddr6, ifaceVnf request port))
      (found : dpGetPortByName config.tables.ports request.pciName = some port)
      (late : LateIfaceError error) :
      InterfaceFailure outcomes config request (config.abandoned request port) error

structure InterfaceCreated
    (outcomes : InterfaceOutcomes) (config : Config) (request : DpgrpcIface)
    (ulAddr6 : Ipv6) (port : Port) (after : Config) : Prop where
  found : dpGetPortByName config.tables.ports request.pciName = some port
  idle : port.allocated = false
  unused : config.tables.vnfs.handle ulAddr6 = none
  unmapped : config.tables.ifaceIds request.ifaceId = none
  result : ∃ total external data, data.SameShape (takenVni config.vnis request.vni) ∧ after =
        (config.settingUp request ulAddr6 port (newIface request ulAddr6 port) data).setPort
          (startPort outcomes
            { port with
              iface := PortIface.metered (newIface request ulAddr6 port) total external })

section Endings

variable {outcomes : InterfaceOutcomes} {config : Config}
    {request : DpgrpcIface} {ulAddr6 : Ipv6} {port : Port}

def InterfaceEnding (outcomes : InterfaceOutcomes) (config : Config) (request : DpgrpcIface)
    (answer : Config × Except GrpcErr Unit) : Prop :=
  (∃ after error, answer = (after, .error error) ∧
    InterfaceFailure outcomes config request after error) ∨
  ∃ after ulAddr6 port, answer = (after, .ok ()) ∧
    ifaceEndpoint outcomes config request = some (ulAddr6, ifaceVnf request port) ∧
    InterfaceCreated outcomes config request ulAddr6 port after

variable (unused : config.tables.vnfs.handle ulAddr6 = none)
  (attempted : ifaceEndpoint outcomes config request = some (ulAddr6, ifaceVnf request port))
  (found : dpGetPortByName config.tables.ports request.pciName = some port)
  (idle : port.allocated = false)

include unused attempted found idle

theorem SetupResult.ending {answer : Config × Except GrpcErr Unit}
    (unmapped : config.tables.ifaceIds request.ifaceId = none)
    (result : SetupResult outcomes config request ulAddr6 port answer) :
    InterfaceEnding outcomes config request answer := by
  cases result with
  | abandoned error late =>
    exact Or.inl ⟨_, _, rfl, .abandoned ulAddr6 port error attempted found late⟩
  | started total external data shape =>
    exact
      Or.inr
        ⟨_, _, _, rfl, attempted, found, idle, unused, unmapped, total, external, data, shape, rfl⟩

theorem mapInterface_ending :
    InterfaceEnding outcomes config request
      (mapInterface outcomes
        (config.setVnfs (register config.tables.vnfs ulAddr6 (ifaceVnf request port)))
        { request with ulAddr6 } port) := by
  unfold mapInterface
  split
  · dsimp only
    rw [delVnf_register unused]
    exact Or.inl ⟨_, _, rfl, .undone ulAddr6 port _ attempted found (Or.inr rfl)⟩
  next free =>
  have unmapped : config.tables.ifaceIds request.ifaceId = none := by
    simp only [Bool.or_eq_true, not_or] at free
    exact Option.not_isSome_iff_eq_none.mp free.1
  unfold setupInterface
  cases created : dpCreateVniRouteTables outcomes.vniAllocated config.vnis request.vni with
  | mk vnis ready =>
    have sameVnis :
        dpCreateVniRouteTables outcomes.vniAllocated
            ((config.setVnfs
              (register config.tables.vnfs ulAddr6 (ifaceVnf request port))).mapIfaceId
              request.ifaceId (some port.portId)).vnis
            request.vni =
          (vnis, ready) := created
    rw [sameVnis]
    cases ready with
    | false =>
      rw [dpCreateVniRouteTables_failed created]
      have deleted := @dpDelVnf_register config.tables.vnfs ulAddr6 (ifaceVnf request port) unused
      refine Or.inl ⟨_, _, rfl, ?_⟩
      simp only [handleErr, Config.setPort, Config.mapIfaceId,
        Config.setVnfs, Config.delVnf, unregisterVnf, deleted, Function.update_idem]
      rw [← unmapped, Function.update_eq_self]
      exact .withoutVni ulAddr6 port attempted found
    | true =>
      rw [dpCreateVniRouteTables_ready created]
      exact
        SetupResult.ending unused attempted found idle unmapped
          (routeInterface_result unused unmapped)

end Endings

theorem dpProcessCreateInterface_ending
    (outcomes : InterfaceOutcomes) (config : Config) (request : DpgrpcIface) :
    InterfaceEnding outcomes config request (dpProcessCreateInterface outcomes config request) := by
  unfold dpProcessCreateInterface
  by_cases disabled : (request.encrypt && !config.tables.conf.ipsecEnabled) = true
  · rw [if_pos disabled]
    refine Or.inl ⟨config, _, rfl, .refused _ ?_⟩
    rw [ifaceEndpoint, if_pos disabled]
  rw [if_neg disabled]
  cases found : dpGetPortByName config.tables.ports request.pciName with
  | none =>
    refine Or.inl ⟨config, _, rfl, .refused _ ?_⟩
    rw [ifaceEndpoint, if_neg disabled, found, Option.bind_none]
  | some port => ?_
  dsimp only
  cases idle : port.allocated with
  | true =>
    refine Or.inl ⟨config, _, rfl, .refused _ ?_⟩
    rw [ifaceEndpoint, if_neg disabled, found, Option.bind_some, idle, if_pos rfl]
  | false => ?_
  have endpoint : ifaceEndpoint outcomes config request =
        attempt outcomes.vnf outcomes.generated config.tables
          request.ulAddr6 (ifaceVnf request port) := by
    rw [ifaceEndpoint, if_neg disabled, found, Option.bind_some, idle, if_neg nofun]
  simp only [Bool.false_eq_true, if_false]
  rcases dpCreateVnfRoute_cases outcomes.vnf outcomes.generated
      config.tables request.ulAddr6 (ifaceVnf request port) with
    ⟨unattempted, _, route⟩ | ⟨ulAddr6, attempted, unused, route | route⟩
  · rw [route]
    exact Or.inl ⟨config, _, rfl, .refused _ (endpoint.trans unattempted)⟩
  · rw [route]
    exact
      Or.inl ⟨_, _, rfl, .undone ulAddr6 port _ (endpoint.trans attempted) found (Or.inl rfl)⟩
  · rw [route]
    exact mapInterface_ending unused (endpoint.trans attempted) found idle

end DpService.Control

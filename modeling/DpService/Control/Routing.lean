import DpService.Dataplane.NatRequests

/-!
# Routing tables and VNIs

The table of VNIs with the routing tables of each.  A VNI is kept as long as
an interface or a load balancer refers to it, and when it is freed it takes
the neighbour NAT and DNAT entries of its number with it.
-/

namespace DpService.Control

open Foundations Packet Dataplane Flow

/-! ## Tables -/

/-- A node of an `rte_rib`: the port of the next hop and, if that is a PF, the
`struct dp_iface_route` behind it. -/
structure Route where
  nextHop : PortId
  ext : Option (Vni × Ipv6)
  deriving DecidableEq, Repr

abbrev Rib (Address : Type) := Address → UInt8 → Option Route

def Rib.empty {Address : Type} : Rib Address :=
  fun _ _ => none

/-- `struct dp_vni_data`.  A table is missing after a reset that failed. -/
structure VniData where
  ipv4 : Option (Rib Ipv4)
  ipv6 : Option (Rib Ipv6)
  refCount : Nat
  referenced : 0 < refCount

abbrev VniTable := Vni → Option VniData

/-- What the functions for IPv4 and IPv6 routes differ in. -/
structure RouteFamily (Address : Type) where
  maxDepth : Nat
  mask : Address → UInt8 → Address
  table : VniData → Option (Rib Address)
  setTable : VniData → Rib Address → VniData
  table_setTable : ∀ data rib, table (setTable data rib) = some rib
  setTable_setTable : ∀ data old new, setTable (setTable data old) new = setTable data new
  setTable_table : ∀ data rib, table data = some rib → setTable data rib = data
  refCount_setTable : ∀ data rib, (setTable data rib).refCount = data.refCount

def ipv4Routes : RouteFamily Ipv4 where
  maxDepth := 32
  mask := fun address depth =>
    (address.toNat / 2 ^ (32 - depth.toNat) * 2 ^ (32 - depth.toNat)).toUInt32
  table := VniData.ipv4
  setTable := fun data rib => { data with ipv4 := some rib }
  table_setTable := fun _ _ => rfl
  setTable_setTable := fun _ _ _ => rfl
  setTable_table := by
    rintro ⟨ipv4, ipv6, refCount, referenced⟩ rib held
    rw [← held]
  refCount_setTable := fun _ _ => rfl

def ipv6Routes : RouteFamily Ipv6 where
  maxDepth := 128
  mask := fun address depth =>
    let bits := address.pfx.toNat * 2 ^ 64 + address.sfx.toNat
    let masked := bits / 2 ^ (128 - depth.toNat) * 2 ^ (128 - depth.toNat)
    ⟨(masked / 2 ^ 64).toUInt64, masked.toUInt64⟩
  table := VniData.ipv6
  setTable := fun data rib => { data with ipv6 := some rib }
  table_setTable := fun _ _ => rfl
  setTable_setTable := fun _ _ _ => rfl
  setTable_table := by
    rintro ⟨ipv4, ipv6, refCount, referenced⟩ rib held
    rw [← held]
  refCount_setTable := fun _ _ => rfl

/-! ## Routes -/

section Family

variable {Address : Type} [DecidableEq Address] (family : RouteFamily Address)

def lookupExact (rib : Rib Address) (address : Address) (depth : UInt8) : Option Route :=
  if depth.toNat ≤ family.maxDepth then rib (family.mask address depth) depth
  else none

def setRoute (rib : Rib Address) (address : Address) (depth : UInt8)
    (route : Option Route) : Rib Address :=
  fun other otherDepth =>
    if other = family.mask address depth ∧ otherDepth = depth then route
    else rib other otherDepth

/-- `inserted` tells whether `rte_rib_insert` finds room. -/
def addRoute (inserted : Bool) (port : Port) (tVni : Vni) (address : Address)
    (tIp6 : Ipv6) (depth : UInt8) (rib : Rib Address) :
    Except GrpcErr (Rib Address) :=
  if (lookupExact family rib address depth).isSome then .error .routeExists
  else if inserted && decide (depth.toNat ≤ family.maxDepth) then
    .ok
      (setRoute family rib address depth
        (some ⟨port.portId, if port.isPf then some (tVni, tIp6) else none⟩))
  else .error .routeInsert

def delRoute (port : Port) (address : Address) (depth : UInt8) (rib : Rib Address) :
    Except GrpcErr (Rib Address) :=
  match lookupExact family rib address depth with
  | none => .error .routeNotFound
  | some route =>
    if route.nextHop ≠ port.portId then .error .routeBadPort
    else .ok (setRoute family rib address depth none)

def changeRoutes (change : Rib Address → Except GrpcErr (Rib Address)) (vnis : VniTable)
    (vni : Vni) : VniTable × Option GrpcErr :=
  match vnis vni with
  | none => (vnis, some .noVni)
  | some data =>
    match family.table data with
    | none => (vnis, some .noVni)
    | some rib =>
      match change rib with
      | .error error => (vnis, some error)
      | .ok rib => (assign vnis vni (some (family.setTable data rib)), none)

omit [DecidableEq Address] in
theorem changeRoutes_cases (change : Rib Address → Except GrpcErr (Rib Address)) (vnis : VniTable)
    (vni : Vni) :
    (∃ error, changeRoutes family change vnis vni = (vnis, some error)) ∨
    ∃ data rib changed, vnis vni = some data ∧ family.table data = some rib ∧
        change rib = .ok changed ∧
        changeRoutes family change vnis vni =
          (assign vnis vni (some (family.setTable data changed)), none) := by
  unfold changeRoutes
  cases vnis vni with
  | none => exact Or.inl ⟨_, rfl⟩
  | some data => ?_
  dsimp only
  cases held : family.table data with
  | none => exact Or.inl ⟨_, rfl⟩
  | some rib => ?_
  dsimp only
  cases made : change rib with
  | error error => exact Or.inl ⟨_, rfl⟩
  | ok changed => exact Or.inr ⟨data, rib, changed, rfl, held, made, rfl⟩

theorem setRoute_setRoute (rib : Rib Address) (address : Address) (depth : UInt8)
    (old new : Option Route) :
    setRoute family (setRoute family rib address depth old) address depth new =
      setRoute family rib address depth new := by
  funext other otherDepth
  unfold setRoute
  split
  · rfl
  · rfl

theorem setRoute_eq_self_iff {rib : Rib Address} {address : Address} {depth : UInt8}
    {route : Option Route} :
    setRoute family rib address depth route = rib ↔
      rib (family.mask address depth) depth = route := by
  constructor
  · intro same
    rw [← same]
    exact if_pos ⟨rfl, rfl⟩
  intro held
  funext other otherDepth
  unfold setRoute
  split
  · next here => rw [here.1, here.2, held]
  · rfl

theorem addRoute_ok {inserted : Bool} {port : Port} {tVni : Vni} {address : Address}
    {tIp6 : Ipv6} {depth : UInt8} {rib changed : Rib Address}
    (added : addRoute family inserted port tVni address tIp6 depth rib = .ok changed) :
    depth.toNat ≤ family.maxDepth ∧ rib (family.mask address depth) depth = none ∧ ∃ ext, changed =
          setRoute family rib address depth (some ⟨port.portId, ext⟩) := by
  unfold addRoute at added
  split at added
  · cases added
  next free =>
  split at added
  · next fits =>
    simp only [Bool.and_eq_true, decide_eq_true_eq] at fits
    rw [lookupExact, if_pos fits.2, Option.not_isSome_iff_eq_none] at free
    exact ⟨fits.2, free, _, (Except.ok.inj added).symm⟩
  cases added

theorem delRoute_addRoute {inserted : Bool} {port : Port} {tVni : Vni} {address : Address}
    {tIp6 : Ipv6} {depth : UInt8} {rib changed : Rib Address}
    (added : addRoute family inserted port tVni address tIp6 depth rib = .ok changed) :
    delRoute family port address depth changed = .ok rib := by
  obtain ⟨fits, free, ext, rfl⟩ := addRoute_ok family added
  have found :
      lookupExact family (setRoute family rib address depth (some ⟨port.portId, ext⟩))
          address depth =
        some ⟨port.portId, ext⟩ := by
    rw [lookupExact, if_pos fits]
    exact if_pos ⟨rfl, rfl⟩
  unfold delRoute
  rw [found]
  dsimp only
  rw [if_neg (not_not_intro rfl), setRoute_setRoute, (setRoute_eq_self_iff family).mpr free]

theorem changeRoutes_undone {inserted : Bool} {port : Port} {tVni vni : Vni} {address : Address}
    {tIp6 : Ipv6} {depth : UInt8} {vnis changed : VniTable}
    (added : changeRoutes family (addRoute family inserted port tVni address tIp6 depth) vnis vni =
        (changed, none)) :
    changeRoutes family (delRoute family port address depth) changed vni = (vnis, none) := by
  rcases changeRoutes_cases family
      (addRoute family inserted port tVni address tIp6 depth) vnis vni with
    ⟨error, failed⟩ | ⟨data, rib, grown, held, table, made, result⟩
  · rw [failed] at added
    cases added
  rw [result] at added
  obtain rfl := (Prod.mk.inj added).1
  unfold changeRoutes
  rw [assign_self]
  dsimp only
  rw [family.table_setTable]
  dsimp only
  rw [delRoute_addRoute family made]
  dsimp only
  rw [assign_assign, family.setTable_setTable,
    family.setTable_table data rib table, assign_eq_self_iff.mpr held]

end Family

def dpAddRoute (inserted : Bool) (vnis : VniTable) (port : Port) (vni tVni : Vni)
    (ip : Ipv4) (tIp6 : Ipv6) (depth : UInt8) : VniTable × Option GrpcErr :=
  changeRoutes ipv4Routes (addRoute ipv4Routes inserted port tVni ip tIp6 depth) vnis vni

def dpAddRoute6 (inserted : Bool) (vnis : VniTable) (port : Port) (vni tVni : Vni)
    (ipv6 : Ipv6) (tIp6 : Ipv6) (depth : UInt8) : VniTable × Option GrpcErr :=
  changeRoutes ipv6Routes (addRoute ipv6Routes inserted port tVni ipv6 tIp6 depth) vnis vni

def dpDelRoute (vnis : VniTable) (port : Port) (vni : Vni) (ip : Ipv4) (depth : UInt8) :
    VniTable × Option GrpcErr :=
  changeRoutes ipv4Routes (delRoute ipv4Routes port ip depth) vnis vni

def dpDelRoute6 (vnis : VniTable) (port : Port) (vni : Vni) (ipv6 : Ipv6)
    (depth : UInt8) : VniTable × Option GrpcErr :=
  changeRoutes ipv6Routes (delRoute ipv6Routes port ipv6 depth) vnis vni

def dpGrpcAddRoute (inserted : Bool) (vnis : VniTable) (port : Port) (vni tVni : Vni)
    (addr : IpAddress) (tIp6 : Ipv6) (depth : UInt8) :
    VniTable × Option GrpcErr :=
  match addr with
  | .v4 ip => dpAddRoute inserted vnis port vni tVni ip tIp6 depth
  | .v6 ipv6 => dpAddRoute6 inserted vnis port vni tVni ipv6 tIp6 depth

def dpGrpcDelRoute (vnis : VniTable) (port : Port) (vni : Vni) (addr : IpAddress)
    (depth : UInt8) : VniTable × Option GrpcErr :=
  match addr with
  | .v4 ip => dpDelRoute vnis port vni ip depth
  | .v6 ipv6 => dpDelRoute6 vnis port vni ipv6 depth

theorem dpGrpcAddRoute_failed {inserted : Bool} {vnis changed : VniTable} {port : Port}
    {vni tVni : Vni} {addr : IpAddress} {tIp6 : Ipv6} {depth : UInt8}
    {error : GrpcErr}
    (failed : dpGrpcAddRoute inserted vnis port vni tVni addr tIp6 depth = (changed, some error)) :
    changed = vnis := by
  cases addr with
  | v4 ip =>
    rcases changeRoutes_cases ipv4Routes
        (addRoute ipv4Routes inserted port tVni ip tIp6 depth) vnis vni with
      ⟨_, result⟩ | ⟨_, _, _, _, _, _, result⟩
    · exact ((Prod.mk.inj (result.symm.trans failed)).1).symm
    · cases (Prod.mk.inj (result.symm.trans failed)).2
  | v6 ipv6 => ?_
  rcases changeRoutes_cases ipv6Routes
      (addRoute ipv6Routes inserted port tVni ipv6 tIp6 depth) vnis
      vni with
    ⟨_, result⟩ | ⟨_, _, _, _, _, _, result⟩
  · exact ((Prod.mk.inj (result.symm.trans failed)).1).symm
  · cases (Prod.mk.inj (result.symm.trans failed)).2

theorem dpGrpcDelRoute_added {inserted : Bool} {vnis changed : VniTable} {port : Port}
    {vni tVni : Vni} {addr : IpAddress} {tIp6 : Ipv6} {depth : UInt8}
    (added : dpGrpcAddRoute inserted vnis port vni tVni addr tIp6 depth = (changed, none)) :
    dpGrpcDelRoute changed port vni addr depth = (vnis, none) := by
  cases addr with
  | v4 ip => exact changeRoutes_undone ipv4Routes added
  | v6 ipv6 => exact changeRoutes_undone ipv6Routes added

/-! ## VNIs -/

def VniData.fresh : VniData where
  ipv4 := some Rib.empty
  ipv6 := some Rib.empty
  refCount := 1
  referenced := Nat.one_pos

def VniData.incRef (data : VniData) : VniData :=
  { data with
    refCount := data.refCount + 1
    referenced := Nat.succ_pos _ }

/-- `none` when the last reference is given up. -/
def VniData.decRef (data : VniData) : Option VniData :=
  if more : 1 < data.refCount then
    some
      { data with
        refCount := data.refCount - 1
        referenced := Nat.sub_pos_of_lt more }
  else none

/-- `allocated` tells whether a new VNI can be set up. -/
def dpCreateVniRouteTables (allocated : Bool) (vnis : VniTable) (vni : Vni) : VniTable × Bool :=
  match vnis vni with
  | some data => (assign vnis vni (some data.incRef), true)
  | none =>
    if allocated then (assign vnis vni (some VniData.fresh), true)
    else (vnis, false)

def dpNetworkNatAllVni : Vni := 0

/-- The DNAT entries are chosen by the number alone, also for the one that
stands for every VNI. -/
def dpDelAllNeighNatEntriesInVni (network : Network) (vni : Vni) : Network :=
  { network with
    neighnat :=
      network.neighnat.filter fun entry => !(entry.vni == vni || vni == dpNetworkNatAllVni)
    dnat := fun ip other =>
      if other = vni then none else network.dnat ip other }

structure VniState where
  vnis : VniTable
  network : Network

def dpDeleteVniRouteTables (state : VniState) (vni : Vni) : VniState × Bool :=
  match state.vnis vni with
  | none => (state, false)
  | some data =>
    match data.decRef with
    | some data => ({ state with vnis := assign state.vnis vni (some data) }, true)
    | none =>
      ({ vnis := assign state.vnis vni none
         network := dpDelAllNeighNatEntriesInVni state.network vni },
        true)

inductive VniReset where
  | kept
  | complete
  | withoutIpv4
  | withoutIpv6
  deriving DecidableEq, Repr

def VniData.reset (data : VniData) : VniReset → VniData
  | .kept => data
  | .complete =>
    { data with
      ipv4 := data.ipv4.map fun _ => Rib.empty
      ipv6 := data.ipv6.map fun _ => Rib.empty }
  | .withoutIpv4 => { data with ipv4 := none }
  | .withoutIpv6 => { data with ipv4 := data.ipv4.map fun _ => Rib.empty, ipv6 := none }

/-- How `dp_reset_all_vni_route_tables` ends: a table that cannot be created
stops it after some of the VNIs. -/
inductive ResetOutcome where
  | complete
  | stopped (touched : Vni → VniReset)

def dpResetAllVniRouteTables (outcome : ResetOutcome) (vnis : VniTable) : VniTable × Bool :=
  match outcome with
  | .complete => (fun vni => (vnis vni).map fun data => data.reset .complete, true)
  | .stopped touched => (fun vni => (vnis vni).map fun data => data.reset (touched vni), false)

def dpResetVniRouteTables (reset : VniReset) (vnis : VniTable) (vni : Vni) : VniTable × Bool :=
  match vnis vni with
  | none => (vnis, true)
  | some data => (assign vnis vni (some (data.reset reset)), reset == .complete)

structure FillOutcomes where
  route4 : PortId → Bool
  route6 : PortId → Bool

/-- The routes of an interface, also for an address that it does not have. -/
def dpLpmFillRouteTables (outcomes : FillOutcomes) (vnis : VniTable) (port : Port) :
    VniTable × Option GrpcErr :=
  match
    dpAddRoute (outcomes.route4 port.portId) vnis port port.iface.vni 0
      port.iface.ownIp Ipv6.zero 32 with
  | (vnis, some error) => (vnis, some error)
  | (vnis, none) =>
    dpAddRoute6 (outcomes.route6 port.portId) vnis port port.iface.vni 0
      port.iface.ownIpv6 Ipv6.zero 128

/-- The loops over the ports that are in use, up to the first error. -/
def fillPorts (outcomes : FillOutcomes) (vnis : VniTable) : List Port → VniTable × Option GrpcErr
  | [] => (vnis, none)
  | port :: rest =>
    match dpLpmFillRouteTables outcomes vnis port with
    | (vnis, some error) => (vnis, some error)
    | (vnis, none) => fillPorts outcomes vnis rest

def readyPorts (ports : PortTable) : List Port :=
  (List.range dpMaxPorts).filterMap fun id =>
    (ports.entry id.toUInt16).filter fun port => port.iface.ready

def dpLpmResetAllRouteTables (outcome : ResetOutcome) (fill : FillOutcomes) (vnis : VniTable)
    (ports : PortTable) : VniTable × Option GrpcErr :=
  match dpResetAllVniRouteTables outcome vnis with
  | (vnis, false) => (vnis, some .routeReset)
  | (vnis, true) => fillPorts fill vnis (readyPorts ports)

end DpService.Control

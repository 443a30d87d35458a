import DpService.Control.Atomicity
import DpService.Control.Views
import Mathlib.Data.Set.Card

/-!
# References to VNIs

A VNI is kept for the interfaces and load balancers in it, and its reference
count is their number.  With the last of them its data goes, and what goes
with it is chosen by a number that can stand for every VNI.
-/

namespace DpService.Control

open Foundations Packet Flow
open Dataplane

/-! ## Teardown -/

/-- The entries and routes of other VNIs, and all flows, are as before. -/
structure Local (config after : Config) (vni : Vni) : Prop where
  neighnat : after.network.neighnat.filter (fun entry => entry.vni ≠ vni) =
      config.network.neighnat.filter fun entry => entry.vni ≠ vni
  dnat : ∀ ip other, other ≠ vni → after.network.dnat ip other = config.network.dnat ip other
  routes : ∀ other, other ≠ vni → after.vnis other = config.vnis other
  flows : after.flows = config.flows

theorem filter_purged_iff (network : Network) (vni : Vni) :
    (dpDelAllNeighNatEntriesInVni network vni).neighnat.filter (fun entry => entry.vni ≠ vni) =
        network.neighnat.filter (fun entry => entry.vni ≠ vni) ↔
      (vni = dpNetworkNatAllVni → ∀ entry ∈ network.neighnat, entry.vni = vni) := by
  rw [dpDelAllNeighNatEntriesInVni, List.filter_filter]
  constructor
  · intro same all entry member
    by_contra foreign
    have kept : entry ∈ network.neighnat.filter fun entry => entry.vni ≠ vni :=
      List.mem_filter.mpr ⟨member, decide_eq_true foreign⟩
    rw [← same, List.mem_filter] at kept
    simp [all] at kept
  intro own
  apply List.filter_congr
  intro entry member
  by_cases all : vni = dpNetworkNatAllVni
  · simp [own all entry member]
  · simp [all]

/-- When a VNI loses a reference, other VNIs keep all they have exactly if it
was not the last one of the VNI that stands for all of them, or if there are
no entries of others. -/
theorem release_local_iff (config : Config) (vni : Vni) :
    Local config (config.setVnis (dpDeleteVniRouteTables config.vniState vni).1) vni ↔
      (refsOf config.vnis vni = 1 → vni = dpNetworkNatAllVni →
        ∀ entry ∈ config.network.neighnat, entry.vni = vni) := by
  obtain ⟨-, network⟩ := dpDeleteVniRouteTables_refs config.vniState vni
  have routes : ∀ other, other ≠ vni →
      (dpDeleteVniRouteTables config.vniState vni).1.vnis other = config.vnis other := by
    intro other foreign
    unfold dpDeleteVniRouteTables
    cases config.vniState.vnis vni with
    | none => rfl
    | some data => ?_
    dsimp only
    cases data.decRef with
    | none => exact assign_of_ne _ _ foreign
    | some left => exact assign_of_ne _ _ foreign
  change (dpDeleteVniRouteTables config.vniState vni).1.network =
    if refsOf config.vnis vni = 1 then dpDelAllNeighNatEntriesInVni config.network vni
    else config.network at network
  by_cases last : refsOf config.vnis vni = 1
  · rw [if_pos last] at network
    constructor
    · intro isLocal _
      apply (filter_purged_iff config.network vni).mp
      rw [← network]
      exact isLocal.neighnat
    intro own
    refine ⟨?_, ?_, routes, rfl⟩
    · simp only [Config.setVnis]
      rw [network]
      exact (filter_purged_iff config.network vni).mpr (own last)
    intro ip other foreign
    simp only [Config.setVnis]
    rw [network]
    exact if_neg foreign
  rw [if_neg last] at network
  refine iff_of_true ⟨?_, ?_, routes, rfl⟩ fun isLast => absurd isLast last
  · simp only [Config.setVnis]
    rw [network]
  · intro ip other _
    simp only [Config.setVnis]
    rw [network]

section TeardownExamples

open Graph Nodes

def zeroBalancer : List ConfigRequest :=
  [.createLb
      { generated := Ipv6.zero, vnf := ⟨true, true⟩, lb := ⟨true, true⟩, vniAllocated := true }
      { lbId := "lb", vni := 0, addr := .v4 0x0a000064, lbports := [⟨53, ipprotoUdp⟩]
        ulAddr6 := { guestUnderlay with sfx := 9 } },
    .deleteLb "lb"]

/-- The range of a neighbour in another VNI is gone afterwards. -/
theorem zeroBalancer_purges : neighbourNat.network.neighnat.map NatEntry.vni = [100] ∧
      ((configMachine mellanoxStart).runFrom neighbourNat zeroBalancer).network.neighnat = [] := by
  decide +kernel

end TeardownExamples

/-! ## Counting -/

def View.interfacesIn (view : View) (vni : Vni) : Set PortId :=
  { id | ∃ info, view.ifaces id = some info ∧ info.vni = vni }

def View.balancersIn (view : View) (vni : Vni) : Set LbKey :=
  { key | key.vni = vni ∧ ∃ value, view.lbs.lookup key = some (.value value) }

noncomputable def View.users (view : View) (vni : Vni) : Nat :=
  (view.interfacesIn vni).ncard + (view.balancersIn vni).ncard

/-- Every VNI is referred to by those that are in it. -/
def View.Counted (view : View) : Prop :=
  ∀ vni, view.refs vni = view.users vni

section Counting

variable {view after : View} {vni : Vni} {id : PortId} {info : IfaceInfo}

instance : Finite PortId :=
  Finite.of_injective UInt16.toFin fun _ _ => UInt16.toFin_inj.mp

theorem View.balancersIn_finite (view : View) (vni : Vni) : (view.balancersIn vni).Finite := by
  apply (view.lbs.keys.toFinset.finite_toSet).subset
  rintro key ⟨-, value, found⟩
  have present : (view.lbs.lookup key).isSome = true := by
    rw [found]
    rfl
  exact List.mem_toFinset.mpr (AList.mem_keys.mp (AList.lookup_isSome.mp present))

/-- A set that one element has come to, if it is about the right VNI. -/
theorem ncard_of_added {Element : Type} {before grown : Set Element} {here : Prop}
    [Decidable here] (element : Element) (finite : before.Finite) (new : element ∉ before)
    (same : ∀ other, other ∈ grown ↔ other ∈ before ∨ here ∧ other = element) :
    grown.ncard = before.ncard + if here then 1 else 0 := by
  by_cases there : here
  · have added : grown = insert element before := by
      ext other
      simp [same, there, or_comm]
    rw [added, Set.ncard_insert_of_notMem new finite, if_pos there]
  have kept : grown = before := by
    ext other
    simp [same, there]
  rw [kept, if_neg there, Nat.add_zero]

theorem ncard_interfacesIn_of_added (absent : view.ifaces id = none)
    (ifaces : after.ifaces = assign view.ifaces id (some info)) (vni : Vni) :
    (after.interfacesIn vni).ncard =
      (view.interfacesIn vni).ncard + if info.vni = vni then 1 else 0 := by
  apply ncard_of_added id (Set.toFinite _)
  · rintro ⟨other, found, -⟩
    rw [absent] at found
    cases found
  intro other
  simp only [View.interfacesIn, Set.mem_setOf_eq, ifaces]
  by_cases here : other = id
  · simp [here, absent, assign_self]
  · simp [here, assign_of_ne]

theorem ncard_balancersIn_of_added {key : LbKey} {value : LbValue}
    (absent : view.lbs.lookup key = none)
    (lookup : ∀ other,
      after.lbs.lookup other = if other = key then some (.value value) else view.lbs.lookup other)
    (vni : Vni) :
    (after.balancersIn vni).ncard =
      (view.balancersIn vni).ncard + if key.vni = vni then 1 else 0 := by
  apply ncard_of_added key (view.balancersIn_finite vni)
  · rintro ⟨-, other, found⟩
    rw [absent] at found
    cases found
  intro other
  simp only [View.balancersIn, Set.mem_setOf_eq, lookup]
  by_cases here : other = key
  · subst here
    simp [absent]
  · simp [here]

theorem View.Counted.added {place : Vni} (counted : view.Counted)
    (refs : after.refs = assign view.refs place (view.refs place + 1))
    (users : ∀ vni, after.users vni = view.users vni + if place = vni then 1 else 0) :
    after.Counted := by
  intro vni
  rw [refs, users]
  by_cases here : vni = place
  · rw [here, assign_self, if_pos rfl, counted]
  · rw [assign_of_ne _ _ here, if_neg (Ne.symm here), counted, Nat.add_zero]

theorem View.Counted.removed {place : Vni} (counted : view.Counted)
    (refs : after.refs = assign view.refs place (view.refs place - 1))
    (users : ∀ vni, view.users vni = after.users vni + if place = vni then 1 else 0) :
    after.Counted := by
  intro vni
  have before := counted vni
  rw [users] at before
  rw [refs]
  by_cases here : vni = place
  · rw [if_pos here.symm] at before
    rw [← here, assign_self, before, Nat.add_sub_cancel]
  · rw [if_neg (Ne.symm here), Nat.add_zero] at before
    rw [assign_of_ne _ _ here, before]

theorem View.Counted.congr (counted : view.Counted) (ifaces : after.ifaces = view.ifaces)
    (balancers : ∀ vni, after.balancersIn vni = view.balancersIn vni)
    (refs : after.refs = view.refs) : after.Counted := by
  intro vni
  rw [refs, View.users, balancers, View.interfacesIn, ifaces]
  exact counted vni

theorem View.Counted.addInterface (counted : view.Counted) (absent : view.ifaces id = none)
    (ifaces : after.ifaces = assign view.ifaces id (some info)) (lbs : after.lbs = view.lbs)
    (refs : after.refs = assign view.refs info.vni (view.refs info.vni + 1)) :
    after.Counted := by
  refine counted.added refs fun vni => ?_
  rw [View.users, ncard_interfacesIn_of_added absent ifaces, View.balancersIn, lbs,
    Nat.add_right_comm]
  rfl

theorem View.Counted.removeInterface (counted : view.Counted) (held : view.ifaces id = some info)
    (ifaces : after.ifaces = assign view.ifaces id none) (lbs : after.lbs = view.lbs)
    (refs : after.refs = assign view.refs info.vni (view.refs info.vni - 1)) :
    after.Counted := by
  have back : view.ifaces = assign after.ifaces id (some info) := by
    rw [ifaces, assign_assign, assign_eq_self_iff.mpr held]
  have absent : after.ifaces id = none := by
    rw [ifaces, assign_self]
  refine counted.removed refs fun vni => ?_
  rw [View.users, ncard_interfacesIn_of_added absent back, View.balancersIn, ← lbs,
    Nat.add_right_comm]
  rfl

theorem View.Counted.addBalancer {key : LbKey} {value : LbValue} (counted : view.Counted)
    (absent : view.lbs.lookup key = none) (lbs : after.lbs = view.lbs.insert key (.value value))
    (ifaces : after.ifaces = view.ifaces)
    (refs : after.refs = assign view.refs key.vni (view.refs key.vni + 1)) :
    after.Counted := by
  refine counted.added refs fun vni => ?_
  rw [View.users, View.interfacesIn, ifaces,
    ncard_balancersIn_of_added absent (lbs ▸ FiniteTable.lookup_insert_eq _ key · _) vni,
    ← Nat.add_assoc]
  rfl

theorem View.Counted.removeBalancer {key : LbKey} {value : LbValue} (counted : view.Counted)
    (held : view.lbs.lookup key = some (.value value)) (lbs : after.lbs = view.lbs.erase key)
    (ifaces : after.ifaces = view.ifaces)
    (refs : after.refs = assign view.refs key.vni (view.refs key.vni - 1)) :
    after.Counted := by
  have back : ∀ other, view.lbs.lookup other =
        if other = key then some (.value value) else after.lbs.lookup other := by
    intro other
    rw [lbs, FiniteTable.lookup_erase_eq]
    by_cases here : other = key
    · rw [if_pos here, here, held]
    · rw [if_neg here, if_neg here]
  have absent : after.lbs.lookup key = none := by
    rw [lbs]
    exact AList.lookup_erase ..
  refine counted.removed refs fun vni => ?_
  rw [View.users, View.interfacesIn, ← ifaces, ncard_balancersIn_of_added absent back vni,
    ← Nat.add_assoc]
  rfl

theorem balancersIn_insert_freed {key : LbKey} (absent : view.lbs.lookup key = none)
    (lbs : after.lbs = view.lbs.insert key .freed) (vni : Vni) :
    after.balancersIn vni = view.balancersIn vni := by
  ext other
  simp only [View.balancersIn, Set.mem_setOf_eq, lbs, FiniteTable.lookup_insert_eq]
  by_cases here : other = key
  · subst here
    simp [absent]
  · simp [here]

end Counting

/-! ## Orderly configurations stay so -/

section Orderly

variable {config after : Config} {port : Port}

theorem Config.Orderly.congr (orderly : config.Orderly)
    (ifaceIds : after.tables.ifaceIds = config.tables.ifaceIds)
    (ports : after.tables.ports = config.tables.ports) :
    after.Orderly := by
  have ifaces : after.view.ifaces = config.view.ifaces := congrArg ifacesOf ports
  refine ⟨?_, ports ▸ orderly.allocated⟩
  rw [ifaceIds, ifaces]
  exact orderly.mapped

theorem Config.Orderly.of_unready {changed : Port} (orderly : config.Orderly)
    (ports : after.tables.ports = config.tables.ports.update changed)
    (held : config.tables.ports.entry port.portId = some port) (unready : port.iface.ready = false)
    (samePort : changed.portId = port.portId) (still : changed.iface.ready = false)
    (ifaceIds : after.tables.ifaceIds = config.tables.ifaceIds) :
    after.Orderly := by
  have shown : Port.shown changed = Port.shown port := by
    rw [Port.shown, Port.shown, unready, still]
    rfl
  have ifaces : after.view.ifaces = config.view.ifaces :=
    (congrArg ifacesOf ports).trans (ifacesOf_update_same held samePort shown)
  constructor
  · rw [ifaceIds, ifaces]
    exact orderly.mapped
  rw [ports]
  exact
    @PortTable.update_forall _ _ (fun _ port => port.iface.ready = true → port.allocated = true)
      (fun ready => absurd ready (by rw [still]; exact Bool.false_ne_true)) orderly.allocated

theorem Config.Orderly.of_added {info : IfaceInfo} (orderly : config.Orderly)
    (ports : after.tables.ports = config.tables.ports.update port)
    (unmapped : config.tables.ifaceIds info.id = none)
    (absent : config.view.ifaces port.portId = none) (inUse : port.allocated = true)
    (shown : Port.shown port = some info)
    (ifaceIds :
      after.tables.ifaceIds = Function.update config.tables.ifaceIds info.id (some port.portId)) :
    after.Orderly := by
  have ifaces : after.view.ifaces = assign config.view.ifaces port.portId (some info) := by
    rw [← shown]
    exact (congrArg ifacesOf ports).trans (ifacesOf_update ..)
  constructor
  · intro ifaceId id
    have mapped := orderly.mapped ifaceId id
    rw [ifaceIds, ifaces, assign_eq_update]
    grind [Function.update_apply]
  rw [ports]
  exact
    @PortTable.update_forall _ _ (fun _ port => port.iface.ready = true → port.allocated = true)
      (fun _ => inUse) orderly.allocated

theorem Config.Orderly.of_removed {changed : Port} (orderly : config.Orderly)
    {ifaceId : IfaceId} (shown : config.view.ifaces changed.portId = some (Port.info port))
    (named : port.iface.id = ifaceId) (gone : changed.iface.ready = false)
    (ifaceIds : after.tables.ifaceIds = Function.update config.tables.ifaceIds ifaceId none)
    (ports : after.tables.ports = config.tables.ports.update changed) :
    after.Orderly := by
  have hidden : Port.shown changed = none := by
    rw [Port.shown, gone]
    rfl
  have ifaces : after.view.ifaces = assign config.view.ifaces changed.portId none := by
    rw [← hidden]
    exact (congrArg ifacesOf ports).trans (ifacesOf_update ..)
  have id : (Port.info port).id = ifaceId := named
  constructor
  · intro other place
    have mapped := orderly.mapped other place
    have own := orderly.mapped ifaceId changed.portId
    rw [ifaceIds, ifaces, assign_eq_update]
    grind [Function.update_apply]
  rw [ports]
  exact
    @PortTable.update_forall _ _ (fun _ port => port.iface.ready = true → port.allocated = true)
      (fun ready => absurd ready (by rw [gone]; exact Bool.false_ne_true)) orderly.allocated

end Orderly

/-! ## The tables of a VNI -/

def VniData.Whole (data : VniData) : Prop :=
  data.ipv4.isSome = true ∧ data.ipv6.isSome = true

def Tabled (vnis : VniTable) : Prop :=
  ∀ vni data, vnis vni = some data → data.Whole

section Tables

variable {vnis : VniTable} {vni : Vni} {data : VniData}

theorem Tabled.assign (tabled : Tabled vnis) {entry : Option VniData}
    (whole : ∀ data, entry = some data → data.Whole) :
    Tabled (assign vnis vni entry) := by
  intro other data held
  by_cases here : other = vni
  · rw [here, assign_self] at held
    exact whole data held
  · rw [assign_of_ne _ _ here] at held
    exact tabled other data held

theorem VniData.SameShape.whole {other : VniData} (shape : data.SameShape other)
    (whole : other.Whole) : data.Whole :=
  ⟨shape.ipv4.trans whole.1, shape.ipv6.trans whole.2⟩

theorem Tabled.takenVni (tabled : Tabled vnis) (vni : Vni) : (takenVni vnis vni).Whole := by
  unfold Control.takenVni
  cases held : vnis vni with
  | none => exact ⟨rfl, rfl⟩
  | some data => exact tabled vni data held

theorem Tabled.release {state : VniState} (tabled : Tabled state.vnis) (vni : Vni) :
    Tabled (dpDeleteVniRouteTables state vni).1.vnis := by
  unfold dpDeleteVniRouteTables
  cases held : state.vnis vni with
  | none => exact tabled
  | some data => ?_
  dsimp only
  have whole := tabled vni data held
  unfold VniData.decRef
  by_cases more : 1 < data.refCount
  · rw [dif_pos more]
    exact tabled.assign fun _ same => Option.some.inj same ▸ whole
  · rw [dif_neg more]
    exact tabled.assign fun _ same => nomatch same

theorem Tabled.delRoutes (tabled : Tabled vnis) (port : Port) :
    Tabled
      (dpDelRoute6 (dpDelRoute vnis port port.iface.vni port.iface.ownIp 32).1 port
        port.iface.vni port.iface.ownIpv6 128).1 := by
  have tabled4 : Tabled (dpDelRoute vnis port port.iface.vni port.iface.ownIp 32).1 := by
    unfold dpDelRoute
    rcases changeRoutes_cases ipv4Routes (delRoute ipv4Routes port port.iface.ownIp 32) vnis
        port.iface.vni with
      ⟨error, failed⟩ | ⟨data, rib, changed, held, -, -, result⟩
    · rw [failed]
      exact tabled
    · rw [result]
      exact tabled.assign fun _ same => Option.some.inj same ▸ ⟨rfl, (tabled _ data held).2⟩
  unfold dpDelRoute6
  rcases changeRoutes_cases ipv6Routes (delRoute ipv6Routes port port.iface.ownIpv6 128)
      (dpDelRoute vnis port port.iface.vni port.iface.ownIp 32).1 port.iface.vni with
    ⟨error, failed⟩ | ⟨data, rib, changed, held, -, -, result⟩
  · rw [failed]
    exact tabled4
  · rw [result]
    exact tabled4.assign fun _ same => Option.some.inj same ▸ ⟨(tabled4 _ data held).1, rfl⟩

end Tables

/-! ## Whole runs -/

structure Config.Settled (config : Config) : Prop where
  orderly : config.Orderly
  counted : config.view.Counted
  tabled : Tabled config.vnis

section Runs

variable {config : Config}

theorem Config.Settled.createLb (settled : config.Settled) (outcomes : CreateLbOutcomes)
    (request : DpgrpcLb) : (dpProcessCreateLb outcomes config request).1.Settled := by
  have counted := settled.counted
  rcases dpProcessCreateLb_cases outcomes config request with
    ⟨after, error, result, failure⟩ | ⟨after, ulAddr6, result, created⟩
  · rw [result]
    cases failure with
    | unmapped ulAddr6 vnf attempted absent _ =>
      refine ⟨settled.orderly.congr rfl rfl, ?_, settled.tabled⟩
      exact counted.congr rfl (balancersIn_insert_freed absent rfl) rfl
    | _ => exact ⟨settled.orderly.congr rfl rfl, counted, settled.tabled⟩
  have taken : dpCreateVniRouteTables outcomes.vniAllocated config.vnis request.vni =
        ((dpCreateVniRouteTables outcomes.vniAllocated config.vnis request.vni).1, true) :=
    Prod.ext rfl created.ready
  rw [result, created.result, dpCreateVniRouteTables_ready taken]
  refine ⟨settled.orderly.congr rfl rfl, counted.addBalancer created.absent rfl rfl ?_, ?_⟩
  · refine (refsOf_assign ..).trans ?_
    exact congrArg _ (refsOf_takenVni config.vnis request.vni)
  · exact
      settled.tabled.assign fun _ same =>
        Option.some.inj same ▸ settled.tabled.takenVni request.vni

theorem Config.Settled.deleteLb (settled : config.Settled) (lbId : LbId) :
    (dpProcessDeleteLb config lbId).1.Settled := by
  unfold dpProcessDeleteLb dpGetLb
  cases mapped : config.lbs.idMap lbId with
  | none => exact settled
  | some key => ?_
  dsimp only
  cases held : config.lbs.lbTable.lookup key with
  | none => exact settled
  | some entry => ?_
  cases entry with
  | freed => exact settled
  | value value => ?_
  have deleted : dpDeleteLb (config.delVnf value.lbUlAddr).lbs lbId =
        ({ lbTable := config.lbs.lbTable.erase key
           idMap := assign config.lbs.idMap lbId none },
          none) := by
    unfold dpDeleteLb
    simp only [Config.delVnf, mapped]
  dsimp only
  rw [deleted]
  refine ⟨settled.orderly.congr rfl rfl, ?_, settled.tabled.release _⟩
  exact
    settled.counted.removeBalancer held rfl rfl (dpDeleteVniRouteTables_refs config.vniState _).1

theorem Config.Settled.createInterface (settled : config.Settled) (outcomes : InterfaceOutcomes)
    (request : DpgrpcIface) : (dpProcessCreateInterface outcomes config request).1.Settled := by
  have ⟨orderly, counted, tabled⟩ := settled
  rcases dpProcessCreateInterface_ending outcomes config request with
    ⟨after, error, result, failure⟩ | ⟨after, ulAddr6, port, result, attempted, created⟩
  · rw [result]
    cases failure with
    | refused => exact settled
    | undone => exact ⟨orderly.congr rfl rfl, counted, tabled⟩
    | withoutVni ulAddr6 port attempted found =>
      obtain ⟨other, named, idle, -⟩ := ifaceEndpoint_eq_some attempted
      obtain rfl := Option.some.inj (named.symm.trans found)
      have held := entry_of_dpGetPortByName found
      have unready := (orderly.unshown held idle).1
      have same : Port.shown
            { other with
              iface := { other.iface with id := request.ifaceId } } =
          Port.shown other := by
        simp only [Port.shown, unready, Bool.false_eq_true, if_false]
      refine ⟨orderly.of_unready rfl held unready rfl unready rfl, ?_, tabled⟩
      exact counted.congr (ifacesOf_update_same held rfl same) (fun _ => rfl) rfl
    | abandoned ulAddr6 port _ attempted found late => ?_
    obtain ⟨other, named, idle, -⟩ := ifaceEndpoint_eq_some attempted
    obtain rfl := Option.some.inj (named.symm.trans found)
    have held := entry_of_dpGetPortByName found
    have unready := (orderly.unshown held idle).1
    have same : Port.shown { other with iface := PortIface.zeroed } = Port.shown other := by
      simp only [Port.shown, unready, PortIface.zeroed, Bool.false_eq_true, if_false]
    refine ⟨orderly.of_unready rfl held unready rfl rfl rfl, ?_, ?_⟩
    · exact
        counted.congr (ifacesOf_update_same held rfl same) (fun _ => rfl)
          (refsOf_abandonedVnis ..)
    apply tabled.assign
    intro data same
    obtain ⟨before, known, rfl⟩ := Option.map_eq_some_iff.mp same
    have whole := tabled _ before known
    exact ⟨Option.isSome_map.trans whole.1, Option.isSome_map.trans whole.2⟩
  have held := entry_of_dpGetPortByName created.found
  obtain ⟨-, absent⟩ := orderly.unshown held created.idle
  obtain ⟨total, external, data, shape, made⟩ := created.result
  rw [result, made]
  refine ⟨?_, ?_, ?_⟩
  · exact
      @Config.Orderly.of_added config _ _
        ⟨request.ifaceId, request.vni, request.ip4Addr, ulAddr6⟩ orderly
        (PortTable.update_update _ rfl) created.unmapped absent rfl rfl rfl
  · refine
      @View.Counted.addInterface config.view _ port.portId
        ⟨request.ifaceId, request.vni, request.ip4Addr, ulAddr6⟩ counted absent ?_ rfl ?_
    · have updated :=
        @PortTable.update_update config.tables.ports
          { port with iface := newIface request ulAddr6 port }
          (startPort outcomes
            { port with
              iface := PortIface.metered (newIface request ulAddr6 port) total external })
          rfl
      exact (congrArg ifacesOf updated).trans (ifacesOf_update ..)
    · refine (refsOf_assign config.vnis request.vni (some data)).trans ?_
      rw [Option.elim_some, shape.refCount, refsOf_takenVni]
      rfl
  · exact
      tabled.assign fun _ same =>
        Option.some.inj same ▸ shape.whole (tabled.takenVni request.vni)

theorem Config.Settled.deleteInterface (settled : config.Settled) (outcomes : DeleteOutcomes)
    (ifaceId : IfaceId) : (dpProcessDeleteInterface outcomes config ifaceId).1.Settled := by
  unfold dpProcessDeleteInterface
  cases found : dpGetPortWithIfaceId config.tables ifaceId with
  | none => exact settled
  | some port => ?_
  obtain ⟨-, named, -, shown⟩ := settled.orderly.shown found
  have unrouted : ∀ changed : Port, refsOf
        (dpDelRoute6 (dpDelRoute config.vnis changed port.iface.vni port.iface.ownIp 32).1
          changed port.iface.vni port.iface.ownIpv6 128).1 = refsOf config.vnis :=
    fun _ => (refsOf_changeRoutes ..).trans (refsOf_changeRoutes ..)
  refine ⟨?_, ?_, (settled.tabled.delRoutes _).release _⟩
  · exact
      @Config.Orderly.of_removed config _ port
        { port with
          allocated := if outcomes.stopped then false else port.allocated
          iface := PortIface.zeroed }
        settled.orderly ifaceId shown named rfl rfl rfl
  · refine settled.counted.removeInterface shown (ifacesOf_update ..) rfl ?_
    refine (dpDeleteVniRouteTables_refs _ _).1.trans ?_
    exact congrArg (fun refs => assign refs port.iface.vni (refs port.iface.vni - 1)) (unrouted _)

def ConfigRequest.isLifecycle : ConfigRequest → Bool
  | .createInterface .. => true
  | .deleteInterface .. => true
  | .createLb .. => true
  | .deleteLb .. => true
  | _ => false

theorem Config.Settled.handle (settled : config.Settled) (request : ConfigRequest)
    (lifecycle : request.isLifecycle = true) : (config.handle request).1.Settled := by
  cases request with
  | createInterface outcomes request => exact settled.createInterface outcomes request
  | deleteInterface outcomes ifaceId => exact settled.deleteInterface outcomes ifaceId
  | createLb outcomes request => exact settled.createLb outcomes request
  | deleteLb lbId => exact settled.deleteLb lbId
  | _ => cases lifecycle

theorem settled_initial (start : Graph.StartUp) : (Config.initial start).Settled := by
  have unready : ∀ id port, start.ports.entry id = some port → port.iface.ready = false := by
    intro id port held
    rw [start.unconfigured id port held]
    rfl
  have unshown : ∀ id, (Config.initial start).view.ifaces id = none := by
    intro id
    change (start.ports.entry id).bind Port.shown = none
    cases held : start.ports.entry id with
    | none => rfl
    | some port => rw [Option.bind_some, Port.shown, unready id port held, if_neg (by decide)]
  refine ⟨⟨?_, ?_⟩, ?_, fun _ _ held => by cases held⟩
  · intro ifaceId id
    rw [unshown]
    apply iff_of_false
    · exact (Option.some_ne_none id).symm
    · rintro ⟨_, shown, _⟩
      cases shown
  · intro id port held ready
    rw [unready id port held] at ready
    cases ready
  intro vni
  have interfaces : (Config.initial start).view.interfacesIn vni = ∅ := by
    ext id
    simp [View.interfacesIn, unshown]
  have balancers : (Config.initial start).view.balancersIn vni = ∅ := by
    ext key
    simp [View.balancersIn, Config.view, Config.initial, LbTables.empty]
  rw [View.users, interfaces, balancers, Set.ncard_empty, Set.ncard_empty]
  rfl

/-- Data of a VNI is there exactly for as long as an interface or a load
balancer is, with as many references and with both routing tables. -/
structure ReferenceCounted (config : Config) : Prop where
  present : ∀ vni, (config.vnis vni).isSome = true ↔ 0 < config.view.users vni
  counted : ∀ vni data, config.vnis vni = some data → data.refCount = config.view.users vni
  tabled : Tabled config.vnis

theorem Config.Settled.referenceCounted (settled : config.Settled) : ReferenceCounted config := by
  have counted : ∀ vni, refsOf config.vnis vni = config.view.users vni := settled.counted
  refine ⟨?_, ?_, settled.tabled⟩
  · intro vni
    rw [← counted, Nat.pos_iff_ne_zero, Ne, refsOf_eq_zero_iff, Option.isSome_iff_ne_none]
  · intro vni data held
    rw [← counted, refsOf, held]
    rfl

/-- After such requests the identifiers are those of the ready interfaces, each
on a port in use. -/
theorem ifaceIds_of_run (start : Graph.StartUp) (requests : List ConfigRequest) :
    ((configMachine start).run (requests.filter ConfigRequest.isLifecycle)).Orderly := by
  have settled : ((configMachine start).run (requests.filter ConfigRequest.isLifecycle)).Settled :=
    Machine.runFrom_invariant_of
      (fun _ request allowed settled => settled.handle request allowed) _
      (fun _ member => (List.mem_filter.mp member).2) (settled_initial start)
  exact settled.orderly

end Runs

end DpService.Control

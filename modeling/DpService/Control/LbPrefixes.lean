import DpService.Control.Atomicity

/-!
# Prefixes of load balancer targets on this host

A new flow from a VF to such a prefix should be known as traffic to a local
neighbour.  It is looked for under an identifier that is to match every port,
but the table compares identifiers as they are.
-/

namespace DpService.Control

open Foundations Packet Flow Nodes Graph Ipsec
open Dataplane

def dpVnfMatchAllPortIds : PortId := 0xffff

def HasLbPrefix (tables : Tables) (vni : Vni) (addr : IpAddress) : Prop :=
  ∃ id, (tables.ports.entry id).isSome = true ∧
    dpVnfLbprefixExists tables.vnfs id vni addr 32 = true

/-- No port and no prefix has the identifier that is to match all ports. -/
structure Unmatched (tables : Tables) : Prop where
  ports : tables.ports.entry dpVnfMatchAllPortIds = none
  prefixes : ∀ vni pfx, tables.vnfs.value ⟨.lbAliasPfx, vni, dpVnfMatchAllPortIds, pfx⟩ = none

theorem Unmatched.createLbPrefix {config : Config} (unmatched : Unmatched config.tables)
    (outcomes : PrefixOutcomes) (request : DpgrpcPrefix) :
    Unmatched (dpProcessCreateLbPrefix outcomes config request).1.tables := by
  rcases dpProcessCreateLbPrefix_cases outcomes config request with
    ⟨after, error, result, failure⟩ | ⟨after, ulAddr6, port, result, created⟩
  · rw [result]
    cases failure with
    | refused => exact unmatched
    | undone ulAddr6 vnf =>
      refine ⟨unmatched.ports, fun vni pfx => ?_⟩
      change Function.update config.tables.vnfs.value vnf none _ = none
      rw [Function.update_apply, unmatched.prefixes, ite_self]
    | withdrawn _ _ _ _ late => exact absurd late not_false
  rw [result, created.result]
  refine ⟨unmatched.ports, fun vni pfx => ?_⟩
  obtain ⟨id, -, registered⟩ := Option.bind_eq_some_iff.mp created.found
  have other : (⟨.lbAliasPfx, vni, dpVnfMatchAllPortIds, pfx⟩ : Vnf) ≠
      prefixVnf .lbAliasPfx port request := by
    intro same
    have number := config.tables.ports.numbered id port registered
    rw [← number, ← show dpVnfMatchAllPortIds = port.portId from congrArg Vnf.portId same,
      unmatched.ports] at registered
    cases registered
  exact (Function.update_of_ne other _ _).trans (unmatched.prefixes vni pfx)

def CreatesLbPrefix : ConfigRequest → Prop
  | .createLbPrefix _ _ => True
  | _ => False

theorem Unmatched.run {config : Config} (unmatched : Unmatched config.tables) (start : StartUp)
    {requests : List ConfigRequest} (create : ∀ request ∈ requests, CreatesLbPrefix request) :
    Unmatched ((configMachine start).runFrom config requests).tables := by
  refine @Machine.runFrom_invariant_of _ _ (configMachine start)
    (fun config => Unmatched config.tables) CreatesLbPrefix ?_ config requests create unmatched
  intro config request creates kept
  cases request with
  | createLbPrefix outcomes request => exact kept.createLbPrefix outcomes request
  | _ => exact absurd creates not_false

theorem Unmatched.undetected {tables : Tables} (unmatched : Unmatched tables) (vni : Vni)
    (addr : IpAddress) : dpVnfLbprefixExists tables.vnfs dpVnfMatchAllPortIds vni addr 32 = false :=
  congrArg Option.isSome (unmatched.prefixes vni ⟨addr, 32⟩)

/-- Whatever prefixes are created, those of an address are detected, and its
flows marked, exactly if there are none. -/
theorem lbPrefix_detected_iff (config : Config) (start : StartUp) (requests : List ConfigRequest)
    (unmatched : Unmatched config.tables)
    (create : ∀ request ∈ requests, CreatesLbPrefix request)
    (env : NodeEnv) (running : env.tables = ((configMachine start).runFrom config requests).tables)
    (offloading : env.tables.conf.offloadEnabled = true)
    (port : Port) (vf : port.isPf = false) (key : FlowKey) (dst : Ipv4)
    (address : key.l3Dst = .v4 dst) :
    ((dpVnfLbprefixExists env.tables.vnfs dpVnfMatchAllPortIds key.vni (.v4 dst) 32 = true ↔
          HasLbPrefix env.tables key.vni (.v4 dst)) ∧
        (newFlowNatType env port key = .lbLocalNeighTraffic ↔
          HasLbPrefix env.tables key.vni (.v4 dst))) ↔
      ¬ HasLbPrefix env.tables key.vni (.v4 dst) := by
  have undetected :
      dpVnfLbprefixExists env.tables.vnfs dpVnfMatchAllPortIds key.vni (.v4 dst) 32 = false := by
    rw [running]
    exact (unmatched.run start create).undetected key.vni (.v4 dst)
  have unmarked : newFlowNatType env port key ≠ .lbLocalNeighTraffic := by
    rw [dpVnfMatchAllPortIds] at undetected
    simp [newFlowNatType, offloading, vf, address, undetected]
  constructor
  · intro detected present
    exact unmarked (detected.2.mpr present)
  · intro absent
    exact ⟨iff_of_false (by simp [undetected]) absent, iff_of_false unmarked absent⟩

section Examples

def offloadingHost : Config :=
  (configMachine (hostStart { hostConf with offloadEnabled := true })).run
    [.createInterface interfaceCreated (guestIface "guest" "vf0" 0x0a000001 guestUnderlay false)]

def guestLbPrefix : ConfigRequest :=
  .createLbPrefix { generated := Ipv6.zero, vnf := ⟨true, true⟩, routeInserted := true }
    { ifaceId := "guest", addr := .v4 0x0a000064, length := 32
      ulAddr6 := { guestUnderlay with sfx := 9 } }

def withLbPrefix : NodeEnv where
  tables := ((configMachine mellanoxStart).runFrom offloadingHost [guestLbPrefix]).tables
  network := Network.empty
  dpdk := zeroDpdk

theorem offloadingHost_unmatched : Unmatched offloadingHost.tables :=
  ⟨by decide +kernel, fun _ _ => rfl⟩

theorem withLbPrefix_unmarked :
    newFlowNatType withLbPrefix (hostPort false 2 "vf0")
      { FlowKey.zeroed with l3Dst := .v4 0x0a000064, vni := 101 } ≠ .lbLocalNeighTraffic := by
  have absent : ¬ HasLbPrefix withLbPrefix.tables 101 (.v4 0x0a000064) := by
    rintro ⟨id, -, held⟩
    cases held
  refine fun marked => absent (((lbPrefix_detected_iff offloadingHost mellanoxStart
    [guestLbPrefix] offloadingHost_unmatched ?_ withLbPrefix rfl rfl (hostPort false 2 "vf0") rfl
    { FlowKey.zeroed with l3Dst := .v4 0x0a000064, vni := 101 } _ rfl).mpr absent).2.mp marked)
  simp [guestLbPrefix, CreatesLbPrefix]

/-- In the network 100 the guest has the prefix, and it is not detected. -/
theorem withLbPrefix_undetected :
    HasLbPrefix withLbPrefix.tables 100 (.v4 0x0a000064) ∧
      dpVnfLbprefixExists withLbPrefix.tables.vnfs dpVnfMatchAllPortIds 100 (.v4 0x0a000064) 32 =
        false :=
  ⟨⟨2, by decide +kernel, by decide +kernel⟩, by decide +kernel⟩

end Examples

end DpService.Control

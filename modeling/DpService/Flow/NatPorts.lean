import DpService.Flow.Key
import DpService.Foundations.Holders
import DpService.Foundations.Table
import Mathlib.Logic.Function.Basic

/-!
# The ports of network NAT

`ipv4_netnat_portmap_tbl` remembers the port that a source got, and
`ipv4_netnat_portoverload_tbl` which ports are taken towards a destination.
A port is shared by every flow of a source, and by sources that talk to
different destinations.
-/

namespace DpService.Flow

open Foundations Packet Dataplane

@[ext]
structure PortmapKey where
  vni : Vni
  srcIp : IpAddress
  ifaceSrcPort : UInt16
  deriving Repr

instance : DecidableEq PortmapKey :=
  fun _ _ => decidable_of_iff _ PortmapKey.ext_iff.symm

structure PortmapData where
  natIp : Ipv4
  natPort : UInt16
  flowCnt : UInt16
  deriving DecidableEq, Repr

@[ext]
structure PortoverloadKey where
  natIp : Ipv4
  natPort : UInt16
  dstIp : Ipv4
  dstPort : UInt16
  l4Type : UInt8
  deriving Repr

instance : DecidableEq PortoverloadKey :=
  fun _ _ => decidable_of_iff _ PortoverloadKey.ext_iff.symm

/-- Whom a port was given to: the source that it was looked up for and the
interface that it was counted for. -/
structure Allocation where
  portmapKey : PortmapKey
  portId : PortId
  deriving DecidableEq, Repr

/-- The two tables, and `used_port_cnt` of every port.  What `portoverload`
files under a key is not kept by the code, except for a backup instance, and
nothing reads it: it says what an entry stands for. -/
structure NatPorts where
  portmap : PortmapKey → Option PortmapData
  portoverload : FiniteTable PortoverloadKey Allocation
  usedPortCnt : PortId → UInt16

def NatPorts.empty : NatPorts where
  portmap := fun _ => none
  portoverload := ∅
  usedPortCnt := fun _ => 0

namespace NatPorts

def taken (ports : NatPorts) (key : PortoverloadKey) : Bool :=
  (ports.portoverload.lookup key).isSome

def addOverload (ports : NatPorts) (key : PortoverloadKey) (allocation : Allocation) :
    NatPorts :=
  { ports with portoverload := ports.portoverload.insert key allocation }

def delOverload (ports : NatPorts) (key : PortoverloadKey) : NatPorts :=
  { ports with portoverload := ports.portoverload.erase key }

def setPortmap (ports : NatPorts) (key : PortmapKey) (data : Option PortmapData) :
    NatPorts :=
  { ports with portmap := assign ports.portmap key data }

def incUsedPortCnt (ports : NatPorts) (portId : PortId) : NatPorts :=
  { ports with usedPortCnt := assign ports.usedPortCnt portId (ports.usedPortCnt portId + 1) }

def decUsedPortCnt (ports : NatPorts) (portId : PortId) : NatPorts :=
  { ports with usedPortCnt := assign ports.usedPortCnt portId (ports.usedPortCnt portId - 1) }

theorem setPortmap_portmap (ports : NatPorts) (key : PortmapKey) (data : Option PortmapData) :
    (ports.setPortmap key data).portmap = Function.update ports.portmap key data :=
  assign_eq_update ports.portmap key data

theorem incUsedPortCnt_usedPortCnt (ports : NatPorts) (portId : PortId) :
    (ports.incUsedPortCnt portId).usedPortCnt =
      Function.update ports.usedPortCnt portId (ports.usedPortCnt portId + 1) :=
  assign_eq_update ports.usedPortCnt portId _

theorem decUsedPortCnt_usedPortCnt (ports : NatPorts) (portId : PortId) :
    (ports.decUsedPortCnt portId).usedPortCnt =
      Function.update ports.usedPortCnt portId (ports.usedPortCnt portId - 1) :=
  assign_eq_update ports.usedPortCnt portId _

theorem taken_eq_false_iff (ports : NatPorts) (key : PortoverloadKey) :
    ports.taken key = false ↔ ports.portoverload.lookup key = none := by
  rw [taken, Option.isSome_eq_false_iff, Option.isNone_iff_eq_none]

end NatPorts

/-! ## Allocation -/

structure PortOutcomes where
  addOverload : Bool
  allocPortmap : Bool
  addPortmap : Bool
  deriving DecidableEq, Repr

def PortOutcomes.succeed : PortOutcomes where
  addOverload := true
  allocPortmap := true
  addPortmap := true

inductive PortReuse where
  | absent
  | failed
  | reused (natPort : UInt16)
  deriving DecidableEq, Repr

def dpUseExistingPortmapEntry (outcomes : PortOutcomes) (portId : PortId) (ports : NatPorts)
    (portmapKey : PortmapKey) (overloadKey : PortoverloadKey) :
    NatPorts × PortReuse :=
  match ports.portmap portmapKey with
  | none => (ports, .absent)
  | some data =>
    let key := { overloadKey with natPort := data.natPort }
    if ports.taken key || !outcomes.addOverload then (ports, .failed)
    else
      ((ports.addOverload key ⟨portmapKey, portId⟩).setPortmap portmapKey
          (some { data with flowCnt := data.flowCnt + 1 }),
        .reused data.natPort)

def candidatePort (hash : UInt32) (minPort portRange : UInt16) (round : Nat) : UInt16 :=
  minPort + ((hash + round.toUInt32) % portRange.toUInt32).toUInt16

/-- The search starts at a hash of the source and goes once through the
range. -/
def dpFindNewPort (hash : UInt32) (range : PortRange) (ports : NatPorts)
    (overloadKey : PortoverloadKey) : Option UInt16 :=
  let portRange := range.maxPort - range.minPort
  ((List.range portRange.toNat).map (candidatePort hash range.minPort portRange)).find?
    fun port => !ports.taken { overloadKey with natPort := port }

def dpCreateNewPortmapEntry (outcomes : PortOutcomes) (portId : PortId) (ports : NatPorts)
    (portmapKey : PortmapKey) (overloadKey : PortoverloadKey) :
    NatPorts × Bool :=
  if !outcomes.addOverload then (ports, false)
  else
    let added := ports.addOverload overloadKey ⟨portmapKey, portId⟩
    if !outcomes.allocPortmap || !outcomes.addPortmap then (added.delOverload overloadKey, false)
    else
      (added.setPortmap portmapKey
          (some
            { natIp := overloadKey.natIp
              natPort := overloadKey.natPort
              flowCnt := 1 }),
        true)

structure NatRange where
  natIp : Ipv4
  portRange : PortRange
  deriving DecidableEq, Repr

def natSrcPort (df : DpFlow) : UInt16 :=
  if df.l4Type = ipprotoIcmp ∨ df.l4Type = ipprotoIcmpv6 then df.l4Info.icmpIdentifier
  else df.l4Info.srcPort

def natDstPort (df : DpFlow) : UInt16 :=
  if df.l4Type = ipprotoIcmp ∨ df.l4Type = ipprotoIcmpv6 then df.l4Info.icmpIdentifier
  else df.l4Info.dstPort

def natAddresses (df : DpFlow) : Option (IpAddress × Ipv4) :=
  if df.l3Type = etherTypeIpv4 then some (.v4 df.src.addr, df.dst.addr)
  else if df.l3Type = etherTypeIpv6 then some (.v6 df.src.addr6, dpGetIpv6Nat64 df.dst.addr6)
  else none

def portmapKeyOf (df : DpFlow) (vni : Vni) (srcIp : IpAddress) : PortmapKey where
  vni := vni
  srcIp := srcIp
  ifaceSrcPort := natSrcPort df

def overloadKeyOf (df : DpFlow) (natIp dstIp : Ipv4) (natPort : UInt16) : PortoverloadKey where
  natIp := natIp
  natPort := natPort
  dstIp := dstIp
  dstPort := natDstPort df
  l4Type := df.l4Type

def dpAllocateNetworkSnatPort (hash : PortmapKey → UInt32) (outcomes : PortOutcomes)
    (nat : NatRange) (df : DpFlow) (port : Port) (ports : NatPorts) :
    NatPorts × Option UInt16 :=
  match natAddresses df with
  | none => (ports, none)
  | some (srcIp, dstIp) =>
    let portmapKey := portmapKeyOf df port.iface.vni srcIp
    let overloadKey := overloadKeyOf df nat.natIp dstIp 0
    match
      dpUseExistingPortmapEntry outcomes port.portId ports portmapKey overloadKey with
    | (ports, .failed) => (ports, none)
    | (ports, .reused natPort) => (ports.incUsedPortCnt port.portId, some natPort)
    | (ports, .absent) =>
      match dpFindNewPort (hash portmapKey) nat.portRange ports overloadKey with
      | none => (ports, none)
      | some natPort =>
        match
          dpCreateNewPortmapEntry outcomes port.portId ports portmapKey
            { overloadKey with natPort } with
        | (ports, false) => (ports, none)
        | (ports, true) => (ports.incUsedPortCnt port.portId, some natPort)

/-! ### What an allocation does -/

/-- A mapping that is used by one more flow, or made for it. -/
def countedOnce (data : Option PortmapData) (natIp : Ipv4) (natPort : UInt16) :
    PortmapData :=
  match data with
  | none => { natIp, natPort, flowCnt := 1 }
  | some data => { data with flowCnt := data.flowCnt + 1 }

/-- An entry is made for a key that was free, and the mapping of its source
counts it. -/
structure Records
    (before after : NatPorts) (key : PortoverloadKey)
    (allocation : Allocation) : Prop where
  free : before.portoverload.lookup key = none
  added : ∀ other, after.portoverload.lookup other =
      if other = key then some allocation else before.portoverload.lookup other
  mapped : after.portmap =
      Function.update before.portmap allocation.portmapKey
        (some (countedOnce (before.portmap allocation.portmapKey) key.natIp key.natPort))
  samePort : ∀ data, before.portmap allocation.portmapKey = some data → data.natPort = key.natPort

structure Allocates (before after : NatPorts) (key : PortoverloadKey) (allocation : Allocation) :
    Prop extends Records before after key allocation where
  used : after.usedPortCnt =
      Function.update before.usedPortCnt allocation.portId
        (before.usedPortCnt allocation.portId + 1)

structure Unchanged (before after : NatPorts) : Prop where
  portmap : after.portmap = before.portmap
  portoverload : ∀ key, after.portoverload.lookup key = before.portoverload.lookup key
  used : after.usedPortCnt = before.usedPortCnt

theorem Unchanged.refl (ports : NatPorts) : Unchanged ports ports :=
  ⟨rfl, fun _ => rfl, rfl⟩

section Allocation

variable {outcomes : PortOutcomes} {portId : PortId} {ports : NatPorts}
variable {portmapKey : PortmapKey} {overloadKey : PortoverloadKey}

theorem dpUseExistingPortmapEntry_cases (outcomes : PortOutcomes) (portId : PortId)
    (ports : NatPorts) (portmapKey : PortmapKey) (overloadKey : PortoverloadKey) :
    (dpUseExistingPortmapEntry outcomes portId ports portmapKey overloadKey = (ports, .absent) ∧
        ports.portmap portmapKey = none) ∨
      dpUseExistingPortmapEntry outcomes portId ports portmapKey overloadKey = (ports, .failed) ∨
      ∃ after natPort, dpUseExistingPortmapEntry outcomes portId ports portmapKey overloadKey =
            (after, .reused natPort) ∧
          (∃ data, ports.portmap portmapKey = some data ∧ data.natPort = natPort) ∧
          Allocates ports (after.incUsedPortCnt portId)
            { overloadKey with natPort } ⟨portmapKey, portId⟩ := by
  cases held : ports.portmap portmapKey with
  | none =>
    apply Or.inl
    rw [dpUseExistingPortmapEntry, held]
    exact ⟨rfl, rfl⟩
  | some data => ?_
  apply Or.inr
  by_cases refused :
      (ports.taken { overloadKey with natPort := data.natPort } || !outcomes.addOverload) = true
  · apply Or.inl
    rw [dpUseExistingPortmapEntry, held]
    exact if_pos refused
  apply Or.inr
  have free :
      ports.portoverload.lookup
        { overloadKey with natPort := data.natPort } = none := by
    rw [Bool.or_eq_true, not_or, Bool.not_eq_true] at refused
    exact (ports.taken_eq_false_iff _).mp refused.1
  have reused : dpUseExistingPortmapEntry outcomes portId ports portmapKey overloadKey =
        ((ports.addOverload
            { overloadKey with natPort := data.natPort }
            ⟨portmapKey, portId⟩).setPortmap
          portmapKey (some { data with flowCnt := data.flowCnt + 1 }), .reused data.natPort) := by
    rw [dpUseExistingPortmapEntry, held]
    exact if_neg refused
  refine
    ⟨_, data.natPort, reused, ⟨data, rfl, rfl⟩, ⟨free, ?_, ?_, ?_⟩,
      NatPorts.incUsedPortCnt_usedPortCnt _ portId⟩
  · intro other
    exact FiniteTable.lookup_insert_eq ports.portoverload _ other _
  · rw [held]
    exact NatPorts.setPortmap_portmap _ portmapKey _
  · intro stored found
    rw [held, Option.some_inj] at found
    rw [found]

theorem free_of_dpFindNewPort {hash : UInt32} {range : PortRange} {natPort : UInt16}
    (found : dpFindNewPort hash range ports overloadKey = some natPort) :
    ports.portoverload.lookup { overloadKey with natPort } = none := by
  have unused := List.find?_some found
  rw [Bool.not_eq_true'] at unused
  exact (ports.taken_eq_false_iff _).mp unused

theorem candidatePort_covered (hash : UInt32) (range : PortRange) {round : Nat}
    (inRange : round < (range.maxPort - range.minPort).toNat) :
    range.Covers
      (candidatePort hash range.minPort (range.maxPort - range.minPort) round) := by
  have ordered := UInt16.le_iff_toNat_le.mp range.ordered
  have size : (range.maxPort - range.minPort).toNat = range.maxPort.toNat - range.minPort.toNat :=
    UInt16.toNat_sub_of_le _ _ range.ordered
  have maxBound := range.maxPort.toNat_lt
  generalize sum : hash + round.toUInt32 = start
  -- the offset into the range, without its machine arithmetic
  have small : (start % (range.maxPort - range.minPort).toUInt32).toNat <
        range.maxPort.toNat - range.minPort.toNat := by
    rw [UInt32.toNat_mod, UInt16.toNat_toUInt32, size]
    exact Nat.mod_lt _ (by omega)
  have value : (candidatePort hash range.minPort (range.maxPort - range.minPort) round).toNat =
        range.minPort.toNat + (start % (range.maxPort - range.minPort).toUInt32).toNat := by
    rw [candidatePort, sum, UInt16.toNat_add, UInt32.toNat_toUInt16]
    omega
  constructor
  · rw [UInt16.le_iff_toNat_le, value]
    omega
  · rw [UInt16.lt_iff_toNat_lt, value]
    omega

theorem covered_of_dpFindNewPort {hash : UInt32} {range : PortRange} {natPort : UInt16}
    (found : dpFindNewPort hash range ports overloadKey = some natPort) :
    range.Covers natPort := by
  have member := List.mem_of_find?_eq_some found
  rw [List.mem_map] at member
  obtain ⟨round, inRange, candidate⟩ := member
  rw [← candidate]
  exact candidatePort_covered hash range (List.mem_range.mp inRange)

theorem dpCreateNewPortmapEntry_cases (free : ports.portoverload.lookup overloadKey = none)
    (unmapped : ports.portmap portmapKey = none) :
    ((dpCreateNewPortmapEntry outcomes portId ports portmapKey overloadKey).2 = false ∧
        Unchanged ports (dpCreateNewPortmapEntry outcomes portId ports portmapKey overloadKey).1) ∨
      ((dpCreateNewPortmapEntry outcomes portId ports portmapKey overloadKey).2 = true ∧
        Allocates ports
          ((dpCreateNewPortmapEntry outcomes portId ports portmapKey
            overloadKey).1.incUsedPortCnt portId)
          overloadKey ⟨portmapKey, portId⟩) := by
  by_cases refused : (!outcomes.addOverload) = true
  · apply Or.inl
    rw [dpCreateNewPortmapEntry, if_pos refused]
    exact ⟨rfl, Unchanged.refl ports⟩
  rw [dpCreateNewPortmapEntry, if_neg refused]
  by_cases failed : (!outcomes.allocPortmap || !outcomes.addPortmap) = true
  · apply Or.inl
    rw [if_pos failed]
    refine ⟨rfl, rfl, ?_, rfl⟩
    -- taking the key back out leaves the table as it was
    intro other
    change
      ((ports.portoverload.insert overloadKey
        ⟨portmapKey, portId⟩).erase overloadKey).lookup other = _
    rw [FiniteTable.lookup_erase_eq, FiniteTable.lookup_insert_eq]
    by_cases same : other = overloadKey
    · rw [if_pos same, same, free]
    · rw [if_neg same, if_neg same]
  apply Or.inr
  rw [if_neg failed]
  refine ⟨rfl, ⟨free, ?_, ?_, ?_⟩, NatPorts.incUsedPortCnt_usedPortCnt _ portId⟩
  · intro other
    exact FiniteTable.lookup_insert_eq ports.portoverload _ other _
  · rw [unmapped]
    exact NatPorts.setPortmap_portmap _ portmapKey _
  · intro data found
    rw [unmapped] at found
    cases found

def FromMapping (ports : NatPorts) (portmapKey : PortmapKey) (range : PortRange)
    (natPort : UInt16) : Prop :=
  (∃ data, ports.portmap portmapKey = some data ∧ data.natPort = natPort) ∨
    (ports.portmap portmapKey = none ∧ range.Covers natPort)

theorem dpAllocateNetworkSnatPort_cases (hash : PortmapKey → UInt32) (outcomes : PortOutcomes)
    (nat : NatRange) (df : DpFlow) (port : Port) (ports : NatPorts) :
    (∃ after, dpAllocateNetworkSnatPort hash outcomes nat df port ports = (after, none) ∧
        Unchanged ports after) ∨
      ∃ after srcIp dstIp natPort, natAddresses df = some (srcIp, dstIp) ∧
          dpAllocateNetworkSnatPort hash outcomes nat df port ports = (after, some natPort) ∧
          FromMapping ports (portmapKeyOf df port.iface.vni srcIp) nat.portRange natPort ∧
          Allocates ports after (overloadKeyOf df nat.natIp dstIp natPort)
            ⟨portmapKeyOf df port.iface.vni srcIp, port.portId⟩ := by
  unfold dpAllocateNetworkSnatPort
  cases addresses : natAddresses df with
  | none => exact Or.inl ⟨ports, rfl, Unchanged.refl ports⟩
  | some pair => ?_
  obtain ⟨srcIp, dstIp⟩ := pair
  dsimp only
  rcases dpUseExistingPortmapEntry_cases outcomes port.portId ports
      (portmapKeyOf df port.iface.vni srcIp)
      (overloadKeyOf df nat.natIp dstIp 0) with
    ⟨absent, unmapped⟩ | failed | ⟨after, natPort, reused, mapping, allocates⟩
  · rw [absent]
    dsimp only
    cases found :
        dpFindNewPort (hash (portmapKeyOf df port.iface.vni srcIp))
          nat.portRange ports (overloadKeyOf df nat.natIp dstIp 0) with
    | none => exact Or.inl ⟨ports, rfl, Unchanged.refl ports⟩
    | some natPort => ?_
    dsimp only
    have free := free_of_dpFindNewPort found
    rcases @dpCreateNewPortmapEntry_cases outcomes port.portId ports
        (portmapKeyOf df port.iface.vni srcIp) _ free unmapped with
      ⟨refused, kept⟩ | ⟨created, allocates⟩
    · apply Or.inl
      split
      · rename_i after result
        rw [result] at kept
        exact ⟨after, rfl, kept⟩
      rename_i result
      rw [result] at refused
      cases refused
    apply Or.inr
    split
    · rename_i result
      rw [result] at created
      cases created
    rename_i after result
    rw [result] at allocates
    exact
      ⟨_, srcIp, dstIp, natPort, rfl, rfl,
        Or.inr ⟨unmapped, covered_of_dpFindNewPort found⟩, allocates⟩
  · rw [failed]
    exact Or.inl ⟨ports, rfl, Unchanged.refl ports⟩
  · rw [reused]
    exact Or.inr ⟨_, srcIp, dstIp, natPort, rfl, rfl, Or.inl mapping, allocates⟩

/-! ### When an allocation fails -/

/-- Every port of the range is in use towards the destination of the key. -/
def Exhausted (ports : NatPorts) (range : PortRange) (overloadKey : PortoverloadKey) : Prop :=
  ∀ natPort, range.Covers natPort → ports.taken { overloadKey with natPort } = true

/-- One of the ports that are tried is free.  A source with a mapping can only
get the port of that mapping. -/
def TriesFreePort (hash : UInt32) (range : PortRange) (ports : NatPorts) (portmapKey : PortmapKey)
    (overloadKey : PortoverloadKey) : Prop :=
  match ports.portmap portmapKey with
  | some data => ports.taken { overloadKey with natPort := data.natPort } = false
  | none =>
    ∃ round < (range.maxPort - range.minPort).toNat,
      ports.taken
        { overloadKey with
          natPort :=
            candidatePort hash range.minPort (range.maxPort - range.minPort) round } = false

theorem dpFindNewPort_isSome_iff (hash : UInt32) (range : PortRange) :
    (dpFindNewPort hash range ports overloadKey).isSome = true ↔
      ∃ round < (range.maxPort - range.minPort).toNat,
        ports.taken
          { overloadKey with
            natPort :=
              candidatePort hash range.minPort (range.maxPort - range.minPort) round } = false := by
  rw [dpFindNewPort, List.find?_isSome]
  simp only [List.mem_map, List.mem_range, exists_exists_and_eq_and, Bool.not_eq_true']

theorem dpAllocateNetworkSnatPort_isSome_iff
    (hash : PortmapKey → UInt32) (nat : NatRange) {df : DpFlow} {srcIp : IpAddress} {dstIp : Ipv4}
    (port : Port) (ports : NatPorts) (addresses : natAddresses df = some (srcIp, dstIp)) :
    (dpAllocateNetworkSnatPort hash .succeed nat df port ports).2.isSome = true ↔
      TriesFreePort (hash (portmapKeyOf df port.iface.vni srcIp)) nat.portRange ports
        (portmapKeyOf df port.iface.vni srcIp) (overloadKeyOf df nat.natIp dstIp 0) := by
  rw [dpAllocateNetworkSnatPort, addresses, TriesFreePort]
  dsimp only
  rw [dpUseExistingPortmapEntry]
  cases held : ports.portmap (portmapKeyOf df port.iface.vni srcIp) with
  | some data =>
    dsimp only
    cases inUse :
        ports.taken { overloadKeyOf df nat.natIp dstIp 0 with natPort := data.natPort } with
    | true => simp
    | false => simp [PortOutcomes.succeed]
  | none => ?_
  dsimp only
  rw [← dpFindNewPort_isSome_iff]
  cases dpFindNewPort (hash (portmapKeyOf df port.iface.vni srcIp)) nat.portRange ports
      (overloadKeyOf df nat.natIp dstIp 0) with
  | none => simp
  | some natPort => simp [dpCreateNewPortmapEntry, PortOutcomes.succeed]

theorem exists_candidatePort {hash : UInt32} {range : PortRange} {natPort : UInt16}
    (fits : hash.toNat + (range.maxPort - range.minPort).toNat ≤ 2 ^ 32)
    (covered : range.Covers natPort) :
    ∃ round < (range.maxPort - range.minPort).toNat,
      candidatePort hash range.minPort (range.maxPort - range.minPort) round = natPort := by
  have size : (range.maxPort - range.minPort).toNat = range.maxPort.toNat - range.minPort.toNat :=
    UInt16.toNat_sub_of_le _ _ range.ordered
  have lower := UInt16.le_iff_toNat_le.mp covered.1
  have upper := UInt16.lt_iff_toNat_lt.mp covered.2
  have portBound := natPort.toNat_lt
  generalize width : (range.maxPort - range.minPort).toNat = r at fits size ⊢
  -- the round whose offset is the one of the port
  obtain ⟨round, small, offset⟩ :
      ∃ round < r, (hash.toNat + round) % r = natPort.toNat - range.minPort.toNat := by
    have start := Nat.div_add_mod hash.toNat r
    have startBound := Nat.mod_lt hash.toNat (show r > 0 by omega)
    refine ⟨(natPort.toNat - range.minPort.toNat + r - hash.toNat % r) % r,
      Nat.mod_lt _ (by omega), ?_⟩
    rw [Nat.add_mod_mod]
    have regroup : hash.toNat + (natPort.toNat - range.minPort.toNat + r - hash.toNat % r) =
          natPort.toNat - range.minPort.toNat + r * (hash.toNat / r + 1) := by
      rw [Nat.mul_add]
      omega
    rw [regroup, Nat.add_mul_mod_self_left]
    exact Nat.mod_eq_of_lt (by omega)
  refine ⟨round, small, ?_⟩
  have sum : (hash + round.toUInt32).toNat = hash.toNat + round := by
    rw [UInt32.toNat_add, UInt32.toNat_ofNat']
    omega
  apply UInt16.toNat_inj.mp
  rw [candidatePort, UInt16.toNat_add, UInt32.toNat_toUInt16, UInt32.toNat_mod,
    UInt16.toNat_toUInt32, sum, width, offset]
  omega

theorem triesFreePort_of_unmapped {hash : UInt32} {range : PortRange}
    (unmapped : ports.portmap portmapKey = none)
    (fits : hash.toNat + (range.maxPort - range.minPort).toNat ≤ 2 ^ 32)
    (left : ¬ Exhausted ports range overloadKey) :
    TriesFreePort hash range ports portmapKey overloadKey := by
  rw [TriesFreePort, unmapped]
  obtain ⟨natPort, missed⟩ := not_forall.mp left
  obtain ⟨covered, free⟩ := Classical.not_imp.mp missed
  obtain ⟨round, small, candidate⟩ := exists_candidatePort fits covered
  rw [Bool.not_eq_true] at free
  exact ⟨round, small, candidate ▸ free⟩

end Allocation

/-! ## Release -/

def dpDeleteSnatEntries (ports : NatPorts) (portmapKey : PortmapKey)
    (overloadKey : PortoverloadKey) : NatPorts :=
  let ports := ports.delOverload overloadKey
  match ports.portmap portmapKey with
  | none => ports
  | some data =>
    let flowCnt := data.flowCnt - 1
    if flowCnt = 0 then ports.setPortmap portmapKey none
    else ports.setPortmap portmapKey (some { data with flowCnt })

def uncounted (data : PortmapData) : Option PortmapData :=
  if data.flowCnt - 1 = 0 then none
  else some { data with flowCnt := data.flowCnt - 1 }

theorem dpDeleteSnatEntries_portoverload (ports : NatPorts) (portmapKey : PortmapKey)
    (overloadKey other : PortoverloadKey) :
    (dpDeleteSnatEntries ports portmapKey overloadKey).portoverload.lookup other =
      if other = overloadKey then none
      else ports.portoverload.lookup other := by
  have erased : (dpDeleteSnatEntries ports portmapKey overloadKey).portoverload =
        ports.portoverload.erase overloadKey := by
    unfold dpDeleteSnatEntries
    dsimp only
    split
    · rfl
    split
    · rfl
    · rfl
  rw [erased]
  exact FiniteTable.lookup_erase_eq ports.portoverload overloadKey other

theorem dpDeleteSnatEntries_portmap (ports : NatPorts) (portmapKey : PortmapKey)
    (overloadKey : PortoverloadKey) :
    (dpDeleteSnatEntries ports portmapKey overloadKey).portmap =
      Function.update ports.portmap portmapKey ((ports.portmap portmapKey).bind uncounted) := by
  have kept : (ports.delOverload overloadKey).portmap portmapKey = ports.portmap portmapKey := rfl
  unfold dpDeleteSnatEntries
  dsimp only
  rw [kept]
  cases held : ports.portmap portmapKey with
  | none =>
    change ports.portmap = Function.update ports.portmap portmapKey none
    rw [← held, Function.update_eq_self]
  | some data => ?_
  rw [Option.bind_some, uncounted]
  dsimp only
  split
  · exact NatPorts.setPortmap_portmap _ portmapKey _
  · exact NatPorts.setPortmap_portmap _ portmapKey _

theorem dpDeleteSnatEntries_usedPortCnt (ports : NatPorts) (portmapKey : PortmapKey)
    (overloadKey : PortoverloadKey) :
    (dpDeleteSnatEntries ports portmapKey overloadKey).usedPortCnt = ports.usedPortCnt := by
  unfold dpDeleteSnatEntries
  dsimp only
  split
  · rfl
  split
  · rfl
  · rfl

/-- An entry goes, and the mapping of its source counts one less. -/
structure Forgets
    (before after : NatPorts) (key : PortoverloadKey)
    (allocation : Allocation) : Prop where
  held : before.portoverload.lookup key = some allocation
  removed : ∀ other, after.portoverload.lookup other =
      if other = key then none else before.portoverload.lookup other
  mapped : after.portmap =
      Function.update before.portmap allocation.portmapKey
        ((before.portmap allocation.portmapKey).bind uncounted)

/-- A port that was given away comes back, and it is counted for `portId`. -/
structure Returns
    (before after : NatPorts) (key : PortoverloadKey) (allocation : Allocation)
    (portId : PortId) : Prop extends Forgets before after key allocation where
  used :
    after.usedPortCnt = Function.update before.usedPortCnt portId (before.usedPortCnt portId - 1)

theorem dpDeleteSnatEntries_returns {ports : NatPorts} {key : PortoverloadKey}
    {allocation : Allocation} (held : ports.portoverload.lookup key = some allocation)
    (portId : PortId) :
    Returns ports ((dpDeleteSnatEntries ports allocation.portmapKey key).decUsedPortCnt portId)
      key allocation portId where
  held := held
  removed := dpDeleteSnatEntries_portoverload ports allocation.portmapKey key
  mapped := dpDeleteSnatEntries_portmap ports allocation.portmapKey key
  used := by
    rw [NatPorts.decUsedPortCnt_usedPortCnt, dpDeleteSnatEntries_usedPortCnt]

end DpService.Flow

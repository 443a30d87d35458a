import DpService.Flow.Accounting
import DpService.Flow.Sync
import DpService.Foundations.Machine

/-!
# A backup and its primary

The primary searches for a free port and the backup takes the port that it is
told.  On equal tables both come to the same, and a message that is repeated
changes nothing as long as the mapping of its source is there.
-/

namespace DpService.Flow

open Foundations Packet Dataplane

/-! ## What a message does -/

section Create

variable {backup : Backup} {message : NatCreate}

theorem setNatPort_self {key : PortoverloadKey} {data : PortmapData}
    (samePort : data.natPort = key.natPort) :
    { key with natPort := data.natPort } = key := by
  rw [samePort]

theorem dpAllocateSyncSnatPort_of_unmapped
    (unmapped : backup.ports.portmap message.portmapKey = none) :
    dpAllocateSyncSnatPort .succeed backup message =
      backup.note
        ((backup.ports.addOverload message.portoverloadKey
            message.allocation).setPortmap message.portmapKey
          (some
            { natIp := message.portoverloadKey.natIp
              natPort := message.portoverloadKey.natPort
              flowCnt := 1 }))
        message.portoverloadKey message := by
  simp [dpAllocateSyncSnatPort, SyncOutcomes.succeed, PortOutcomes.succeed,
    dpUseExistingPortmapEntry, unmapped, dpCreateNewPortmapEntry, NatCreate.allocation]

theorem dpAllocateSyncSnatPort_records
    (free : backup.ports.portoverload.lookup message.portoverloadKey = none)
    (samePort : ∀ data, backup.ports.portmap message.portmapKey = some data →
        data.natPort = message.portoverloadKey.natPort) :
    Records backup.ports (dpAllocateSyncSnatPort .succeed backup message).ports
        message.portoverloadKey message.allocation ∧
      (dpAllocateSyncSnatPort .succeed backup message).icmp =
        assign backup.icmp message.portoverloadKey
          ⟨message.icmpTypeSrc, message.icmpErrIpCksum⟩ := by
  have available : backup.ports.taken message.portoverloadKey = false :=
    (backup.ports.taken_eq_false_iff _).mpr free
  cases mapped : backup.ports.portmap message.portmapKey with
  | none =>
    rw [dpAllocateSyncSnatPort_of_unmapped mapped]
    refine ⟨⟨free, ?_, ?_, ?_⟩, rfl⟩
    · intro other
      exact FiniteTable.lookup_insert_eq backup.ports.portoverload _ other _
    · have absent : backup.ports.portmap message.allocation.portmapKey = none :=
        mapped
      rw [absent]
      exact NatPorts.setPortmap_portmap _ message.portmapKey _
    · intro data found
      exact samePort data found
  | some data =>
    have same := samePort data mapped
    have reused : dpAllocateSyncSnatPort .succeed backup message =
          backup.note
            ((backup.ports.addOverload message.portoverloadKey
                message.allocation).setPortmap message.portmapKey
              (some { data with flowCnt := data.flowCnt + 1 }))
            message.portoverloadKey message := by
      simp [dpAllocateSyncSnatPort, SyncOutcomes.succeed,
        PortOutcomes.succeed, dpUseExistingPortmapEntry, mapped,
        setNatPort_self same, available, NatCreate.allocation]
    rw [reused]
    refine ⟨⟨free, ?_, ?_, ?_⟩, rfl⟩
    · intro other
      exact FiniteTable.lookup_insert_eq backup.ports.portoverload _ other _
    · have present : backup.ports.portmap message.allocation.portmapKey = some data :=
        mapped
      rw [present]
      exact NatPorts.setPortmap_portmap _ message.portmapKey _
    · intro other found
      exact samePort other found

/-- A message about an entry that is there changes nothing, as long as the
mapping of the source is there as well. -/
theorem dpAllocateSyncSnatPort_repeated {data : PortmapData} {allocation : Allocation}
    (mapped : backup.ports.portmap message.portmapKey = some data)
    (samePort : data.natPort = message.portoverloadKey.natPort)
    (held : backup.ports.portoverload.lookup message.portoverloadKey = some allocation) :
    dpAllocateSyncSnatPort .succeed backup message = backup := by
  have taken : backup.ports.taken message.portoverloadKey = true := by
    rw [NatPorts.taken, held]
    rfl
  simp [dpAllocateSyncSnatPort, SyncOutcomes.succeed,
    dpUseExistingPortmapEntry, mapped, setNatPort_self samePort, taken]

end Create

/-! ## The pair -/

/-- A primary and its backup.  `live` says what the ports that are given away
were given away for. -/
structure SyncPair where
  primary : NatPorts
  live : PortoverloadKey → Option NatCreate
  backup : Backup

/-- The primary gives a port away, takes back the port of a flow, or says once
more that it has given a port away. -/
inductive SyncEvent where
  | allocate
      (nat : NatRange) (df : DpFlow) (port : Port) (icmpErrIpCksum : UInt16)
  | release (value : FlowValue)
  | resend (message : NatCreate)

def noteLive (live : PortoverloadKey → Option NatCreate) :
    SyncMessage → PortoverloadKey → Option NatCreate
  | .natCreate message => assign live message.portoverloadKey (some message)
  | .natDelete message => assign live message.portoverloadKey none
  | .requestDump => live

namespace SyncPair

def empty : SyncPair where
  primary := NatPorts.empty
  live := fun _ => none
  backup := Backup.empty

/-- A message of the primary is sent and handled by the backup. -/
def send (pair : SyncPair) (message : SyncMessage) : SyncPair :=
  { pair with
    live := noteLive pair.live message
    backup := processPacket .succeed pair.backup message }

def step (hash : PortmapKey → UInt32) (pair : SyncPair) : SyncEvent → SyncPair
  | .allocate nat df port icmpErrIpCksum =>
    match
      dpAllocateNetworkSnatPort hash .succeed nat df port pair.primary with
    | (primary, allocated) =>
      (allocationMessages nat df port icmpErrIpCksum allocated).foldl send { pair with primary }
  | .release value =>
    (releaseMessages value).foldl send
      { pair with primary := dpRemoveNetworkSnatPort value pair.primary }
  | .resend message =>
    { pair with backup := processPacket .succeed pair.backup (.natCreate message) }

end SyncPair

def syncMachine (hash : PortmapKey → UInt32) : Machine SyncPair SyncEvent where
  init := SyncPair.empty
  step := SyncPair.step hash

/-! ### One event -/

section Events

variable (hash : PortmapKey → UInt32) (pair : SyncPair)

theorem step_allocate_cases (nat : NatRange) (df : DpFlow) (port : Port) (icmpErrIpCksum : UInt16) :
    (∃ primary, Unchanged pair.primary primary ∧
        pair.step hash (.allocate nat df port icmpErrIpCksum) = { pair with primary }) ∨
      ∃ primary message natPort, natCreateOf nat df port icmpErrIpCksum natPort = some message ∧
          Allocates pair.primary primary message.portoverloadKey message.allocation ∧
          pair.step hash (.allocate nat df port icmpErrIpCksum) =
            SyncPair.send { pair with primary } (.natCreate message) := by
  rcases dpAllocateNetworkSnatPort_cases hash .succeed nat df port pair.primary with
    ⟨primary, refused, same⟩ | ⟨primary, srcIp, dstIp, natPort, addresses, given, _, allocates⟩
  · apply Or.inl
    refine ⟨primary, same, ?_⟩
    simp [SyncPair.step, refused, allocationMessages]
  apply Or.inr
  have sent : natCreateOf nat df port icmpErrIpCksum natPort =
        some
          { portmapKey := portmapKeyOf df port.iface.vni srcIp
            portoverloadKey := overloadKeyOf df nat.natIp dstIp natPort
            createdPortId := port.portId
            icmpTypeSrc := df.l4Info.icmpType.toUInt16
            icmpErrIpCksum } := by
    rw [natCreateOf, addresses]
    rfl
  refine ⟨primary, _, natPort, sent, allocates, ?_⟩
  simp [SyncPair.step, given, allocationMessages, sent]

theorem step_release_cases (value : FlowValue) :
    (dpFlowToSnatKeys value = none ∧ pair.step hash (.release value) = pair) ∨
      ∃ message : NatDelete, dpFlowToSnatKeys value =
            some (message.portmapKey, message.portoverloadKey) ∧
          pair.step hash (.release value) =
            SyncPair.send
              { pair with
                primary :=
                  (dpDeleteSnatEntries pair.primary message.portmapKey
                    message.portoverloadKey).decUsedPortCnt
                    value.createdPortId }
              (.natDelete message) := by
  cases keys : dpFlowToSnatKeys value with
  | none =>
    apply Or.inl
    refine ⟨rfl, ?_⟩
    simp [SyncPair.step, releaseMessages, dpRemoveNetworkSnatPort, keys]
  | some pairOfKeys =>
    apply Or.inr
    refine ⟨⟨pairOfKeys.1, pairOfKeys.2⟩, rfl, ?_⟩
    simp [SyncPair.step, releaseMessages, dpRemoveNetworkSnatPort, keys]

end Events

/-! ## Equal tables -/

structure SameTables (backup primary : NatPorts) : Prop where
  portmap : backup.portmap = primary.portmap
  portoverload : ∀ key, backup.portoverload.lookup key = primary.portoverload.lookup key

namespace SameTables

variable {backup : Backup} {primary after : NatPorts}

theorem unchanged {ports : NatPorts} (same : SameTables ports primary)
    (kept : Unchanged primary after) : SameTables ports after where
  portmap := same.portmap.trans kept.portmap.symm
  portoverload := fun key => (same.portoverload key).trans (kept.portoverload key).symm

theorem records (same : SameTables backup.ports primary) {message : NatCreate}
    (records : Records primary after message.portoverloadKey message.allocation) :
    Records backup.ports (dpAllocateSyncSnatPort .succeed backup message).ports
        message.portoverloadKey message.allocation ∧
      (dpAllocateSyncSnatPort .succeed backup message).icmp =
        assign backup.icmp message.portoverloadKey
          ⟨message.icmpTypeSrc, message.icmpErrIpCksum⟩ := by
  apply dpAllocateSyncSnatPort_records
  · exact (same.portoverload _).trans records.free
  · rw [same.portmap]
    exact records.samePort

theorem allocated (same : SameTables backup.ports primary) {message : NatCreate}
    (records : Records primary after message.portoverloadKey message.allocation) :
    SameTables (dpAllocateSyncSnatPort .succeed backup message).ports
      after := by
  obtain ⟨filed, _⟩ := same.records records
  constructor
  · rw [filed.mapped, records.mapped, same.portmap]
  · intro key
    rw [filed.added, records.added, same.portoverload]

theorem released {ports : NatPorts} (same : SameTables ports primary)
    (message : NatDelete) (portId : PortId) :
    SameTables (dpDeleteSnatEntries ports message.portmapKey message.portoverloadKey)
      ((dpDeleteSnatEntries primary message.portmapKey
        message.portoverloadKey).decUsedPortCnt portId) := by
  constructor
  · change
      _ = (dpDeleteSnatEntries primary message.portmapKey message.portoverloadKey).portmap
    rw [dpDeleteSnatEntries_portmap, dpDeleteSnatEntries_portmap, same.portmap]
  intro key
  change
    _ =
      (dpDeleteSnatEntries primary message.portmapKey
        message.portoverloadKey).portoverload.lookup key
  rw [dpDeleteSnatEntries_portoverload, dpDeleteSnatEntries_portoverload, same.portoverload]

end SameTables

/-- Both have the same tables, and the backup knows what each port was given
away for. -/
structure Mirrors (pair : SyncPair) : Prop where
  tables : SameTables pair.backup.ports pair.primary
  described : ∀ key,
    pair.backup.ports.portoverload.lookup key = (pair.live key).map NatCreate.allocation
  icmpType : ∀ key message, pair.live key = some message →
    (pair.backup.icmp key).icmpTypeSrc = message.icmpTypeSrc

theorem mirrors_empty : Mirrors SyncPair.empty where
  tables := ⟨rfl, fun _ => rfl⟩
  described := fun _ => rfl
  icmpType := fun _ _ => nofun

/-- The message describes a port that is still given away. -/
def Repeats (pair : SyncPair) (message : NatCreate) : Prop :=
  ∃ first, pair.live message.portoverloadKey = some first ∧ message.allocation = first.allocation ∧
    message.icmpTypeSrc = first.icmpTypeSrc

def StillMapped (pair : SyncPair) (message : NatCreate) : Prop :=
  ∃ data, pair.primary.portmap message.portmapKey = some data ∧
    data.natPort = message.portoverloadKey.natPort

def Resendable (pair : SyncPair) : SyncEvent → Prop
  | .resend message => Repeats pair message ∧ StillMapped pair message
  | _ => True

namespace Mirrors

variable {pair : SyncPair}

theorem allocated (mirrors : Mirrors pair) {primary : NatPorts} {message : NatCreate}
    (records : Records pair.primary primary message.portoverloadKey message.allocation) :
    Mirrors (SyncPair.send { pair with primary } (.natCreate message)) := by
  obtain ⟨filed, noted⟩ := mirrors.tables.records records
  refine ⟨mirrors.tables.allocated records, ?_, ?_⟩
  · intro key
    change
      (dpAllocateSyncSnatPort .succeed pair.backup message).ports.portoverload.lookup key =
        (assign pair.live message.portoverloadKey (some message) key).map NatCreate.allocation
    rw [filed.added]
    by_cases new : key = message.portoverloadKey
    · rw [if_pos new, new, assign_self]
      rfl
    · rw [if_neg new, assign_of_ne _ _ new]
      exact mirrors.described key
  intro key first live
  change assign pair.live message.portoverloadKey (some message) key = some first at live
  change
    ((dpAllocateSyncSnatPort .succeed pair.backup message).icmp
      key).icmpTypeSrc = first.icmpTypeSrc
  rw [noted]
  by_cases new : key = message.portoverloadKey
  · rw [new, assign_self, Option.some_inj] at live
    rw [new, assign_self, live]
  · rw [assign_of_ne _ _ new] at live ⊢
    exact mirrors.icmpType key first live

theorem released (mirrors : Mirrors pair) (message : NatDelete) (portId : PortId) :
    Mirrors
      (SyncPair.send
        { pair with
          primary :=
            (dpDeleteSnatEntries pair.primary message.portmapKey
              message.portoverloadKey).decUsedPortCnt portId }
        (.natDelete message)) := by
  refine ⟨mirrors.tables.released message portId, ?_, ?_⟩
  · intro key
    change
      (dpDeleteSnatEntries pair.backup.ports message.portmapKey
          message.portoverloadKey).portoverload.lookup key =
        (assign pair.live message.portoverloadKey none key).map NatCreate.allocation
    rw [dpDeleteSnatEntries_portoverload]
    by_cases gone : key = message.portoverloadKey
    · rw [if_pos gone, gone, assign_self]
      rfl
    · rw [if_neg gone, assign_of_ne _ _ gone]
      exact mirrors.described key
  intro key first live
  change assign pair.live message.portoverloadKey none key = some first at live
  by_cases gone : key = message.portoverloadKey
  · rw [gone, assign_self] at live
    cases live
  · rw [assign_of_ne _ _ gone] at live
    exact mirrors.icmpType key first live

theorem resent (mirrors : Mirrors pair) {message : NatCreate}
    (repeats : Repeats pair message) (mapped : StillMapped pair message) :
    dpAllocateSyncSnatPort .succeed pair.backup message = pair.backup := by
  obtain ⟨first, live, _⟩ := repeats
  obtain ⟨data, present, samePort⟩ := mapped
  have held := mirrors.described message.portoverloadKey
  rw [live] at held
  apply dpAllocateSyncSnatPort_repeated _ samePort held
  rw [mirrors.tables.portmap]
  exact present

theorem step (mirrors : Mirrors pair) (hash : PortmapKey → UInt32) {event : SyncEvent}
    (allowed : Resendable pair event) : Mirrors (pair.step hash event) := by
  cases event with
  | allocate nat df port icmpErrIpCksum =>
    rcases step_allocate_cases hash pair nat df port icmpErrIpCksum with
      ⟨primary, same, result⟩ | ⟨primary, message, natPort, _, allocates, result⟩
    · rw [result]
      exact { mirrors with tables := mirrors.tables.unchanged same }
    · rw [result]
      exact mirrors.allocated allocates.toRecords
  | release value =>
    rcases step_release_cases hash pair value with
      ⟨_, result⟩ | ⟨message, _, result⟩
    · rw [result]
      exact mirrors
    · rw [result]
      exact mirrors.released message value.createdPortId
  | resend message =>
    have same := mirrors.resent allowed.1 allowed.2
    change
      Mirrors
        { pair with backup := dpAllocateSyncSnatPort .succeed pair.backup message }
    rw [same]
    exact mirrors

end Mirrors

def sampleNat : NatRange where
  natIp := 0xc0000201
  portRange := ⟨1024, 1025, by decide⟩

def samplePort : Port :=
  { Port.absent with
    portId := 2
    iface := { PortIface.zeroed with vni := 100 } }

def sampleDatagram (server : Ipv4) : DpFlow :=
  { DpFlow.zeroed with
    l3Type := etherTypeIpv4
    l4Type := ipprotoUdp
    src := UnionAddr.zero.setAddr 0x0a000005
    dst := UnionAddr.zero.setAddr server
    l4Info := ⟨53, 4000⟩ }

def sampleSource : PortmapKey where
  vni := 100
  srcIp := .v4 0x0a000005
  ifaceSrcPort := 4000

def sampleEntry (server : Ipv4) : PortoverloadKey where
  natIp := 0xc0000201
  natPort := 1024
  dstIp := server
  dstPort := 53
  l4Type := ipprotoUdp

def sampleCreate (server : Ipv4) : NatCreate where
  portmapKey := sampleSource
  portoverloadKey := sampleEntry server
  createdPortId := 2
  icmpTypeSrc := 0
  icmpErrIpCksum := 0

def sampleAllocate (server : Ipv4) : SyncEvent :=
  .allocate sampleNat (sampleDatagram server) samplePort 0

def sampleFlow (server : Ipv4) : FlowValue :=
  FlowValue.fromSync (sampleEntry server) ⟨sampleSource, 2⟩ ⟨0, 0⟩ 0

theorem natAddresses_sampleDatagram (server : Ipv4) :
    natAddresses (sampleDatagram server) = some (.v4 0x0a000005, server) := by
  simp [natAddresses, sampleDatagram]

/-- The guest has talked to the first servers, and they share its port. -/
structure Talking (pair : SyncPair) (count : Nat) : Prop where
  mirrors : Mirrors pair
  mapped : pair.primary.portmap sampleSource = some ⟨0xc0000201, 1024, count.toUInt16⟩
  live : ∀ index < 2 ^ 32, pair.live (sampleEntry index.toUInt32) =
      if index < count then some (sampleCreate index.toUInt32) else none

theorem sampleEntry_inj {first second : Nat} (small : first < 2 ^ 32) (also : second < 2 ^ 32)
    (same : sampleEntry first.toUInt32 = sampleEntry second.toUInt32) :
    first = second := by
  have servers : first.toUInt32 = second.toUInt32 := congrArg PortoverloadKey.dstIp same
  have numbers := congrArg UInt32.toNat servers
  simp only [Nat.toUInt32, UInt32.toNat_ofNat'] at numbers
  omega

theorem step_sampleAllocate {pair : SyncPair} {server : Ipv4} {flowCnt : UInt16}
    (mapped : pair.primary.portmap sampleSource = some ⟨0xc0000201, 1024, flowCnt⟩)
    (free : pair.primary.portoverload.lookup (sampleEntry server) = none) :
    ∃ primary, pair.step (fun _ => 0) (sampleAllocate server) =
          SyncPair.send { pair with primary } (.natCreate (sampleCreate server)) ∧
        primary.portmap sampleSource = some ⟨0xc0000201, 1024, flowCnt + 1⟩ := by
  have addresses := natAddresses_sampleDatagram server
  have source :
      portmapKeyOf (sampleDatagram server) samplePort.iface.vni (.v4 0x0a000005) = sampleSource :=
    rfl
  have entry :
      { overloadKeyOf (sampleDatagram server) sampleNat.natIp server 0 with
          natPort := 1024 } = sampleEntry server :=
    rfl
  have available : pair.primary.taken (sampleEntry server) = false :=
    (pair.primary.taken_eq_false_iff _).mpr free
  have reused :
      dpUseExistingPortmapEntry .succeed 2 pair.primary sampleSource
          (overloadKeyOf (sampleDatagram server) sampleNat.natIp server 0) =
        ((pair.primary.addOverload (sampleEntry server) ⟨sampleSource, 2⟩).setPortmap sampleSource
          (some ⟨0xc0000201, 1024, flowCnt + 1⟩), .reused 1024) := by
    rw [dpUseExistingPortmapEntry, mapped]
    dsimp only
    rw [entry, available]
    rfl
  refine
    ⟨((pair.primary.addOverload (sampleEntry server) ⟨sampleSource, 2⟩).setPortmap sampleSource
        (some ⟨0xc0000201, 1024, flowCnt + 1⟩)).incUsedPortCnt 2,
      ?_, ?_⟩
  · have sent : natCreateOf sampleNat (sampleDatagram server) samplePort 0 1024 =
          some (sampleCreate server) := by
      have typeless : (sampleDatagram server).l4Info.icmpType.toUInt16 = 0 := by
        change (L4Info.mk 53 4000).icmpType.toUInt16 = 0
        decide
      rw [natCreateOf, addresses, typeless]
      rfl
    simp only [SyncPair.step, sampleAllocate, dpAllocateNetworkSnatPort, addresses, source]
    rw [show samplePort.portId = 2 from rfl, reused]
    simp only [allocationMessages, Option.bind_some, sent]
    rfl
  change
    assign pair.primary.portmap sampleSource
      (some ⟨0xc0000201, 1024, flowCnt + 1⟩) sampleSource = _
  exact assign_self ..

theorem Talking.step {pair : SyncPair} {count : Nat} (talking : Talking pair count)
    (small : count < 2 ^ 32) :
    Talking (pair.step (fun _ => 0) (sampleAllocate count.toUInt32)) (count + 1) := by
  have unused := talking.live count small
  rw [if_neg (Nat.lt_irrefl count)] at unused
  have free : pair.primary.portoverload.lookup (sampleEntry count.toUInt32) =
        none := by
    rw [← talking.mirrors.tables.portoverload, talking.mirrors.described, unused]
    rfl
  obtain ⟨primary, result, mapped⟩ := step_sampleAllocate talking.mapped free
  have mirrors := talking.mirrors.step (fun _ => 0)
    (show Resendable pair (sampleAllocate count.toUInt32) from trivial)
  rw [result] at mirrors ⊢
  have next : count.toUInt16 + 1 = (count + 1).toUInt16 := by
    simp [Nat.toUInt16, UInt16.ofNat_add]
  refine ⟨mirrors, ?_, ?_⟩
  · rw [← next]
    exact mapped
  intro index bound
  change
    assign pair.live (sampleEntry count.toUInt32)
      (some (sampleCreate count.toUInt32)) (sampleEntry index.toUInt32) = _
  by_cases new : index = count
  · rw [new, assign_self, if_pos (Nat.lt_succ_self count)]
  have different : sampleEntry index.toUInt32 ≠ sampleEntry count.toUInt32 :=
    fun same => new (sampleEntry_inj bound small same)
  rw [assign_of_ne _ _ different, talking.live index bound]
  apply if_congr _ rfl rfl
  omega

def sampleDatagrams (count : Nat) : List SyncEvent :=
  (List.range count).map fun index => sampleAllocate index.toUInt32

theorem talking_sampleDatagrams (count : Nat) (small : count < 2 ^ 32) :
    Talking ((syncMachine fun _ => 0).run (sampleDatagrams (count + 1))) (count + 1) := by
  induction count with
  | zero =>
    refine ⟨?_, by decide +kernel, ?_⟩
    · exact mirrors_empty.step (fun _ => 0) (show Resendable _ (sampleAllocate 0) from trivial)
    intro index bound
    change
      assign (fun _ => none) (sampleEntry 0) (some (sampleCreate 0))
        (sampleEntry index.toUInt32) = _
    by_cases first : index = 0
    · rw [first, if_pos Nat.one_pos]
      exact assign_self ..
    · have different : sampleEntry index.toUInt32 ≠ sampleEntry 0 :=
        fun same => first (sampleEntry_inj bound (by decide) same)
      rw [assign_of_ne _ _ different, if_neg (by omega)]
  | succ count ih =>
    have earlier := ih (by omega)
    rw [sampleDatagrams, List.range_succ, List.map_append,
      List.map_singleton, Machine.run_append_singleton]
    exact earlier.step small

def SyncPair.firstGone (pair : SyncPair) : SyncPair :=
  (syncMachine fun _ => 0).step pair (.release (sampleFlow 0))

theorem Talking.firstGone {pair : SyncPair} (talking : Talking pair (65536 + 1)) :
    Mirrors pair.firstGone ∧
      pair.firstGone.primary.portmap sampleSource = none ∧
      pair.firstGone.live (sampleEntry 1) = some (sampleCreate 1) := by
  refine ⟨?_, ?_, ?_⟩
  · exact talking.mirrors.step (fun _ => 0)
      (show Resendable pair (.release (sampleFlow 0)) from trivial)
  · change
      (dpDeleteSnatEntries pair.primary sampleSource (sampleEntry 0)).portmap sampleSource = none
    rw [dpDeleteSnatEntries_portmap, Function.update_self, talking.mapped]
    decide
  have second := talking.live 1 (by decide)
  rw [if_pos (by decide)] at second
  change assign pair.live (sampleEntry 0) none (sampleEntry 1) = _
  rw [assign_of_ne _ _ (by decide)]
  exact second

theorem Talking.diverges {pair : SyncPair} (talking : Talking pair (65536 + 1)) :
    Repeats pair.firstGone (sampleCreate 1) ∧
      ¬ Mirrors
        ((syncMachine fun _ => 0).step pair.firstGone (.resend (sampleCreate 1))) := by
  obtain ⟨mirrors, unmapped, live⟩ := talking.firstGone
  refine ⟨⟨sampleCreate 1, live, rfl, rfl⟩, ?_⟩
  intro still
  have absent : pair.firstGone.backup.ports.portmap sampleSource = none :=
    (congrFun mirrors.tables.portmap sampleSource).trans unmapped
  have same :
      (dpAllocateSyncSnatPort .succeed pair.firstGone.backup
        (sampleCreate 1)).ports.portmap sampleSource = none :=
    (congrFun still.tables.portmap sampleSource).trans unmapped
  rw [@dpAllocateSyncSnatPort_of_unmapped _ (sampleCreate 1) absent] at same
  change
    assign pair.firstGone.backup.ports.portmap sampleSource (some _) sampleSource = none at same
  rw [assign_self] at same
  cases same

end DpService.Flow

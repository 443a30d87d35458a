import DpService.Flow.Mirroring

/-!
# A backup that joins late

A backup that starts to listen when the primary has given ports away already
knows some of them only.  Its tables are right for the ports that it knows, as
long as no port that it does not know comes back to a source that it has mapped,
and a dump tells it the rest.
-/

namespace DpService.Flow

open Foundations Packet Dataplane

variable {data : PortmapData} {event : SyncEvent}

/-! ## Mappings that follow from the entries -/

/-- A source has a mapping exactly if it has entries; the mapping counts them
and has their address and port. -/
structure Tallied (ports : NatPorts) : Prop where
  counted : Counted ports
  sameIp : AgreedOn PortmapData.natIp PortoverloadKey.natIp ports
  samePort : Agreed ports

theorem tallied_empty : Tallied NatPorts.empty where
  counted := accounted_empty.toCounted
  sameIp := fun _ _ _ => nofun
  samePort := fun _ _ _ => nofun

section Tallied

variable {ports before after : NatPorts} {source : PortmapKey}
variable {key : PortoverloadKey} {allocation : Allocation}

theorem Tallied.entry (tallied : Tallied ports) (mapped : ports.portmap source = some data) :
    ∃ key allocation, ports.portoverload.lookup key = some allocation ∧
      allocation.portmapKey = source ∧ data.natIp = key.natIp ∧ data.natPort = key.natPort := by
  have positive : 0 < (ports.ofSource source).card := by
    rw [← tallied.counted.present, mapped]
    rfl
  obtain ⟨key, member⟩ := Finset.card_pos.mp positive
  obtain ⟨allocation, held, own⟩ := mem_ofSource.mp member
  rw [← own] at mapped
  exact
    ⟨key, allocation, held, own, tallied.sameIp key allocation data held mapped,
      tallied.samePort key allocation data held mapped⟩

theorem Tallied.portmap_eq {first second : NatPorts} (one : Tallied first) (two : Tallied second)
    (same : ∀ key, first.portoverload.lookup key = second.portoverload.lookup key) :
    first.portmap = second.portmap := by
  have sources : ∀ source, first.ofSource source = second.ofSource source :=
    fun _ => FiniteTable.keysWhere_congr same
  funext source
  cases left : first.portmap source with
  | none =>
    have absent := one.counted.present source
    rw [left, sources, ← two.counted.present] at absent
    cases right : second.portmap source with
    | none => rfl
    | some data =>
      rw [right] at absent
      exact absurd (absent.mpr rfl) Bool.false_ne_true
  | some data =>
    obtain ⟨key, allocation, held, own, natIp, natPort⟩ := one.entry left
    rw [same] at held
    obtain ⟨other, right⟩ := two.counted.mapping_of_held held
    have count := one.counted.flowCnt source data left
    rw [own] at right
    rw [sources, ← two.counted.flowCnt source other right] at count
    rw [right, Option.some_inj, PortmapData.mk.injEq]
    rw [← own] at right
    exact
      ⟨natIp.trans (two.sameIp key allocation other held right).symm,
        natPort.trans (two.samePort key allocation other held right).symm,
        UInt16.toNat_inj.mp count⟩

theorem Records.tallied (records : Records before after key allocation) (tallied : Tallied before)
    (sameIp : ∀ data, before.portmap allocation.portmapKey = some data → data.natIp = key.natIp)
    (fits : (after.ofSource allocation.portmapKey).card < 65536) :
    Tallied after where
  counted := records.counted tallied.counted fits
  sameIp := records.agreedOn tallied.counted tallied.sameIp (fun _ => rfl) (fun _ _ => rfl) sameIp
  samePort := records.agreed tallied.counted tallied.samePort

theorem Forgets.tallied (forgets : Forgets before after key allocation)
    (tallied : Tallied before) : Tallied after where
  counted := forgets.counted tallied.counted
  sameIp := forgets.agreedOn tallied.sameIp fun _ _ => rfl
  samePort := forgets.agreed tallied.samePort

end Tallied

/-! ## A backup that knows some of the ports -/

/-- The backup knows ports of the primary only, and its tables are right for
them. -/
structure Joining (backup primary : NatPorts) : Prop where
  right : Tallied backup
  whole : Tallied primary
  known : ∀ key allocation, backup.portoverload.lookup key = some allocation →
      primary.portoverload.lookup key = some allocation

def FewFlows (ports : NatPorts) : Prop :=
  ∀ source, (ports.ofSource source).card < 65536

namespace Joining

variable {backup : Backup} {ports primary after : NatPorts}
variable {source : PortmapKey} {key : PortoverloadKey}
variable {allocation : Allocation} {message : NatCreate}

theorem mapping (joining : Joining ports primary) (mapped : ports.portmap source = some data) :
    ∃ own, primary.portmap source = some own ∧ own.natIp = data.natIp ∧
      own.natPort = data.natPort := by
  obtain ⟨key, allocation, held, source, natIp, natPort⟩ := joining.right.entry mapped
  have there := joining.known key allocation held
  obtain ⟨own, stored⟩ := joining.whole.counted.mapping_of_held there
  refine ⟨own, source ▸ stored, ?_, ?_⟩
  · rw [joining.whole.sameIp key allocation own there stored, natIp]
  · rw [joining.whole.samePort key allocation own there stored, natPort]

theorem learn (joining : Joining backup.ports primary) (few : FewFlows primary)
    (held : primary.portoverload.lookup message.portoverloadKey = some message.allocation)
    (unknown : backup.ports.portoverload.lookup message.portoverloadKey = none) :
    Records backup.ports (dpAllocateSyncSnatPort .succeed backup message).ports
        message.portoverloadKey message.allocation ∧
      Joining (dpAllocateSyncSnatPort .succeed backup message).ports
        primary := by
  obtain ⟨own, stored⟩ := joining.whole.counted.mapping_of_held held
  have agrees : ∀ data, backup.ports.portmap message.portmapKey = some data →
        data.natIp = message.portoverloadKey.natIp ∧
          data.natPort = message.portoverloadKey.natPort := by
    intro data mapped
    obtain ⟨other, found, natIp, natPort⟩ := joining.mapping mapped
    have same : other = own := Option.some_inj.mp (found.symm.trans stored)
    rw [← natIp, ← natPort, same]
    exact ⟨joining.whole.sameIp _ _ own held stored, joining.whole.samePort _ _ own held stored⟩
  obtain ⟨records, _⟩ :=
    dpAllocateSyncSnatPort_records unknown fun data mapped => (agrees data mapped).2
  have known : ∀ key allocation,
      (dpAllocateSyncSnatPort .succeed backup
          message).ports.portoverload.lookup key = some allocation →
        primary.portoverload.lookup key = some allocation := by
    intro key allocation found
    rw [records.added] at found
    split at found
    · rename_i new
      rw [new, held, found]
    · exact joining.known key allocation found
  have subset :
      (dpAllocateSyncSnatPort .succeed backup message).ports.ofSource
          message.portmapKey ⊆ primary.ofSource message.portmapKey := by
    intro key member
    obtain ⟨allocation, found, own⟩ := mem_ofSource.mp member
    exact mem_ofSource.mpr ⟨allocation, known key allocation found, own⟩
  have fits := Nat.lt_of_le_of_lt (Finset.card_le_card subset) (few message.portmapKey)
  have tallied := records.tallied joining.right (fun data mapped => (agrees data mapped).1) fits
  exact ⟨records, tallied, joining.whole, known⟩

/-- A message about a port of the primary leaves the backup with that port, and
with every other port that it knew. -/
theorem resent (joining : Joining backup.ports primary) (few : FewFlows primary)
    (held : primary.portoverload.lookup message.portoverloadKey = some message.allocation) :
    Joining (dpAllocateSyncSnatPort .succeed backup message).ports primary ∧ ∀ key,
        (dpAllocateSyncSnatPort .succeed backup message).ports.portoverload.lookup key =
          if key = message.portoverloadKey then some message.allocation
          else backup.ports.portoverload.lookup key := by
  cases found : backup.ports.portoverload.lookup message.portoverloadKey with
  | none =>
    obtain ⟨records, joined⟩ := joining.learn few held found
    exact ⟨joined, records.added⟩
  | some allocation => ?_
  have same : allocation = message.allocation := by
    rw [← Option.some_inj, ← joining.known _ allocation found, held]
  subst same
  obtain ⟨data, mapped⟩ :=
    joining.right.counted.mapping_of_held found
  have ignored :=
    dpAllocateSyncSnatPort_repeated mapped (joining.right.samePort _ _ data found mapped) found
  rw [ignored]
  refine ⟨joining, ?_⟩
  intro key
  split
  · rename_i own
    rw [own, found]
  · rfl

end Joining

/-! ## One event -/

/-- What is asked of the primary: a source that has a mapping keeps its NAT
address and never has too many flows, and what is taken back is a port that was
given away. -/
def Steady (hash : PortmapKey → UInt32) (pair : SyncPair) : SyncEvent → Prop
  | .allocate nat df port icmpErrIpCksum =>
    (∀ srcIp dstIp data, natAddresses df = some (srcIp, dstIp) →
        pair.primary.portmap (portmapKeyOf df port.iface.vni srcIp) = some data →
          data.natIp = nat.natIp) ∧
      FewFlows (pair.step hash (.allocate nat df port icmpErrIpCksum)).primary
  | .release value =>
    ∀ portmapKey key, dpFlowToSnatKeys value = some (portmapKey, key) →
      ∃ allocation, pair.primary.portoverload.lookup key = some allocation ∧
        allocation.portmapKey = portmapKey
  | .resend _ => False

/-- What is asked of a port that is taken back while the backup does not know
everything yet: the backup knows it, or has not mapped its source. -/
def Understood (pair : SyncPair) : SyncEvent → Prop
  | .release value =>
    ∀ portmapKey key, dpFlowToSnatKeys value = some (portmapKey, key) →
      (pair.backup.ports.portoverload.lookup key).isSome = true ∨
        pair.backup.ports.portmap portmapKey = none
  | _ => True

theorem SameTables.tallied {first second : NatPorts} (same : SameTables first second)
    (tallied : Tallied second) : Tallied first := by
  have sources : ∀ source, first.ofSource source = second.ofSource source :=
    fun _ => FiniteTable.keysWhere_congr same.portoverload
  refine ⟨⟨?_, ?_⟩, ?_, ?_⟩
  · intro source
    rw [same.portmap, sources]
    exact tallied.counted.present source
  · intro source data
    rw [same.portmap, sources]
    exact tallied.counted.flowCnt source data
  · intro key allocation data
    rw [same.portmap, same.portoverload]
    exact tallied.sameIp key allocation data
  · intro key allocation data
    rw [same.portmap, same.portoverload]
    exact tallied.samePort key allocation data

/-- The tables of the primary are right, and no mapping is close to its
limit. -/
structure Healthy (primary : NatPorts) : Prop where
  tallied : Tallied primary
  few : FewFlows primary

section Events

variable {hash : PortmapKey → UInt32} {pair : SyncPair}

theorem Steady.sameIp {nat : NatRange} {df : DpFlow} {port : Port} {icmpErrIpCksum natPort : UInt16}
    (steady : Steady hash pair (.allocate nat df port icmpErrIpCksum)) {message : NatCreate}
    (sent : natCreateOf nat df port icmpErrIpCksum natPort = some message)
    (mapped : pair.primary.portmap message.portmapKey = some data) :
    data.natIp = message.portoverloadKey.natIp := by
  rw [natCreateOf, Option.map_eq_some_iff] at sent
  obtain ⟨⟨srcIp, dstIp⟩, addresses, built⟩ := sent
  rw [← built] at mapped ⊢
  exact steady.1 srcIp dstIp data addresses mapped

theorem Healthy.unchanged {before after : NatPorts} (healthy : Healthy before)
    (same : Unchanged before after) : Healthy after where
  tallied := SameTables.tallied ⟨same.portmap, same.portoverload⟩ healthy.tallied
  few := by
    intro source
    have sources : after.ofSource source = before.ofSource source :=
      FiniteTable.keysWhere_congr same.portoverload
    rw [sources]
    exact healthy.few source

theorem Healthy.forget {before after : NatPorts} {key : PortoverloadKey} {allocation : Allocation}
    (healthy : Healthy before) (forgets : Forgets before after key allocation) : Healthy after where
  tallied := forgets.tallied healthy.tallied
  few := by
    intro source
    have fewer := forgets.card_ofSource source
    have few := healthy.few source
    omega

theorem forgets_of_steady {value : FlowValue} (steady : Steady hash pair (.release value))
    {message : NatDelete}
    (keys : dpFlowToSnatKeys value = some (message.portmapKey, message.portoverloadKey)) :
    ∃ allocation, allocation.portmapKey = message.portmapKey ∧
      pair.primary.portoverload.lookup message.portoverloadKey = some allocation ∧
      Forgets pair.primary
        ((dpDeleteSnatEntries pair.primary message.portmapKey
          message.portoverloadKey).decUsedPortCnt value.createdPortId)
        message.portoverloadKey allocation := by
  obtain ⟨allocation, held, own⟩ := steady _ _ keys
  refine ⟨allocation, own, held, ?_⟩
  rw [← own]
  have forgets := dpDeleteSnatEntries_forgets held
  exact ⟨held, forgets.removed, forgets.mapped⟩

theorem Healthy.step (healthy : Healthy pair.primary) (steady : Steady hash pair event) :
    Healthy (pair.step hash event).primary := by
  cases event with
  | allocate nat df port icmpErrIpCksum =>
    have few := steady.2
    rcases step_allocate_cases hash pair nat df port icmpErrIpCksum with
      ⟨primary, same, result⟩ | ⟨primary, message, natPort, sent, allocates, result⟩
    · rw [result]
      exact healthy.unchanged same
    · rw [result] at few ⊢
      exact ⟨allocates.toRecords.tallied healthy.tallied (fun _ => steady.sameIp sent) (few _), few⟩
  | release value =>
    rcases step_release_cases hash pair value with
      ⟨_, result⟩ | ⟨message, keys, result⟩
    · rw [result]
      exact healthy
    · obtain ⟨allocation, _, _, forgets⟩ := forgets_of_steady steady keys
      rw [result]
      exact healthy.forget forgets
  | resend message => exact absurd steady id

theorem Joining.setPrimary {ports primary after : NatPorts} (joining : Joining ports primary)
    (whole : Tallied after)
    (kept : ∀ key allocation, primary.portoverload.lookup key = some allocation →
        after.portoverload.lookup key = some allocation) :
    Joining ports after where
  right := joining.right
  whole := whole
  known := fun key allocation held => kept key allocation (joining.known key allocation held)

theorem Joining.release {ports primary after : NatPorts} (joining : Joining ports primary)
    (whole : Tallied after) {message : NatDelete} {allocation : Allocation}
    (own : allocation.portmapKey = message.portmapKey)
    (forgets : Forgets primary after message.portoverloadKey allocation)
    (understood : (ports.portoverload.lookup message.portoverloadKey).isSome = true ∨
        ports.portmap message.portmapKey = none) :
    Joining
      (dpDeleteSnatEntries ports message.portmapKey message.portoverloadKey)
      after := by
  have known : ∀ key entry,
      (dpDeleteSnatEntries ports message.portmapKey
          message.portoverloadKey).portoverload.lookup key = some entry →
        after.portoverload.lookup key = some entry := by
    intro key entry found
    rw [dpDeleteSnatEntries_portoverload] at found
    rw [forgets.removed]
    split at found
    · cases found
    · rename_i other
      rw [if_neg other]
      exact joining.known key entry found
  refine ⟨?_, whole, known⟩
  rcases understood with there | unmapped
  · obtain ⟨entry, found⟩ := Option.isSome_iff_exists.mp there
    have same : entry = allocation := by
      rw [← Option.some_inj, ← joining.known _ entry found, forgets.held]
    rw [same] at found
    rw [← own]
    exact (dpDeleteSnatEntries_forgets found).tallied joining.right
  -- nothing is known about the source, so nothing changes
  have absent : ports.portoverload.lookup message.portoverloadKey = none := by
    cases found : ports.portoverload.lookup message.portoverloadKey with
    | none => rfl
    | some entry => ?_
    have same : entry = allocation := by
      rw [← Option.some_inj, ← joining.known _ entry found, forgets.held]
    obtain ⟨data, mapped⟩ := joining.right.counted.mapping_of_held found
    rw [same, own, unmapped] at mapped
    cases mapped
  apply SameTables.tallied _ joining.right
  constructor
  · rw [dpDeleteSnatEntries_portmap, unmapped]
    change Function.update ports.portmap message.portmapKey none = _
    rw [← unmapped, Function.update_eq_self]
  intro key
  rw [dpDeleteSnatEntries_portoverload]
  split
  · rename_i same
    rw [same, absent]
  · rfl

theorem Joining.step (joining : Joining pair.backup.ports pair.primary)
    (few : FewFlows pair.primary)
    (steady : Steady hash pair event) (understood : Understood pair event) :
    Joining (pair.step hash event).backup.ports (pair.step hash event).primary := by
  have healthy : Healthy (pair.step hash event).primary := Healthy.step ⟨joining.whole, few⟩ steady
  cases event with
  | allocate nat df port icmpErrIpCksum =>
    rcases step_allocate_cases hash pair nat df port icmpErrIpCksum with
      ⟨primary, same, result⟩ | ⟨primary, message, natPort, sent, allocates, result⟩
    · rw [result] at healthy ⊢
      refine joining.setPrimary healthy.tallied ?_
      intro key allocation held
      rw [same.portoverload]
      exact held
    rw [result] at healthy ⊢
    have grown : Joining pair.backup.ports primary := by
      refine joining.setPrimary healthy.tallied ?_
      intro key allocation held
      rw [allocates.added]
      split
      · rename_i new
        rw [new, allocates.free] at held
        cases held
      · exact held
    have given : primary.portoverload.lookup message.portoverloadKey =
          some message.allocation := by
      rw [allocates.added, if_pos rfl]
    exact (grown.resent healthy.few given).1
  | release value =>
    rcases step_release_cases hash pair value with
      ⟨_, result⟩ | ⟨message, keys, result⟩
    · rw [result]
      exact joining
    obtain ⟨allocation, own, _, forgets⟩ :=
      forgets_of_steady steady keys
    rw [result] at healthy ⊢
    exact joining.release healthy.tallied own forgets (understood _ _ keys)
  | resend message => exact absurd steady id

end Events

/-! ## The dump -/

/-- The messages of a dump: they describe ports that are given away, and leave
none of them out.  Their order is that of the flow table. -/
structure Complete (primary : NatPorts) (dump : List NatCreate) : Prop where
  held : ∀ message ∈ dump,
    primary.portoverload.lookup message.portoverloadKey = some message.allocation
  whole : ∀ key allocation, primary.portoverload.lookup key = some allocation →
      ∃ message ∈ dump, message.portoverloadKey = key

section Dump

variable {hash : PortmapKey → UInt32} {pair : SyncPair}

theorem Joining.dumped {dump : List NatCreate} (joining : Joining pair.backup.ports pair.primary)
    (few : FewFlows pair.primary)
    (held : ∀ message ∈ dump,
      pair.primary.portoverload.lookup message.portoverloadKey = some message.allocation) :
    ((syncMachine hash).runFrom pair (dump.map .resend)).primary = pair.primary ∧
      Joining ((syncMachine hash).runFrom pair (dump.map .resend)).backup.ports pair.primary ∧
      ∀ key, (∃ message ∈ dump, message.portoverloadKey = key) ∨
            (pair.backup.ports.portoverload.lookup key).isSome = true →
          (((syncMachine hash).runFrom pair (dump.map .resend)).backup.ports.portoverload.lookup
            key).isSome = true := by
  induction dump generalizing pair with
  | nil =>
    refine ⟨rfl, joining, ?_⟩
    rintro key (⟨message, member, _⟩ | known)
    · cases member
    · exact known
  | cons first rest ih =>
    have own := held first List.mem_cons_self
    obtain ⟨joined, added⟩ := joining.resent few own
    have later : ∀ message ∈ rest, pair.primary.portoverload.lookup message.portoverloadKey =
          some message.allocation :=
      fun message member => held message (List.mem_cons_of_mem _ member)
    obtain ⟨primary, final, known⟩ :=
      @ih (pair.step hash (.resend first)) joined few later
    refine ⟨primary, final, ?_⟩
    intro key either
    apply known key
    change _ ∨
      ((dpAllocateSyncSnatPort .succeed pair.backup
        first).ports.portoverload.lookup key).isSome = true
    rw [added]
    rcases either with ⟨message, member, same⟩ | before
    · rcases List.mem_cons.mp member with head | tail
      · apply Or.inr
        rw [if_pos (same.symm.trans (congrArg _ head))]
        rfl
      · exact Or.inl ⟨message, tail, same⟩
    apply Or.inr
    split
    · rfl
    · exact before

theorem Joining.sameTables_of_dump
    {dump : List NatCreate} (joining : Joining pair.backup.ports pair.primary)
    (few : FewFlows pair.primary) (complete : Complete pair.primary dump) :
    SameTables
      ((syncMachine hash).runFrom pair (dump.map .resend)).backup.ports
      ((syncMachine hash).runFrom pair (dump.map .resend)).primary := by
  obtain ⟨primary, joined, known⟩ := @Joining.dumped hash pair dump joining few complete.held
  rw [primary]
  have same : ∀ key,
      ((syncMachine hash).runFrom pair (dump.map .resend)).backup.ports.portoverload.lookup key =
        pair.primary.portoverload.lookup key := by
    intro key
    cases held : pair.primary.portoverload.lookup key with
    | none =>
      rw [← Option.not_isSome_iff_eq_none]
      intro there
      obtain ⟨entry, found⟩ := Option.isSome_iff_exists.mp there
      rw [joined.known key entry found] at held
      cases held
    | some allocation =>
      have there := known key (Or.inl (complete.whole key allocation held))
      obtain ⟨entry, found⟩ := Option.isSome_iff_exists.mp there
      rw [found, ← held, joined.known key entry found]
  exact ⟨joined.right.portmap_eq joined.whole same, same⟩

theorem SameTables.step (same : SameTables pair.backup.ports pair.primary)
    (once : ∀ message, event ≠ .resend message) :
    SameTables (pair.step hash event).backup.ports (pair.step hash event).primary := by
  cases event with
  | allocate nat df port icmpErrIpCksum =>
    rcases step_allocate_cases hash pair nat df port icmpErrIpCksum with
      ⟨primary, kept, result⟩ | ⟨primary, message, natPort, _, allocates, result⟩
    · rw [result]
      exact same.unchanged kept
    · rw [result]
      exact same.allocated allocates.toRecords
  | release value =>
    rcases step_release_cases hash pair value with
      ⟨_, result⟩ | ⟨message, _, result⟩
    · rw [result]
      exact same
    · rw [result]
      exact same.released message value.createdPortId
  | resend message => exact absurd rfl (once message)

end Dump

/-! ## Whole runs -/

def SyncPair.join (pair : SyncPair) : SyncPair :=
  { pair with backup := Backup.empty }

/-- What is asked of the events before the dump. -/
def Joinable (hash : PortmapKey → UInt32) (pair : SyncPair) (event : SyncEvent) : Prop :=
  Steady hash pair event ∧ Understood pair event

section Runs

variable (hash : PortmapKey → UInt32)

theorem healthy_of_history {history : List SyncEvent}
    (steady : (syncMachine hash).Along (Steady hash) SyncPair.empty history) :
    Healthy ((syncMachine hash).run history).primary := by
  have preserved : ∀ pair event, Steady hash pair event →
      Healthy pair.primary → Healthy (pair.step hash event).primary :=
    fun _ _ steady healthy => healthy.step steady
  exact
    @Machine.runFrom_invariant_along _ _ (syncMachine hash)
      (fun pair => Healthy pair.primary) (Steady hash) preserved _ history
      steady ⟨tallied_empty, fun _ => Nat.succ_pos 65535⟩

theorem joining_of_run {pair : SyncPair} (healthy : Healthy pair.primary) {events : List SyncEvent}
    (joinable : (syncMachine hash).Along (Joinable hash) pair.join events) :
    Joining ((syncMachine hash).runFrom pair.join events).backup.ports
        ((syncMachine hash).runFrom pair.join events).primary ∧
      FewFlows ((syncMachine hash).runFrom pair.join events).primary := by
  have preserved : ∀ state event, Joinable hash state event →
      Joining state.backup.ports state.primary ∧ FewFlows state.primary →
        Joining (state.step hash event).backup.ports (state.step hash event).primary ∧
          FewFlows (state.step hash event).primary := by
    rintro state event ⟨steady, understood⟩ ⟨joining, few⟩
    exact ⟨joining.step few steady understood, (Healthy.step ⟨joining.whole, few⟩ steady).few⟩
  have start : Joining pair.join.backup.ports pair.join.primary :=
    ⟨tallied_empty, healthy.tallied, fun _ _ => nofun⟩
  exact
    @Machine.runFrom_invariant_along _ _ (syncMachine hash)
      (fun state => Joining state.backup.ports state.primary ∧ FewFlows state.primary)
      (Joinable hash) preserved _ events joinable ⟨start, healthy.few⟩

end Runs

/-! ### Checking a run -/

def checkSteady (hash : PortmapKey → UInt32) (pair : SyncPair) : SyncEvent → Bool
  | .allocate nat df port icmpErrIpCksum =>
    ((natAddresses df).all fun addresses =>
        (pair.primary.portmap (portmapKeyOf df port.iface.vni addresses.1)).all fun data =>
          data.natIp == nat.natIp) &&
      decide
        ((pair.step hash
            (.allocate nat df port icmpErrIpCksum)).primary.portoverload.entries.length <
          65536)
  | .release value =>
    (dpFlowToSnatKeys value).all fun keys =>
      (pair.primary.portoverload.lookup keys.2).any fun allocation =>
        allocation.portmapKey == keys.1
  | .resend _ => false

def checkUnderstood (pair : SyncPair) : SyncEvent → Bool
  | .release value =>
    (dpFlowToSnatKeys value).all fun keys =>
      (pair.backup.ports.portoverload.lookup keys.2).isSome ||
        (pair.backup.ports.portmap keys.1).isNone
  | _ => true

def checkComplete (primary : NatPorts) (dump : List NatCreate) : Bool :=
  (dump.all fun message =>
      primary.portoverload.lookup message.portoverloadKey == some message.allocation) &&
    primary.portoverload.entries.all fun entry =>
      dump.any fun message => message.portoverloadKey == entry.1

section Checks

variable {hash : PortmapKey → UInt32}

theorem steady_of_check (pair : SyncPair) (event : SyncEvent)
    (checked : checkSteady hash pair event = true) :
    Steady hash pair event := by
  cases event with
  | allocate nat df port icmpErrIpCksum =>
    rw [checkSteady, Bool.and_eq_true] at checked
    obtain ⟨same, few⟩ := checked
    refine ⟨?_, ?_⟩
    · intro srcIp dstIp data addresses mapped
      rw [addresses, Option.all_some, mapped, Option.all_some] at same
      exact eq_of_beq same
    · intro source
      exact Nat.lt_of_le_of_lt (FiniteTable.card_keysWhere_le _ _) (of_decide_eq_true few)
  | release value =>
    intro portmapKey key keys
    rw [checkSteady, keys, Option.all_some, Option.any_eq_true_iff_get] at checked
    obtain ⟨there, own⟩ := checked
    exact ⟨_, (Option.some_get there).symm, eq_of_beq own⟩
  | resend message => cases checked

theorem understood_of_check (pair : SyncPair) (event : SyncEvent)
    (checked : checkUnderstood pair event = true) :
    Understood pair event := by
  cases event with
  | release value =>
    intro portmapKey key keys
    rw [checkUnderstood, keys, Option.all_some, Bool.or_eq_true,
      Option.isNone_iff_eq_none] at checked
    exact checked
  | allocate nat df port icmpErrIpCksum => trivial
  | resend message => trivial

theorem complete_of_check {primary : NatPorts} {dump : List NatCreate}
    (checked : checkComplete primary dump = true) :
    Complete primary dump := by
  rw [checkComplete, Bool.and_eq_true, List.all_eq_true, List.all_eq_true] at checked
  refine ⟨fun message member => eq_of_beq (checked.1 message member), ?_⟩
  intro key allocation held
  have covered := checked.2 ⟨key, allocation⟩ (FiniteTable.mem_entries_of_lookup _ held)
  rw [List.any_eq_true] at covered
  obtain ⟨message, member, same⟩ := covered
  exact ⟨message, member, eq_of_beq same⟩

theorem joinable_of_check {pair : SyncPair} {events : List SyncEvent}
    (checked :
      (syncMachine hash).checkAlong
        (fun pair event => checkSteady hash pair event && checkUnderstood pair event)
        pair events = true) :
    (syncMachine hash).Along (Joinable hash) pair events := by
  refine Machine.along_of_check (fun pair event holds => ?_) checked
  rw [Bool.and_eq_true] at holds
  exact ⟨steady_of_check pair event holds.1, understood_of_check pair event holds.2⟩

end Checks

end DpService.Flow

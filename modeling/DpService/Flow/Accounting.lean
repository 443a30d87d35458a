import DpService.Flow.Sharing

/-!
# The books of NAT ports

A mapping counts the flows of its source and an interface counts the ports
that were given to it.  Both counters have sixteen bits.  As long as they do
not wrap, giving a port away and taking it back keep them equal to the number
of entries that they stand for.
-/

namespace DpService.Flow

open Foundations Packet Dataplane

namespace NatPorts

variable (ports : NatPorts)

def ofSource (key : PortmapKey) : Finset PortoverloadKey :=
  ports.portoverload.keysWhere fun allocation => allocation.portmapKey = key

def ofInterface (portId : PortId) : Finset PortoverloadKey :=
  ports.portoverload.keysWhere fun allocation => allocation.portId = portId

end NatPorts

structure Counted (ports : NatPorts) : Prop where
  present : ∀ key, (ports.portmap key).isSome = true ↔ 0 < (ports.ofSource key).card
  flowCnt : ∀ key data, ports.portmap key = some data →
    data.flowCnt.toNat = (ports.ofSource key).card

/-- Every counter says how many entries there are, and there is a mapping
exactly for the sources that have one. -/
structure Accounted (ports : NatPorts) : Prop extends Counted ports where
  usedPortCnt : ∀ portId, (ports.usedPortCnt portId).toNat = (ports.ofInterface portId).card

structure Countable (ports : NatPorts) : Prop where
  sources : ∀ key, (ports.ofSource key).card < 65536
  interfaces : ∀ portId, (ports.ofInterface portId).card < 65536

theorem accounted_empty : Accounted NatPorts.empty where
  present := fun _ => ⟨nofun, nofun⟩
  flowCnt := fun _ _ => nofun
  usedPortCnt := fun _ => rfl

/-! ## Entries come and go -/

section Counters

variable {before after : NatPorts} {key : PortoverloadKey}
variable {allocation : Allocation} {portId : PortId}

theorem Unchanged.accounted (same : Unchanged before after) (accounted : Accounted before) :
    Accounted after := by
  have sources : ∀ source, after.ofSource source = before.ofSource source :=
    fun _ => FiniteTable.keysWhere_congr same.portoverload
  have interfaces : ∀ id, after.ofInterface id = before.ofInterface id :=
    fun _ => FiniteTable.keysWhere_congr same.portoverload
  refine ⟨⟨?_, ?_⟩, ?_⟩
  · intro source
    rw [same.portmap, sources]
    exact accounted.present source
  · intro source data
    rw [same.portmap, sources]
    exact accounted.flowCnt source data
  · intro id
    rw [same.used, interfaces]
    exact accounted.usedPortCnt id

theorem toNat_add_one_of_lt {count : UInt16} (fits : count.toNat + 1 < 65536) :
    (count + 1).toNat = count.toNat + 1 := by
  rw [UInt16.toNat_add]
  exact Nat.mod_eq_of_lt fits

theorem toNat_sub_one_of_pos {count : UInt16} (positive : 0 < count.toNat) :
    (count - 1).toNat = count.toNat - 1 := by
  refine UInt16.toNat_sub_of_le count 1 ?_
  rw [UInt16.le_iff_toNat_le]
  exact positive

theorem mem_ofSource {ports : NatPorts} {source : PortmapKey} : key ∈ ports.ofSource source ↔
      ∃ allocation, ports.portoverload.lookup key = some allocation ∧
        allocation.portmapKey = source :=
  FiniteTable.mem_keysWhere _ _ key

theorem Counted.mapping_of_held {ports : NatPorts} (counted : Counted ports)
    (held : ports.portoverload.lookup key = some allocation) :
    ∃ data, ports.portmap allocation.portmapKey = some data := by
  apply Option.isSome_iff_exists.mp
  rw [counted.present, Finset.card_pos]
  exact ⟨key, mem_ofSource.mpr ⟨allocation, held, rfl⟩⟩

/-! ### Giving a port away -/

theorem Records.card_ofSource
    (records : Records before after key allocation) (source : PortmapKey) :
    (after.ofSource source).card =
      (before.ofSource source).card +
        if allocation.portmapKey = source then 1 else 0 :=
  FiniteTable.card_keysWhere_of_insert records.free records.added

theorem Allocates.card_ofInterface
    (allocates : Allocates before after key allocation) (id : PortId) :
    (after.ofInterface id).card =
      (before.ofInterface id).card +
        if allocation.portId = id then 1 else 0 :=
  FiniteTable.card_keysWhere_of_insert allocates.free allocates.added

theorem Records.portmap_other (records : Records before after key allocation)
    {source : PortmapKey} (other : allocation.portmapKey ≠ source) :
    after.portmap source = before.portmap source := by
  rw [records.mapped, Function.update_of_ne other.symm]

theorem Records.portmap_self (records : Records before after key allocation) :
    after.portmap allocation.portmapKey =
      some
        (countedOnce (before.portmap allocation.portmapKey) key.natIp key.natPort) := by
  rw [records.mapped, Function.update_self]

theorem countedOnce_flowCnt (counted : Counted before) (source : PortmapKey) (natIp : Ipv4)
    (natPort : UInt16) (fits : (before.ofSource source).card + 1 < 65536) :
    (countedOnce (before.portmap source) natIp natPort).flowCnt.toNat =
      (before.ofSource source).card + 1 := by
  cases held : before.portmap source with
  | none =>
    have absent : ¬ 0 < (before.ofSource source).card := by
      rw [← counted.present, held]
      exact Bool.false_ne_true
    rw [Nat.eq_zero_of_not_pos absent]
    rfl
  | some data =>
    have count := counted.flowCnt source data held
    rw [← count] at fits ⊢
    exact toNat_add_one_of_lt fits

theorem Records.counted (records : Records before after key allocation) (counted : Counted before)
    (fits : (after.ofSource allocation.portmapKey).card < 65536) :
    Counted after := by
  constructor
  · intro source
    rw [records.card_ofSource]
    by_cases own : allocation.portmapKey = source
    · rw [if_pos own, ← own, records.portmap_self]
      exact ⟨fun _ => Nat.succ_pos _, fun _ => rfl⟩
    · rw [if_neg own, Nat.add_zero, records.portmap_other own]
      exact counted.present source
  intro source data held
  rw [records.card_ofSource]
  by_cases own : allocation.portmapKey = source
  · rw [records.card_ofSource, if_pos rfl] at fits
    rw [if_pos own, ← own]
    rw [← own, records.portmap_self, Option.some_inj] at held
    rw [← held]
    exact countedOnce_flowCnt counted allocation.portmapKey key.natIp key.natPort fits
  · rw [if_neg own, Nat.add_zero]
    rw [records.portmap_other own] at held
    exact counted.flowCnt source data held

theorem Allocates.accounted (allocates : Allocates before after key allocation)
    (accounted : Accounted before) (countable : Countable after) :
    Accounted after := by
  have counted := allocates.toRecords.counted accounted.toCounted (countable.sources _)
  refine ⟨counted, ?_⟩
  intro id
  have fits := countable.interfaces id
  rw [allocates.card_ofInterface] at fits ⊢
  rw [allocates.used]
  by_cases own : allocation.portId = id
  · rw [if_pos own] at fits ⊢
    rw [← own] at fits ⊢
    rw [← accounted.usedPortCnt] at fits ⊢
    rw [Function.update_self]
    exact toNat_add_one_of_lt fits
  · rw [if_neg own, Function.update_of_ne (Ne.symm own)]
    exact accounted.usedPortCnt id

/-! ### Taking a port back -/

theorem dpDeleteSnatEntries_forgets (held : before.portoverload.lookup key = some allocation) :
    Forgets before (dpDeleteSnatEntries before allocation.portmapKey key) key allocation where
  held := held
  removed := dpDeleteSnatEntries_portoverload before allocation.portmapKey key
  mapped := dpDeleteSnatEntries_portmap before allocation.portmapKey key

theorem Forgets.card_ofSource
    (forgets : Forgets before after key allocation) (source : PortmapKey) :
    (after.ofSource source).card + (if allocation.portmapKey = source then 1 else 0) =
      (before.ofSource source).card :=
  FiniteTable.card_keysWhere_of_erase forgets.held forgets.removed

theorem Returns.card_ofInterface
    (returns : Returns before after key allocation portId) (id : PortId) :
    (after.ofInterface id).card + (if allocation.portId = id then 1 else 0) =
      (before.ofInterface id).card :=
  FiniteTable.card_keysWhere_of_erase returns.held returns.removed

theorem uncounted_of_pos
    {data : PortmapData} {left : Nat} (counted : data.flowCnt.toNat = left + 1) :
    (left = 0 ∧ uncounted data = none) ∨
      (0 < left ∧ ∃ rest, uncounted data = some rest ∧ rest.flowCnt.toNat = left) := by
  have less : (data.flowCnt - 1).toNat = left := by
    rw [toNat_sub_one_of_pos (by omega), counted, Nat.add_sub_cancel]
  rw [uncounted]
  by_cases last : data.flowCnt - 1 = 0
  · rw [if_pos last]
    rw [last] at less
    exact Or.inl ⟨less.symm, rfl⟩
  rw [if_neg last]
  refine Or.inr ⟨?_, _, rfl, less⟩
  apply Nat.pos_of_ne_zero
  intro none
  exact last (UInt16.toNat_inj.mp (less.trans none))

theorem Forgets.mapping (forgets : Forgets before after key allocation) (counted : Counted before) :
    ((after.ofSource allocation.portmapKey).card = 0 ∧ after.portmap allocation.portmapKey = none) ∨
      (0 < (after.ofSource allocation.portmapKey).card ∧
        ∃ rest, after.portmap allocation.portmapKey = some rest ∧ rest.flowCnt.toNat =
            (after.ofSource allocation.portmapKey).card) := by
  have fewer := forgets.card_ofSource allocation.portmapKey
  rw [if_pos rfl] at fewer
  obtain ⟨data, held⟩ := counted.mapping_of_held forgets.held
  have count := counted.flowCnt _ data held
  rw [← fewer] at count
  rw [forgets.mapped, Function.update_self, held, Option.bind_some]
  exact uncounted_of_pos count

theorem Forgets.counted (forgets : Forgets before after key allocation) (counted : Counted before) :
    Counted after := by
  have others : ∀ source, allocation.portmapKey ≠ source →
      after.portmap source = before.portmap source ∧
        (after.ofSource source).card = (before.ofSource source).card := by
    intro source other
    have kept := forgets.card_ofSource source
    rw [if_neg other, Nat.add_zero] at kept
    rw [forgets.mapped, Function.update_of_ne other.symm]
    exact ⟨rfl, kept⟩
  constructor
  · intro source
    by_cases own : allocation.portmapKey = source
    · rw [← own]
      rcases forgets.mapping counted with
        ⟨none, gone⟩ | ⟨some, rest, held, _⟩
      · rw [none, gone]
        exact ⟨nofun, nofun⟩
      · rw [held]
        exact ⟨fun _ => some, fun _ => rfl⟩
    · rw [(others source own).1, (others source own).2]
      exact counted.present source
  intro source data stored
  by_cases own : allocation.portmapKey = source
  · rw [← own] at stored ⊢
    rcases forgets.mapping counted with
      ⟨_, gone⟩ | ⟨_, rest, held, count⟩
    · rw [gone] at stored
      cases stored
    · rw [held, Option.some_inj] at stored
      rw [← stored]
      exact count
  · rw [(others source own).1] at stored
    rw [(others source own).2]
    exact counted.flowCnt source data stored

theorem Returns.accounted (returns : Returns before after key allocation portId)
    (charged : allocation.portId = portId) (accounted : Accounted before) :
    Accounted after := by
  have kept := returns.toForgets.counted accounted.toCounted
  refine ⟨kept, ?_⟩
  intro id
  have fewer := returns.card_ofInterface id
  have counted := accounted.usedPortCnt id
  rw [returns.used]
  by_cases own : allocation.portId = id
  · rw [if_pos own] at fewer
    rw [← charged, own, Function.update_self, toNat_sub_one_of_pos (by omega)]
    omega
  · rw [if_neg own, Nat.add_zero] at fewer
    rw [Function.update_of_ne (charged ▸ Ne.symm own), fewer]
    exact counted

/-! ## Mappings and their entries -/

/-- An entry has a part of the mapping that it was made for. -/
def AgreedOn {Part : Type} (field : PortmapData → Part) (part : PortoverloadKey → Part)
    (ports : NatPorts) : Prop :=
  ∀ key allocation data, ports.portoverload.lookup key = some allocation →
      ports.portmap allocation.portmapKey = some data → field data = part key

section Agreement

variable {Part : Type} {field : PortmapData → Part}
variable {part : PortoverloadKey → Part}

theorem Unchanged.agreedOn (same : Unchanged before after) (agreed : AgreedOn field part before) :
    AgreedOn field part after := by
  intro key allocation data
  rw [same.portoverload, same.portmap]
  exact agreed key allocation data

/-- A new entry agrees with its mapping if the mapping had that part before, or
gets it from the entry. -/
theorem Records.agreedOn (records : Records before after key allocation) (counted : Counted before)
    (agreed : AgreedOn field part before)
    (made : ∀ flowCnt, field ⟨key.natIp, key.natPort, flowCnt⟩ = part key)
    (uncounting : ∀ data flowCnt, field { data with flowCnt } = field data)
    (reused : ∀ data, before.portmap allocation.portmapKey = some data → field data = part key) :
    AgreedOn field part after := by
  have new :
      field
          (countedOnce (before.portmap allocation.portmapKey) key.natIp
            key.natPort) = part key := by
    cases mapped : before.portmap allocation.portmapKey with
    | none => exact made 1
    | some data => exact (uncounting data _).trans (reused data mapped)
  intro other entry data held mapped
  rw [records.added] at held
  by_cases same : other = key
  · rw [if_pos same, Option.some_inj] at held
    rw [← held, records.portmap_self, Option.some_inj] at mapped
    rw [same, ← mapped]
    exact new
  rw [if_neg same] at held
  by_cases own : allocation.portmapKey = entry.portmapKey
  · -- the source has an entry already, hence a mapping
    obtain ⟨old, stored⟩ := counted.mapping_of_held held
    rw [← own, records.portmap_self, Option.some_inj] at mapped
    rw [← mapped, new, ← agreed other entry old held stored]
    exact (reused old (own ▸ stored)).symm
  · rw [records.portmap_other own] at mapped
    exact agreed other entry data held mapped

theorem Forgets.agreedOn (forgets : Forgets before after key allocation)
    (agreed : AgreedOn field part before)
    (uncounting : ∀ data flowCnt, field { data with flowCnt } = field data) :
    AgreedOn field part after := by
  intro other entry data held mapped
  rw [forgets.removed] at held
  by_cases gone : other = key
  · rw [if_pos gone] at held
    cases held
  rw [if_neg gone] at held
  rw [forgets.mapped] at mapped
  by_cases own : entry.portmapKey = allocation.portmapKey
  · rw [own, Function.update_self, Option.bind_eq_some_iff] at mapped
    obtain ⟨old, stored, left⟩ := mapped
    rw [uncounted] at left
    split at left
    · cases left
    · rw [← Option.some_inj.mp left, uncounting]
      exact agreed other entry old held (own ▸ stored)
  · rw [Function.update_of_ne own] at mapped
    exact agreed other entry data held mapped

end Agreement

/-- An entry has the port of the mapping that it was made for. -/
def Agreed (ports : NatPorts) : Prop :=
  ∀ key allocation data, ports.portoverload.lookup key = some allocation →
      ports.portmap allocation.portmapKey = some data → data.natPort = key.natPort

theorem Unchanged.agreed (same : Unchanged before after) (agreed : Agreed before) : Agreed after :=
  same.agreedOn agreed

theorem Records.agreed (records : Records before after key allocation) (counted : Counted before)
    (agreed : Agreed before) : Agreed after :=
  records.agreedOn counted agreed (fun _ => rfl) (fun _ _ => rfl) records.samePort

theorem Forgets.agreed (forgets : Forgets before after key allocation) (agreed : Agreed before) :
    Agreed after :=
  forgets.agreedOn agreed fun _ _ => rfl

end Counters

theorem countable_of_few {ports : NatPorts} (few : ports.portoverload.entries.length < 65536) :
    Countable ports where
  sources := fun _ => Nat.lt_of_le_of_lt (FiniteTable.card_keysWhere_le ports.portoverload _) few
  interfaces := fun _ => Nat.lt_of_le_of_lt (FiniteTable.card_keysWhere_le ports.portoverload _) few

end DpService.Flow

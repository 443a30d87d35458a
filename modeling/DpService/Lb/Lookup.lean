import Mathlib.Data.List.TakeWhile
import DpService.Lb.Targets

/-!
# The choice of a target

The node for load balancing asks whether an address is load balanced and
which target a new flow gets.  Only flows to one of the ports of the load
balancer get one.
-/

namespace DpService.Lb

open Foundations Flow Control
open Dataplane hiding dpLbGetBackendIp dpIsIpLb

variable {lbval : LbBackends} {lbs : LbTables} {target : Ipv6}

def dpIsLbEnabled (lbs : LbTables) : Bool :=
  lbs.lbTable.entries.length > 0

/-- `dp_lb_port_match`: the loop stops at the first port that is zero. -/
def dpLbPortMatch (ports : List LbPort) (portDst : UInt16) (proto : UInt8) :
    Bool :=
  (ports.takeWhile fun entry => entry.port ≠ 0).any fun entry =>
    entry.port == portDst && entry.protocol == proto

def LbBackends.pick (lbval : LbBackends) (hash : UInt32) : Option Ipv6 :=
  (lbval.maglevHash (hash.toNat % maglevLookupSize)).map lbval.backEndIps

/-- `dp_lb_get_backend_ip`, with the hash of `rte_hash` for flow keys. -/
def dpLbGetBackendIp (flowHash : FlowKey → UInt32) (lbs : LbTables) (key : FlowKey)
    (vni : Vni) : Option Ipv6 :=
  match lbs.lbTable.lookup ⟨vni, key.l3Dst⟩ with
  | some (.value value) =>
    if value.backends.backEndCnt = 0 then none
    else if !dpLbPortMatch value.ports (swapBytes key.portDst) key.proto then none
    else value.backends.pick (flowHash key)
  | _ => none

theorem dpLbPortMatch_swap_iff {ports : List LbPort} (nonzero : ∀ entry ∈ ports, entry.port ≠ 0)
    (portDst : UInt16) (proto : UInt8) :
    dpLbPortMatch (ports.map LbPort.swap) (swapBytes portDst) proto = true ↔
      (⟨portDst, proto⟩ : LbPort) ∈ ports := by
  have whole : (ports.map LbPort.swap).takeWhile (fun entry => entry.port ≠ 0) =
        ports.map LbPort.swap := by
    rw [List.takeWhile_eq_self_iff]
    intro entry listed
    obtain ⟨original, member, rfl⟩ := List.mem_map.mp listed
    simpa [LbPort.swap] using nonzero original member
  rw [dpLbPortMatch, whole, List.any_map, List.any_eq_true]
  constructor
  · rintro ⟨⟨port, protocol⟩, member, same⟩
    simp only [Function.comp, LbPort.swap, Bool.and_eq_true, beq_iff_eq] at same
    obtain ⟨ports, rfl⟩ := same
    obtain rfl := swapBytes_injective ports
    exact member
  · intro member
    exact ⟨_, member, by simp [LbPort.swap]⟩

theorem dpGetLb_handleTarget {storedRules : FlowKey → Nat} {lbId : LbId} {config : Config}
    {key : LbKey} {value : LbValue} (request : TargetRequest)
    (before : dpGetLb config.lbs lbId = .ok (key, value)) :
    ∃ backends, dpGetLb (handleTarget storedRules lbId config request).1.lbs lbId =
        .ok (key, { value with backends }) := by
  rcases request with (_ | ip) | (_ | ip)
  · exact ⟨value.backends, before⟩
  · have now := dpGetLb_changeBackends (fun lbval => insertBackIp true lbval ip) before
    exact ⟨_, now⟩
  · exact ⟨value.backends, before⟩
  have now := dpGetLb_changeBackends (fun lbval => dpDeleteMaglevBackend true lbval ip) before
  change dpGetLb (dpDelLbBackIp true config.lbs lbId ip).1 lbId = _ at now
  refine ⟨(dpDeleteMaglevBackend true value.backends ip).1, ?_⟩
  simp only [handleTarget, dpProcessDeleteLbtarget]
  generalize dpDelLbBackIp true config.lbs lbId ip = result at now ⊢
  rcases result with ⟨lbs, _ | error⟩
  · exact now
  · exact now

theorem dpGetLb_serveTargets {storedRules : FlowKey → Nat} {lbId : LbId} {config after : Config}
    {key : LbKey} {value : LbValue} {requests : List TargetRequest}
    (before : dpGetLb config.lbs lbId = .ok (key, value))
    (served : serveTargets storedRules lbId config requests = some after) :
    ∃ backends, dpGetLb after.lbs lbId = .ok (key, { value with backends }) := by
  induction requests generalizing config value with
  | nil =>
    obtain rfl := Option.some.inj served
    exact ⟨value.backends, before⟩
  | cons request requests ih =>
    obtain ⟨backends, next⟩ :=
      @dpGetLb_handleTarget storedRules lbId config key value request before
    rw [serveTargets] at served
    generalize handleTarget storedRules lbId config request = handled at served next
    obtain ⟨changed, _ | error⟩ := handled
    · obtain ⟨final, found⟩ := ih next served
      exact ⟨final, found⟩
    · simp at served

theorem Holds.pick {targets : List Ipv6} (holds : Holds lbval targets)
    (some_ : targets ≠ []) (hash : UInt32) :
    ∃ target ∈ targets, lbval.pick hash = some target := by
  have positive := List.length_pos_iff.mpr some_
  obtain ⟨filling, -, populated, owned, -⟩ := populate_filled (slotsOf Ipv6.zero targets) positive
  obtain ⟨i, inside, owner⟩ := owned (hash.toNat % maglevLookupSize) (Nat.mod_lt _ (by decide))
  refine ⟨targets[i], List.getElem_mem inside, ?_⟩
  rw [LbBackends.pick, holds.hash some_, populated, owner, Option.map_some, holds.getElem inside]

theorem dpLbGetBackendIp_eq_some {flowHash : FlowKey → UInt32} {key : FlowKey} {vni : Vni}
    (found : dpLbGetBackendIp flowHash lbs key vni = some target) :
    ∃ value, lbs.lbTable.lookup ⟨vni, key.l3Dst⟩ = some (.value value) ∧
        value.backends.backEndCnt ≠ 0 ∧ value.backends.pick (flowHash key) = some target := by
  unfold dpLbGetBackendIp at found
  cases entry : lbs.lbTable.lookup ⟨vni, key.l3Dst⟩ with
  | none => simp [entry] at found
  | some held => ?_
  cases held with
  | freed => simp [entry] at found
  | value value =>
    simp only [entry] at found
    split_ifs at found with empty unmatched
    exact ⟨value, rfl, empty, found⟩

/-! ## Current targets -/

def IsTarget (lbs : LbTables) (key : LbKey) (target : Ipv6) : Prop :=
  ∃ value, lbs.lbTable.lookup key = some (.value value) ∧
      ∃ i < value.backends.backEndCnt, value.backends.backEndIps i = target

def AllHold (lbs : LbTables) : Prop :=
  ∀ key value, lbs.lbTable.lookup key = some (.value value) →
    ∃ targets, Holds value.backends targets

theorem Holds.mem_iff {targets : List Ipv6} (holds : Holds lbval targets) (target : Ipv6) :
    target ∈ targets ↔ ∃ i < lbval.backEndCnt, lbval.backEndIps i = target := by
  rw [List.mem_iff_getElem, holds.cnt]
  constructor
  · rintro ⟨i, inside, same⟩
    exact ⟨i, inside, (holds.getElem inside).trans same⟩
  · rintro ⟨i, inside, same⟩
    exact ⟨i, inside, (holds.getElem inside).symm.trans same⟩

theorem isTarget_of_dpLbGetBackendIp {flowHash : FlowKey → UInt32} (allHold : AllHold lbs)
    {key : FlowKey} {vni : Vni} (found : dpLbGetBackendIp flowHash lbs key vni = some target) :
    IsTarget lbs ⟨vni, key.l3Dst⟩ target := by
  obtain ⟨value, entry, nonempty, picked⟩ := dpLbGetBackendIp_eq_some found
  obtain ⟨targets, holds⟩ := allHold _ value entry
  have some_ : targets ≠ [] := by
    rintro rfl
    exact nonempty holds.cnt
  obtain ⟨chosen, member, same⟩ := holds.pick some_ (flowHash key)
  obtain rfl : chosen = target := Option.some.inj (same.symm.trans picked)
  exact ⟨value, entry, (holds.mem_iff chosen).mp member⟩

theorem isTarget_insert {after : LbTables} {created key : LbKey} {entry : LbEntry}
    (absent : lbs.lbTable.lookup created = none)
    (table : after.lbTable = lbs.lbTable.insert created entry)
    (before : IsTarget lbs key target) : IsTarget after key target := by
  obtain ⟨value, found, listed⟩ := before
  refine ⟨value, ?_, listed⟩
  rw [table, FiniteTable.lookup_insert_eq, if_neg]
  · exact found
  · rintro rfl
    rw [absent] at found
    cases found

/-- Of the changes of the targets of a load balancer, those that keep the
array in order and all targets but `gone`. -/
structure Replaces
    (change : LbBackends → LbBackends × Option GrpcErr)
    (gone : Ipv6 → Prop) : Prop where
  holds : ∀ {lbval targets}, Holds lbval targets → ∃ others, Holds (change lbval).1 others ∧
      ∀ ip ∈ targets, ip ∈ others ∨ gone ip ∧ (change lbval).2 = none

theorem Replaces.changeBackends {change : LbBackends → LbBackends × Option GrpcErr}
    {gone : Ipv6 → Prop} (replaces : Replaces change gone) (allHold : AllHold lbs) (lbId : LbId) :
    AllHold (changeBackends lbs lbId change).1 ∧ ∀ key target, IsTarget lbs key target →
        IsTarget (changeBackends lbs lbId change).1 key target ∨
          gone target ∧ (changeBackends lbs lbId change).2 = none := by
  unfold Lb.changeBackends
  cases mapped : lbs.idMap lbId with
  | none => exact ⟨allHold, fun _ _ => Or.inl⟩
  | some changed => ?_
  dsimp only
  cases entry : lbs.lbTable.lookup changed with
  | none => exact ⟨allHold, fun _ _ => Or.inl⟩
  | some held => ?_
  cases held with
  | freed => exact ⟨allHold, fun _ _ => Or.inl⟩
  | value value => ?_
  obtain ⟨targets, holds⟩ := allHold changed value entry
  obtain ⟨others, after, kept⟩ := replaces.holds holds
  dsimp only
  constructor
  · intro key value' found
    rw [FiniteTable.lookup_insert_eq] at found
    split at found
    · rw [Option.some_inj, LbEntry.value.injEq] at found
      subst found
      exact ⟨others, after⟩
    · exact allHold key value' found
  rintro key target ⟨value', found, listed⟩
  by_cases same : key = changed
  · subst same
    rw [entry] at found
    obtain rfl : value = value' := by
      simpa using found
    rcases kept target ((holds.mem_iff target).mpr listed) with
      still | lost
    · refine
        Or.inl
          ⟨{ value with backends := (change value.backends).1 },
            ?_, (after.mem_iff target).mp still⟩
      rw [FiniteTable.lookup_insert_eq, if_pos rfl]
    · exact Or.inr lost
  · refine Or.inl ⟨value', ?_, listed⟩
    rw [FiniteTable.lookup_insert_eq, if_neg same]
    exact found

theorem insertBackIp_refused {after : LbBackends} {backIp : Ipv6} {error : GrpcErr}
    (refused : insertBackIp true lbval backIp = (after, some error)) :
    after = lbval := by
  unfold insertBackIp at refused
  split at refused
  · exact (Prod.mk.inj refused).1.symm
  unfold dpAddMaglevBackend at refused
  split at refused
  · cases refused
  rename_i added
  split at added
  · cases added
    exact (Prod.mk.inj refused).1.symm
  dsimp only at added
  rw [dpMaglevCalcHashLookupTable_allocated] at added
  cases added

theorem dpDeleteMaglevBackend_refused {after : LbBackends} {backIp : Ipv6} {error : GrpcErr}
    (refused : dpDeleteMaglevBackend true lbval backIp = (after, some error)) :
    after = lbval := by
  unfold dpDeleteMaglevBackend at refused
  dsimp only at refused
  split at refused
  · exact (Prod.mk.inj refused).1.symm
  split at refused
  · cases refused
  rw [dpMaglevCalcHashLookupTable_allocated] at refused
  cases refused

theorem replaces_insert (backIp : Ipv6) :
    Replaces (fun lbval => insertBackIp true lbval backIp) fun _ => False where
  holds := by
    intro lbval targets holds
    cases result : insertBackIp true lbval backIp with
    | mk after error =>
      cases error with
      | none =>
        refine ⟨_, holds.insert result, ?_⟩
        intro ip member
        exact Or.inl ((List.mem_insertIdx (insertPos_le targets backIp)).mpr (Or.inr member))
      | some error =>
        rw [insertBackIp_refused result]
        exact ⟨targets, holds, fun _ => Or.inl⟩

theorem replaces_delete (backIp : Ipv6) :
    Replaces (fun lbval => dpDeleteMaglevBackend true lbval backIp) fun ip => ip = backIp where
  holds := by
    intro lbval targets holds
    cases result : dpDeleteMaglevBackend true lbval backIp with
    | mk after error =>
      cases error with
      | none =>
        refine ⟨_, holds.delete result, ?_⟩
        intro ip member
        by_cases same : ip = backIp
        · exact Or.inr ⟨same, rfl⟩
        · exact Or.inl ((List.mem_erase_of_ne same).mpr member)
      | some error =>
        rw [dpDeleteMaglevBackend_refused result]
        exact ⟨targets, holds, fun _ => Or.inl⟩

end DpService.Lb

import DpService.Control.Steps
import DpService.Lb.Lookup

/-!
# Load balancers that come and go

The identifiers of load balancers are mapped to the keys of `lb_table`, and
only the key is looked at when a load balancer is created.  The targets of a
load balancer are changed before its lookup table is computed anew, which
needs memory.
-/

namespace DpService.Lb

open Foundations Flow Control
open Dataplane hiding dpLbGetBackendIp dpIsIpLb

/-- The requests about load balancers.  `allocated` tells whether there is
memory for the computation of the lookup table. -/
inductive LbEvent where
  | createLb (outcomes : CreateLbOutcomes) (request : DpgrpcLb)
  | deleteLb (lbId : LbId)
  | createLbtarget (allocated : Bool) (lbId : LbId) (addr : IpAddress)
  | deleteLbtarget (allocated : Bool) (storedRules : FlowKey → Nat) (lbId : LbId)
      (addr : IpAddress)

def LbEvent.handle (config : Config) : LbEvent → Config × Option GrpcErr
  | .createLb outcomes request => answered (dpProcessCreateLb outcomes config request)
  | .deleteLb lbId => answered (dpProcessDeleteLb config lbId)
  | .createLbtarget allocated lbId addr => dpProcessCreateLbtarget allocated config lbId addr
  | .deleteLbtarget allocated storedRules lbId addr =>
    dpProcessDeleteLbtarget allocated storedRules config lbId addr

/-- The configuration, and the load balancers whose creation was answered
with success and that were not deleted since. -/
structure LbHistory where
  config : Config
  created : List (LbId × LbKey)

def LbHistory.step (history : LbHistory) (event : LbEvent) : LbHistory where
  config := (event.handle history.config).1
  created :=
    match event, (event.handle history.config).2 with
    | .createLb _ request, none => (request.lbId, request.key) :: history.created
    | .deleteLb lbId, _ => history.created.filter fun lb => lb.1 ≠ lbId
    | _, _ => history.created

def lbMachine (start : Config) : Machine LbHistory LbEvent where
  init := ⟨{ start with lbs := .empty }, []⟩
  step := LbHistory.step

/-! ## Identifiers -/

structure Inverse (lbs : LbTables) : Prop where
  valued : ∀ lbId key, lbs.idMap lbId = some key →
    ∃ value, lbs.lbTable.lookup key = some (.value value) ∧ value.lbId = lbId
  mapped : ∀ key value, lbs.lbTable.lookup key = some (.value value) →
    lbs.idMap value.lbId = some key
  unfreed : ∀ key, lbs.lbTable.lookup key ≠ some .freed

/-- Every load balancer that was created can be retrieved and deleted. -/
structure LbHistory.Faithful (history : LbHistory) : Prop where
  inverse : Inverse history.config.lbs
  retrievable : ∀ lbId key, (lbId, key) ∈ history.created →
    (∃ value, dpGetLb history.config.lbs lbId = .ok (key, value)) ∧
      (dpDeleteLb history.config.lbs lbId).2 = none

/-- A load balancer is created under an identifier that is not in use, and the
identifier can be mapped. -/
def FreshId (history : LbHistory) : LbEvent → Prop
  | .createLb outcomes request =>
    history.config.lbs.idMap request.lbId = none ∧ outcomes.lb.mapped = true
  | _ => True

section Identifiers

variable {lbs : LbTables} {config : Config}

theorem Inverse.added {request : DpgrpcLb} (inverse : Inverse lbs)
    (unused : lbs.idMap request.lbId = none) (absent : lbs.lbTable.lookup request.key = none)
    (ulAddr6 : Ipv6) : Inverse (addedLb lbs request ulAddr6) := by
  obtain ⟨valued, mapped, unfreed⟩ := inverse
  have lookup : ∀ other, (addedLb lbs request ulAddr6).lbTable.lookup other =
      if other = request.key then some (.value (newLb request ulAddr6))
      else lbs.lbTable.lookup other :=
    fun other => FiniteTable.lookup_insert_eq lbs.lbTable request.key other _
  have idMap : ∀ lbId, (addedLb lbs request ulAddr6).idMap lbId =
      if lbId = request.lbId then some request.key else lbs.idMap lbId := fun _ => rfl
  have name : (newLb request ulAddr6).lbId = request.lbId := rfl
  generalize addedLb lbs request ulAddr6 = after at lookup idMap
  constructor
  · grind
  · grind
  · grind

theorem Inverse.deleted {lbId : LbId} (inverse : Inverse lbs) :
    Inverse (dpDeleteLb lbs lbId).1 := by
  obtain ⟨valued, mapped, unfreed⟩ := inverse
  unfold dpDeleteLb
  cases found : lbs.idMap lbId with
  | none => exact ⟨valued, mapped, unfreed⟩
  | some key => ?_
  have lookup := FiniteTable.lookup_erase_eq lbs.lbTable key
  have idMap : ∀ other, assign lbs.idMap lbId none other =
      if other = lbId then none else lbs.idMap other := fun _ => rfl
  constructor
  · grind
  · grind
  · grind

theorem Inverse.changed (inverse : Inverse lbs) (lbId : LbId)
    (change : LbBackends → LbBackends × Option GrpcErr) :
    Inverse (changeBackends lbs lbId change).1 := by
  obtain ⟨valued, mapped, unfreed⟩ := inverse
  unfold changeBackends
  cases found : lbs.idMap lbId with
  | none => exact ⟨valued, mapped, unfreed⟩
  | some key => ?_
  obtain ⟨value, held, name⟩ := valued lbId key found
  dsimp only
  rw [held]
  have lookup := FiniteTable.lookup_insert_eq lbs.lbTable key
  constructor
  · grind
  · grind
  · grind

structure LbHistory.Mapped (history : LbHistory) : Prop where
  inverse : Inverse history.config.lbs
  created : ∀ lb ∈ history.created, history.config.lbs.idMap lb.1 = some lb.2

theorem LbHistory.Mapped.faithful {history : LbHistory} (holds : history.Mapped) :
    history.Faithful where
  inverse := holds.inverse
  retrievable := by
    intro lbId key member
    have found := holds.created _ member
    obtain ⟨value, held, -⟩ := holds.inverse.valued lbId key found
    refine ⟨⟨value, dpGetLb_eq_ok_iff.mpr ⟨found, held⟩⟩, ?_⟩
    rw [dpDeleteLb, found]

theorem dpProcessDeleteLb_lbs (inverse : Inverse config.lbs) (lbId : LbId) :
    (dpProcessDeleteLb config lbId).1.lbs = (dpDeleteLb config.lbs lbId).1 := by
  unfold dpProcessDeleteLb
  cases found : config.lbs.idMap lbId with
  | none => rw [dpGetLb, found, dpDeleteLb, found]
  | some key => ?_
  obtain ⟨value, held, -⟩ := inverse.valued lbId key found
  rw [dpGetLb_eq_ok_iff.mpr ⟨found, held⟩]
  dsimp only [Config.delVnf]
  rw [dpDeleteLb, found]
  rfl

theorem changeBackends_idMap (lbId : LbId) (change : LbBackends → LbBackends × Option GrpcErr) :
    (changeBackends lbs lbId change).1.idMap = lbs.idMap := by
  unfold changeBackends
  split
  · rfl
  split
  · rfl
  · rfl

theorem dpProcessDeleteLbtarget_answer (allocated : Bool) (storedRules : FlowKey → Nat)
    (config : Config) (lbId : LbId) (ip : Ipv6) :
    (dpProcessDeleteLbtarget allocated storedRules config lbId (.v6 ip)).1.lbs =
        (dpDelLbBackIp allocated config.lbs lbId ip).1 ∧
      (dpProcessDeleteLbtarget allocated storedRules config lbId (.v6 ip)).2 =
        (dpDelLbBackIp allocated config.lbs lbId ip).2 := by
  unfold dpProcessDeleteLbtarget
  dsimp only
  generalize dpDelLbBackIp allocated config.lbs lbId ip = result
  obtain ⟨lbs, _ | error⟩ := result
  · exact ⟨rfl, rfl⟩
  · exact ⟨rfl, rfl⟩

theorem LbHistory.Mapped.changed {history after : LbHistory} (holds : history.Mapped)
    {lbId : LbId} {change : LbBackends → LbBackends × Option GrpcErr}
    (lbs : after.config.lbs = (changeBackends history.config.lbs lbId change).1)
    (created : after.created = history.created) : after.Mapped := by
  refine ⟨lbs ▸ holds.inverse.changed lbId change, ?_⟩
  rw [created, lbs, changeBackends_idMap]
  exact holds.created

theorem LbHistory.Mapped.createLb {history : LbHistory} (holds : history.Mapped)
    {outcomes : CreateLbOutcomes} {request : DpgrpcLb}
    (fresh : FreshId history (.createLb outcomes request)) :
    (history.step (.createLb outcomes request)).Mapped := by
  obtain ⟨unused, canMap⟩ := fresh
  have others : ∀ lb ∈ history.created, lb.1 ≠ request.lbId := by
    intro lb member same
    have found := holds.created lb member
    rw [same, unused] at found
    cases found
  unfold LbHistory.step
  rcases dpProcessCreateLb_cases outcomes history.config request with
    ⟨after, error, result, failure⟩ | ⟨after, ulAddr6, result, created⟩
  · have answer : (LbEvent.createLb outcomes request).handle history.config =
        (after, some error) := by
      rw [LbEvent.handle, result]
      rfl
    rw [answer]
    cases failure with
    | refused => exact holds
    | undone => exact ⟨holds.inverse, holds.created⟩
    | unmapped _ _ _ _ lost =>
      rw [lost] at canMap
      cases canMap
    | withoutVni =>
      have kept : assign history.config.lbs.idMap request.lbId none = history.config.lbs.idMap :=
        assign_eq_self_iff.mpr unused
      simp only [Config.setLbs, kept]
      exact ⟨holds.inverse, holds.created⟩
  have answer : (LbEvent.createLb outcomes request).handle history.config = (after, none) := by
    rw [LbEvent.handle, result]
    rfl
  rw [answer, created.result]
  refine ⟨holds.inverse.added unused created.absent ulAddr6, ?_⟩
  intro lb member
  rcases List.mem_cons.mp member with rfl | earlier
  · exact assign_self ..
  · exact (assign_of_ne _ _ (others lb earlier)).trans (holds.created lb earlier)

theorem LbHistory.Mapped.step {history : LbHistory} (holds : history.Mapped) {event : LbEvent}
    (fresh : FreshId history event) : (history.step event).Mapped := by
  cases event with
  | createLb outcomes request => exact holds.createLb fresh
  | deleteLb lbId =>
    have lbs : (history.step (.deleteLb lbId)).config.lbs =
        (dpDeleteLb history.config.lbs lbId).1 := dpProcessDeleteLb_lbs holds.inverse lbId
    refine ⟨lbs ▸ holds.inverse.deleted, ?_⟩
    intro lb member
    obtain ⟨earlier, other⟩ := List.mem_filter.mp member
    rw [lbs, dpDeleteLb]
    cases history.config.lbs.idMap lbId with
    | none => exact holds.created lb earlier
    | some key =>
      exact (assign_of_ne _ _ (of_decide_eq_true other)).trans (holds.created lb earlier)
  | createLbtarget allocated lbId addr =>
    cases addr with
    | v4 ip => exact holds
    | v6 ip =>
      exact
        @LbHistory.Mapped.changed history _ holds lbId
          (fun lbval => insertBackIp allocated lbval ip) rfl rfl
  | deleteLbtarget allocated storedRules lbId addr =>
    cases addr with
    | v4 ip => exact holds
    | v6 ip => exact holds.changed (dpProcessDeleteLbtarget_answer ..).1 rfl

/-- In every run in which load balancers are created under identifiers that
are not in use and can be mapped, the tables stay inverse of each other and
the load balancers are retrieved by their identifiers. -/
theorem identifiers_of_run (start : Config) (events : List LbEvent)
    (fresh : (lbMachine start).Along FreshId (lbMachine start).init events) :
    ((lbMachine start).run events).Faithful := by
  have holds : ((lbMachine start).run events).Mapped :=
    Machine.runFrom_invariant_along (fun _ _ fresh holds => holds.step fresh) events fresh
      ⟨⟨nofun, nofun, nofun⟩, nofun⟩
  exact holds.faithful

/-- A load balancer of some address is created, always with the same
identifier. -/
def lbAt (ip : Ipv4) : LbEvent :=
  .createLb
    { generated := Ipv6.zero, vnf := ⟨true, true⟩, lb := ⟨true, true⟩, vniAllocated := true }
    { lbId := "lb", vni := 100, addr := .v4 ip, lbports := [⟨80, 6⟩]
      ulAddr6 := ⟨0xfc00000100000000, ip.toUInt64⟩ }

theorem lbAt_faithful : ((lbMachine balancerHost).run [lbAt 1]).created = [("lb", ⟨100, .v4 1⟩)] ∧
      ((lbMachine balancerHost).run [lbAt 1]).Faithful :=
  ⟨by decide +kernel, identifiers_of_run balancerHost [lbAt 1] ⟨⟨rfl, rfl⟩, trivial⟩⟩

/-- The second load balancer takes the identifier of the first one, which can
neither be retrieved nor deleted any more. -/
theorem lbAt_twice_unfaithful :
    ("lb", ⟨100, .v4 1⟩) ∈ ((lbMachine balancerHost).run [lbAt 1, lbAt 2]).created ∧
      ¬ ((lbMachine balancerHost).run [lbAt 1, lbAt 2]).Faithful := by
  have ends : ("lb", ⟨100, .v4 1⟩) ∈ ((lbMachine balancerHost).run [lbAt 1, lbAt 2]).created ∧
        ((lbMachine balancerHost).run [lbAt 1, lbAt 2]).config.lbs.idMap "lb" =
          some ⟨100, .v4 2⟩ := by
    decide +kernel
  generalize (lbMachine balancerHost).run [lbAt 1, lbAt 2] = history at ends
  obtain ⟨member, remapped⟩ := ends
  refine ⟨member, fun faithful => ?_⟩
  obtain ⟨⟨value, found⟩, -⟩ := faithful.retrievable _ _ member
  rw [dpGetLb_eq_ok_iff, remapped] at found
  exact absurd found.1 (by decide)

end Identifiers

/-! ## Targets -/

structure SameTables (before after : LbTables) : Prop where
  idMap : after.idMap = before.idMap
  lbTable : ∀ key, after.lbTable.lookup key = before.lbTable.lookup key

def AllOrNothing (config : Config) (event : LbEvent) : Prop :=
  (event.handle config).2.isSome = true → SameTables config.lbs (event.handle config).1.lbs

def LbEvent.Recomputes (config : Config) : LbEvent → Prop
  | .createLbtarget _ lbId (.v6 ip) =>
    ∃ key value, dpGetLb config.lbs lbId = .ok (key, value) ∧
      dpLbIsBackIpInserted value.backends ip = false ∧ value.backends.backEndCnt < maxIpsPerVip
  | .deleteLbtarget _ _ lbId (.v6 ip) =>
    ∃ key value, dpGetLb config.lbs lbId = .ok (key, value) ∧
      firstPlace (fun other => other == ip) value.backends.backEndIps value.backends.backEndCnt 0 <
        value.backends.backEndCnt ∧
      value.backends.backEndCnt ≠ 1
  | _ => False

def LbEvent.isTarget : LbEvent → Bool
  | .createLbtarget .. => true
  | .deleteLbtarget .. => true
  | _ => false

/-- Memory is there if the request is about targets. -/
def LbEvent.allocated : LbEvent → Bool
  | .createLbtarget allocated .. => allocated
  | .deleteLbtarget allocated .. => allocated
  | _ => true

section Targets

variable {lbs : LbTables} {lbval : LbBackends} {lbId : LbId} {backIp : Ipv6} {allocated : Bool}
  {config : Config} {key : LbKey}

theorem changeBackends_same_iff {change : LbBackends → LbBackends × Option GrpcErr}
    {reached : LbBackends → Prop}
    (same_iff : ∀ lbval, ((change lbval).2.isSome = true → (change lbval).1 = lbval) ↔
      (allocated = true ∨ ¬ reached lbval)) :
    ((changeBackends lbs lbId change).2.isSome = true →
        SameTables lbs (changeBackends lbs lbId change).1) ↔
      (allocated = true ∨
        ¬ ∃ key value, dpGetLb lbs lbId = .ok (key, value) ∧ reached value.backends) := by
  unfold changeBackends
  simp only [dpGetLb_eq_ok_iff]
  cases found : lbs.idMap lbId with
  | none =>
    refine iff_of_true (fun _ => ⟨rfl, fun _ => rfl⟩) (Or.inr ?_)
    rintro ⟨key, value, ⟨⟨⟩, -⟩, -⟩
  | some key => ?_
  dsimp only
  cases held : lbs.lbTable.lookup key with
  | none =>
    refine iff_of_true (fun _ => ⟨rfl, fun _ => rfl⟩) (Or.inr ?_)
    rintro ⟨_, value, ⟨⟨⟩, filed⟩, -⟩
    rw [held] at filed
    cases filed
  | some entry => ?_
  cases entry with
  | freed =>
    refine iff_of_true (fun _ => ⟨rfl, fun _ => rfl⟩) (Or.inr ?_)
    rintro ⟨_, value, ⟨⟨⟩, filed⟩, -⟩
    rw [held] at filed
    cases filed
  | value value => ?_
  have only : (∃ other stored, (some key = some other ∧
      lbs.lbTable.lookup other = some (.value stored)) ∧ reached stored.backends) ↔
        reached value.backends := by
    constructor
    · rintro ⟨_, stored, ⟨⟨⟩, filed⟩, reached⟩
      rw [held, Option.some_inj, LbEntry.value.injEq] at filed
      exact filed ▸ reached
    · exact fun reached => ⟨key, value, ⟨rfl, held⟩, reached⟩
  rw [only, ← same_iff]
  refine forall_congr' fun failed => ⟨fun same => ?_, fun same => ⟨rfl, fun other => ?_⟩⟩
  · have entry := same.lbTable key
    rw [AList.lookup_insert, held, Option.some_inj, LbEntry.value.injEq] at entry
    exact congrArg LbValue.backends entry
  rw [FiniteTable.lookup_insert_eq, same]
  by_cases here : other = key
  · rw [if_pos here, here, held]
  · rw [if_neg here]

theorem insertBackIp_same_iff :
    ((insertBackIp allocated lbval backIp).2.isSome = true →
        (insertBackIp allocated lbval backIp).1 = lbval) ↔
      (allocated = true ∨
        ¬ (dpLbIsBackIpInserted lbval backIp = false ∧ lbval.backEndCnt < maxIpsPerVip)) := by
  cases allocated with
  | true =>
    refine iff_of_true (fun failed => ?_) (Or.inl rfl)
    obtain ⟨error, isError⟩ := Option.isSome_iff_exists.mp failed
    exact insertBackIp_refused (Prod.ext rfl isError)
  | false => ?_
  unfold insertBackIp
  cases inserted : dpLbIsBackIpInserted lbval backIp with
  | true => simp
  | false => ?_
  rw [if_neg Bool.false_ne_true, dpAddMaglevBackend]
  by_cases full : maxIpsPerVip ≤ lbval.backEndCnt
  · rw [if_pos full]
    exact iff_of_true (fun _ => rfl) (Or.inr fun room => Nat.not_lt.mpr full room.2)
  rw [if_neg full]
  -- the new target is counted and the table is not computed
  refine iff_of_false (fun same => ?_) (by simpa using Nat.not_le.mp full)
  exact Nat.succ_ne_self _ (congrArg LbBackends.backEndCnt (same rfl))

theorem dpDeleteMaglevBackend_same_iff :
    ((dpDeleteMaglevBackend allocated lbval backIp).2.isSome = true →
        (dpDeleteMaglevBackend allocated lbval backIp).1 = lbval) ↔
      (allocated = true ∨
        ¬ (firstPlace (fun other => other == backIp) lbval.backEndIps lbval.backEndCnt 0 <
            lbval.backEndCnt ∧ lbval.backEndCnt ≠ 1)) := by
  cases allocated with
  | true =>
    refine iff_of_true (fun failed => ?_) (Or.inl rfl)
    obtain ⟨error, isError⟩ := Option.isSome_iff_exists.mp failed
    exact dpDeleteMaglevBackend_refused (Prod.ext rfl isError)
  | false => ?_
  unfold dpDeleteMaglevBackend
  dsimp only
  generalize firstPlace (fun other => other == backIp) lbval.backEndIps lbval.backEndCnt 0 = place
  by_cases missing : lbval.backEndCnt ≤ place
  · rw [if_pos missing]
    exact iff_of_true (fun _ => rfl) (Or.inr fun found => Nat.not_lt.mpr missing found.1)
  rw [if_neg missing]
  by_cases last : lbval.backEndCnt - 1 = 0
  · rw [if_pos last]
    exact iff_of_true nofun (Or.inr fun found => found.2 (by omega))
  rw [if_neg last]
  refine iff_of_false (fun same => ?_) ?_
  · have count : lbval.backEndCnt - 1 = lbval.backEndCnt :=
      congrArg LbBackends.backEndCnt (same rfl)
    omega
  · rintro (memory | kept)
    · cases memory
    · exact kept ⟨by omega, by omega⟩

theorem allOrNothing_iff (config : Config) (event : LbEvent) (targets : event.isTarget = true) :
    AllOrNothing config event ↔ event.allocated = true ∨ ¬ event.Recomputes config := by
  cases event with
  | createLb => cases targets
  | deleteLb => cases targets
  | createLbtarget allocated lbId addr =>
    cases addr with
    | v4 ip => exact iff_of_true (fun _ => ⟨rfl, fun _ => rfl⟩) (Or.inr id)
    | v6 ip => exact changeBackends_same_iff fun _ => insertBackIp_same_iff
  | deleteLbtarget allocated storedRules lbId addr => ?_
  cases addr with
  | v4 ip => exact iff_of_true (fun _ => ⟨rfl, fun _ => rfl⟩) (Or.inr id)
  | v6 ip =>
    obtain ⟨after, answer⟩ := dpProcessDeleteLbtarget_answer allocated storedRules config lbId ip
    rw [AllOrNothing, LbEvent.handle, after, answer]
    exact changeBackends_same_iff fun _ => dpDeleteMaglevBackend_same_iff

theorem allHold_insert {after : LbTables} {value : LbValue}
    (allHold : AllHold lbs) (zeroed : value.backends = .zeroed)
    (table : after.lbTable = lbs.lbTable.insert key (.value value)) :
    AllHold after := by
  intro other found entry
  rw [table, FiniteTable.lookup_insert_eq] at entry
  split at entry
  · rw [Option.some_inj, LbEntry.value.injEq] at entry
    subst entry
    rw [zeroed]
    exact ⟨[], holds_zeroed⟩
  · exact allHold other found entry

theorem allHold_insert_freed {after : LbTables} (allHold : AllHold lbs)
    (table : after.lbTable = lbs.lbTable.insert key .freed) :
    AllHold after := by
  intro other found entry
  rw [table, FiniteTable.lookup_insert_eq] at entry
  split at entry
  · cases entry
  · exact allHold other found entry

theorem allHold_erase {after : LbTables} (allHold : AllHold lbs)
    (table : after.lbTable = lbs.lbTable.erase key) : AllHold after := by
  intro other found entry
  rw [table, FiniteTable.lookup_erase_eq] at entry
  split at entry
  · cases entry
  · exact allHold other found entry

theorem dpProcessCreateLb_targets (allHold : AllHold config.lbs) (outcomes : CreateLbOutcomes)
    (request : DpgrpcLb) :
    AllHold (dpProcessCreateLb outcomes config request).1.lbs ∧
      (∀ key target, IsTarget config.lbs key target →
        IsTarget (dpProcessCreateLb outcomes config request).1.lbs key target) ∧
      (dpProcessCreateLb outcomes config request).1.flows = config.flows ∧
      (dpProcessCreateLb outcomes config request).1.tables.ports = config.tables.ports := by
  rcases dpProcessCreateLb_cases outcomes config request with
    ⟨after, error, result, failure⟩ | ⟨after, ulAddr6, result, created⟩
  · rw [result]
    cases failure with
    | refused => exact ⟨allHold, fun _ _ => id, rfl, rfl⟩
    | undone => exact ⟨allHold, fun _ _ => id, rfl, rfl⟩
    | unmapped _ _ _ absent =>
      exact ⟨allHold_insert_freed allHold rfl, fun _ _ => isTarget_insert absent rfl, rfl, rfl⟩
    | withoutVni => exact ⟨allHold, fun _ _ => id, rfl, rfl⟩
  · rw [result, created.result]
    exact ⟨allHold_insert allHold rfl rfl, fun _ _ => isTarget_insert created.absent rfl, rfl, rfl⟩

theorem dpProcessDeleteLb_of_found {lbId : LbId} {value : LbValue}
    (found : dpGetLb config.lbs lbId = .ok (key, value)) :
    (dpProcessDeleteLb config lbId).1.lbs.lbTable = config.lbs.lbTable.erase key ∧
      (dpProcessDeleteLb config lbId).1.flows = config.flows ∧
      (dpProcessDeleteLb config lbId).1.tables.ports = config.tables.ports := by
  obtain ⟨mapped, -⟩ := dpGetLb_eq_ok_iff.mp found
  have deleted : dpDeleteLb config.lbs lbId =
        ({ lbTable := config.lbs.lbTable.erase key
           idMap := assign config.lbs.idMap lbId none },
          none) := by
    rw [dpDeleteLb, mapped]
  rw [dpProcessDeleteLb, found]
  dsimp only [Config.delVnf]
  rw [deleted]
  exact ⟨rfl, rfl, rfl⟩

theorem allHold_dpProcessDeleteLb (allHold : AllHold config.lbs) (lbId : LbId) :
    AllHold (dpProcessDeleteLb config lbId).1.lbs := by
  cases found : dpGetLb config.lbs lbId with
  | error error =>
    rw [dpProcessDeleteLb, found]
    exact allHold
  | ok result =>
    exact allHold_erase allHold (dpProcessDeleteLb_of_found found).1

theorem allHold_handle {event : LbEvent} (memory : event.allocated = true)
    (allHold : AllHold config.lbs) : AllHold (event.handle config).1.lbs := by
  cases event with
  | createLb outcomes request => exact (dpProcessCreateLb_targets allHold outcomes request).1
  | deleteLb lbId => exact allHold_dpProcessDeleteLb allHold lbId
  | createLbtarget allocated lbId addr =>
    obtain rfl : allocated = true := memory
    cases addr with
    | v4 ip => exact allHold
    | v6 ip => exact ((replaces_insert ip).changeBackends allHold lbId).1
  | deleteLbtarget allocated storedRules lbId addr =>
    obtain rfl : allocated = true := memory
    cases addr with
    | v4 ip => exact allHold
    | v6 ip =>
      rw [LbEvent.handle, (dpProcessDeleteLbtarget_answer ..).1]
      exact ((replaces_delete ip).changeBackends allHold lbId).1

/-- A request about targets that fails changes nothing, unless the lookup
table should be computed and there is no memory.  Where there always is, only
targets are chosen. -/
theorem targets_of_run (start : Config) :
    (∀ (config : Config) (event : LbEvent), event.isTarget = true →
        (AllOrNothing config event ↔ event.allocated = true ∨ ¬ event.Recomputes config)) ∧
      ∀ events : List LbEvent, (∀ event ∈ events, event.allocated = true) →
        ∀ (flowHash : FlowKey → UInt32) (key : FlowKey) (vni : Vni) (target : Ipv6),
          dpLbGetBackendIp flowHash ((lbMachine start).run events).config.lbs key vni =
              some target →
            IsTarget ((lbMachine start).run events).config.lbs ⟨vni, key.l3Dst⟩ target := by
  refine ⟨allOrNothing_iff, fun events memory flowHash key vni target chosen => ?_⟩
  have allHold : AllHold ((lbMachine start).run events).config.lbs :=
    Machine.runFrom_invariant_of (fun _ _ memory allHold => allHold_handle memory allHold) events
      memory nofun
  exact isTarget_of_dpLbGetBackendIp allHold chosen

theorem lbAt_targeted :
    AllOrNothing ((lbMachine balancerHost).run [lbAt 1]).config
        (.createLbtarget true "lb" (targetIp 1)) ∧
      ∀ flowHash key vni target,
        dpLbGetBackendIp flowHash
            ((lbMachine balancerHost).run
              [lbAt 1, .createLbtarget true "lb" (targetIp 1)]).config.lbs key vni = some target →
          IsTarget
            ((lbMachine balancerHost).run
              [lbAt 1, .createLbtarget true "lb" (targetIp 1)]).config.lbs ⟨vni, key.l3Dst⟩
            target :=
  ⟨((targets_of_run balancerHost).1 _ _ rfl).mpr (Or.inl rfl),
    (targets_of_run balancerHost).2 [lbAt 1, .createLbtarget true "lb" (targetIp 1)] (by decide)⟩

/-- Without memory for the lookup table the first target of a load balancer is
not added, and still it is counted. -/
theorem lbAt_counted :
    ¬ AllOrNothing ((lbMachine balancerHost).run [lbAt 1]).config
      (.createLbtarget false "lb" (targetIp 1)) := by
  intro nothing
  exact absurd ((allOrNothing_iff _ _ rfl).mp nothing) (by
    rintro (⟨⟨⟩⟩ | kept)
    exact kept ⟨⟨100, .v4 1⟩, _, rfl, rfl, by decide⟩)

end Targets

end DpService.Lb

import DpService.Control.Config
import DpService.Foundations.SortedSlots

/-!
# Targets of a load balancer

The targets stand in ascending order in their array.  Requests insert and
delete them by shifting what stands behind, and compute the lookup table anew.
What is left after a sequence of requests depends on the set of targets only.
-/

namespace DpService.Lb

open Foundations Dataplane Flow Control

variable {lbs : LbTables} {lbId : LbId} {config : Config}

/-! ## The array -/

def greaterBytes : List UInt8 → List UInt8 → Bool
  | byte1 :: bytes1, byte2 :: bytes2 =>
    if byte1 < byte2 then false
    else if byte1 > byte2 then true
    else greaterBytes bytes1 bytes2
  | _, _ => false

def dpIsIpv6Greater (ip1 ip2 : Ipv6) : Bool :=
  greaterBytes ip1.toBytes ip2.toBytes

def dpShiftBackEndIps (ips : Nat → Ipv6) (startPos endPos : Nat) (up : Bool) : Nat → Ipv6 :=
  if up then shiftUp ips startPos (endPos - startPos)
  else shiftDown ips startPos (endPos - startPos)

def dpAddMaglevBackend (allocated : Bool) (lbval : LbBackends) (backIp : Ipv6) :
    LbBackends × Bool :=
  if maxIpsPerVip ≤ lbval.backEndCnt then (lbval, false)
  else
    let insertPos :=
      firstPlace (fun ip => dpIsIpv6Greater ip backIp) lbval.backEndIps lbval.backEndCnt 0
    let shifted := dpShiftBackEndIps lbval.backEndIps insertPos lbval.backEndCnt true
    dpMaglevCalcHashLookupTable allocated
      { lbval with
        backEndIps := assign shifted insertPos backIp
        backEndCnt := lbval.backEndCnt + 1 }

def dpDeleteMaglevBackend (allocated : Bool) (lbval : LbBackends) (backIp : Ipv6) :
    LbBackends × Option GrpcErr :=
  let found := firstPlace (fun ip => ip == backIp) lbval.backEndIps lbval.backEndCnt 0
  if lbval.backEndCnt ≤ found then (lbval, some .notFound)
  else
    let shifted := dpShiftBackEndIps lbval.backEndIps found (lbval.backEndCnt - 1) false
    let lbval :=
      { lbval with
        backEndIps := assign shifted (lbval.backEndCnt - 1) Ipv6.zero
        backEndCnt := lbval.backEndCnt - 1 }
    if lbval.backEndCnt = 0 then
      -- the table stays as it is
      (lbval, none)
    else
      match dpMaglevCalcHashLookupTable allocated lbval with
      | (lbval, true) => (lbval, none)
      | (lbval, false) => (lbval, some .backipDel)

/-- All places are searched, also those behind the targets. -/
def dpLbIsBackIpInserted (lbval : LbBackends) (backIp : Ipv6) : Bool :=
  (List.range maxIpsPerVip).any fun i => lbval.backEndIps i == backIp

def insertBackIp (allocated : Bool) (lbval : LbBackends) (backIp : Ipv6) :
    LbBackends × Option GrpcErr :=
  if dpLbIsBackIpInserted lbval backIp then (lbval, some .alreadyExists)
  else
    match dpAddMaglevBackend allocated lbval backIp with
    | (lbval, true) => (lbval, none)
    | (lbval, false) => (lbval, some .backipAdd)

/-! ## Requests -/

/-- The common part of `dp_add_lb_back_ip` and `dp_del_lb_back_ip`. -/
def changeBackends (lbs : LbTables) (lbId : LbId)
    (change : LbBackends → LbBackends × Option GrpcErr) :
    LbTables × Option GrpcErr :=
  match lbs.idMap lbId with
  | none => (lbs, some .noLb)
  | some key =>
    match lbs.lbTable.lookup key with
    | some (.value value) =>
      match change value.backends with
      | (backends, error) =>
        ({ lbs with
           lbTable := lbs.lbTable.insert key (.value { value with backends }) },
          error)
    | _ => (lbs, some .noBackip)

def dpAddLbBackIp (allocated : Bool) (lbs : LbTables) (lbId : LbId) (backIp : Ipv6) :
    LbTables × Option GrpcErr :=
  changeBackends lbs lbId fun lbval => insertBackIp allocated lbval backIp

def dpDelLbBackIp (allocated : Bool) (lbs : LbTables) (lbId : LbId) (backIp : Ipv6) :
    LbTables × Option GrpcErr :=
  changeBackends lbs lbId fun lbval => dpDeleteMaglevBackend allocated lbval backIp

def dpProcessCreateLbtarget (allocated : Bool) (config : Config) (lbId : LbId) (addr : IpAddress) :
    Config × Option GrpcErr :=
  match addr with
  | .v4 _ => (config, some .badIpver)
  | .v6 ipv6 =>
    match dpAddLbBackIp allocated config.lbs lbId ipv6 with
    | (lbs, error) => ({ config with lbs }, error)

def dpProcessDeleteLbtarget (allocated : Bool) (storedRules : FlowKey → Nat) (config : Config)
    (lbId : LbId) (addr : IpAddress) : Config × Option GrpcErr :=
  match addr with
  | .v4 _ => (config, some .badIpver)
  | .v6 ipv6 =>
    match dpDelLbBackIp allocated config.lbs lbId ipv6 with
    | (lbs, some error) => ({ config with lbs }, some error)
    | (lbs, none) =>
      ({ config with
         lbs
         flows := dpRemoveLbtargetFlows ipv6 storedRules config.flows },
        none)

/-! ## Byte order -/

def Below (ip1 ip2 : Ipv6) : Prop :=
  ip1.toBytes < ip2.toBytes

theorem Below.irrefl (ip : Ipv6) : ¬Below ip ip :=
  List.lt_irrefl _

theorem Below.trans {ip1 ip2 ip3 : Ipv6} (first : Below ip1 ip2) (second : Below ip2 ip3) :
    Below ip1 ip3 :=
  List.lt_trans first second

theorem toBytes_injective : Function.Injective Ipv6.toBytes := by
  intro ip1 ip2 same
  have restored := Ipv6.ofBytes_toBytes_append ip1 []
  rw [same, Ipv6.ofBytes_toBytes_append] at restored
  exact restored.symm

theorem Below.total (ip1 ip2 : Ipv6) : Below ip1 ip2 ∨ ip1 = ip2 ∨ Below ip2 ip1 := by
  by_cases less : ip1.toBytes < ip2.toBytes
  · exact Or.inl less
  by_cases greater : ip2.toBytes < ip1.toBytes
  · exact Or.inr (Or.inr greater)
  · refine Or.inr (Or.inl (toBytes_injective ?_))
    exact List.le_antisymm (List.not_lt.mp greater) (List.not_lt.mp less)

theorem greaterBytes_iff {bytes1 bytes2 : List UInt8} (lengths : bytes1.length = bytes2.length) :
    greaterBytes bytes1 bytes2 = true ↔ bytes2 < bytes1 := by
  induction bytes1 generalizing bytes2 with
  | nil =>
    obtain rfl : bytes2 = [] := List.length_eq_zero_iff.mp lengths.symm
    simp [greaterBytes]
  | cons byte1 bytes1 ih =>
    cases bytes2 with
    | nil => simp at lengths
    | cons byte2 bytes2 => ?_
    rw [greaterBytes, List.cons_lt_cons_iff]
    have tails := ih (Nat.succ.inj lengths)
    by_cases less : byte1 < byte2
    · have notGreater : ¬byte2 < byte1 := UInt8.lt_asymm less
      have different : byte2 ≠ byte1 := (UInt8.ne_of_lt less).symm
      simp [less, notGreater, different]
    rw [if_neg less]
    by_cases greater : byte2 < byte1
    · simp [greater]
    · have same : byte2 = byte1 :=
        UInt8.le_antisymm (UInt8.not_lt.mp less) (UInt8.not_lt.mp greater)
      simp [same, tails]

theorem dpIsIpv6Greater_iff (ip1 ip2 : Ipv6) : dpIsIpv6Greater ip1 ip2 = true ↔ Below ip2 ip1 :=
  greaterBytes_iff (by simp)

/-! ## What the array holds -/

/-- The targets stand in ascending order in their array, with zeros behind
them, and the table is the one that is computed for them. -/
structure Holds (lbval : LbBackends) (targets : List Ipv6) : Prop where
  ips : lbval.backEndIps = slotsOf Ipv6.zero targets
  cnt : lbval.backEndCnt = targets.length
  ordered : targets.Pairwise Below
  atMost : targets.length ≤ maxIpsPerVip
  nonzero : Ipv6.zero ∉ targets
  hash : targets ≠ [] →
    lbval.maglevHash = dpMaglevPopulate (slotsOf Ipv6.zero targets) targets.length

theorem holds_zeroed : Holds .zeroed [] where
  ips := rfl
  cnt := rfl
  ordered := List.Pairwise.nil
  atMost := Nat.zero_le _
  nonzero := List.not_mem_nil
  hash := fun nonempty => absurd rfl nonempty

theorem Holds.nodup {lbval : LbBackends} {targets : List Ipv6} (holds : Holds lbval targets) :
    targets.Nodup :=
  holds.ordered.imp fun {a b} below same => by
    subst same
    exact Below.irrefl _ below

theorem Holds.eq_of_mem_iff {first second : LbBackends} {targets others : List Ipv6}
    (holds : Holds first targets) (holdsOthers : Holds second others)
    (same : ∀ ip, ip ∈ targets ↔ ip ∈ others) (nonempty : targets ≠ []) :
    first = second := by
  obtain rfl : targets = others :=
    eq_of_pairwise_of_mem_iff Below Below.irrefl Below.trans holds.ordered holdsOthers.ordered same
  obtain ⟨ips1, hash1, cnt1⟩ := first
  obtain ⟨ips2, hash2, cnt2⟩ := second
  simp only [LbBackends.mk.injEq]
  exact
    ⟨holds.ips.trans holdsOthers.ips.symm,
      (holds.hash nonempty).trans (holdsOthers.hash nonempty).symm,
      holds.cnt.trans holdsOthers.cnt.symm⟩

theorem dpMaglevCalcHashLookupTable_allocated (lbval : LbBackends) :
    dpMaglevCalcHashLookupTable true lbval = ((dpMaglevCalcHashLookupTable true lbval).1, true) :=
  rfl

theorem holds_calc {lbval : LbBackends} {targets : List Ipv6}
    (ips : lbval.backEndIps = slotsOf Ipv6.zero targets) (cnt : lbval.backEndCnt = targets.length)
    (ordered : targets.Pairwise Below) (atMost : targets.length ≤ maxIpsPerVip)
    (nonzero : Ipv6.zero ∉ targets) :
    Holds (dpMaglevCalcHashLookupTable true lbval).1 targets where
  ips := ips
  cnt := cnt
  ordered := ordered
  atMost := atMost
  nonzero := nonzero
  hash := fun _ => congrArg₂ dpMaglevPopulate ips cnt

section Steps

variable {lbval after : LbBackends} {targets : List Ipv6} {backIp : Ipv6}

theorem Holds.isInserted_iff (holds : Holds lbval targets) :
    dpLbIsBackIpInserted lbval backIp = true ↔ backIp ∈ targets ∨
        backIp = Ipv6.zero ∧ targets.length < maxIpsPerVip := by
  have atMost := holds.atMost
  rw [dpLbIsBackIpInserted, List.any_eq_true, holds.ips]
  simp only [List.mem_range, beq_iff_eq]
  constructor
  · rintro ⟨place, inside, rfl⟩
    by_cases held : place < targets.length
    · left
      rw [slotsOf_eq_getD, List.getElem?_eq_getElem held]
      exact List.getElem_mem held
    · exact Or.inr ⟨slotsOf_behind _ (by omega), by omega⟩
  rintro (listed | ⟨rfl, room⟩)
  · obtain ⟨place, held, rfl⟩ := List.mem_iff_getElem.mp listed
    refine ⟨place, by omega, ?_⟩
    rw [slotsOf_eq_getD, List.getElem?_eq_getElem held]
    rfl
  · exact ⟨targets.length, room, slotsOf_behind _ le_rfl⟩

theorem Holds.firstPlace (holds : Holds lbval targets) (condition : Ipv6 → Bool) :
    firstPlace condition lbval.backEndIps lbval.backEndCnt 0 = targets.findIdx condition := by
  rw [holds.ips, holds.cnt]
  exact firstPlace_slotsOf condition _ targets

def insertPos (targets : List Ipv6) (backIp : Ipv6) : Nat :=
  targets.findIdx fun ip => dpIsIpv6Greater ip backIp

theorem insertPos_le (targets : List Ipv6) (backIp : Ipv6) :
    insertPos targets backIp ≤ targets.length :=
  List.findIdx_le_length

theorem Holds.add (holds : Holds lbval targets) (room : targets.length < maxIpsPerVip)
    (absent : backIp ∉ targets) (nonzero : backIp ≠ Ipv6.zero) :
    ∃ after, dpAddMaglevBackend true lbval backIp = (after, true) ∧
        Holds after (targets.insertIdx (insertPos targets backIp) backIp) := by
  have inside := insertPos_le targets backIp
  have length := List.length_insertIdx_of_le_length inside backIp
  rw [dpAddMaglevBackend, if_neg (by rw [holds.cnt]; omega),
    dpMaglevCalcHashLookupTable_allocated, holds.firstPlace]
  refine ⟨_, rfl, ?_⟩
  apply holds_calc
  · rw [holds.ips, holds.cnt]
    exact slotsOf_insertIdx inside backIp
  · rw [length, holds.cnt]
  · exact
      pairwise_insertIdx_findIdx Below Below.trans Below.total
        (fun ip => dpIsIpv6Greater_iff ip backIp) holds.ordered absent
  · omega
  intro listed
  rcases List.eq_or_mem_of_mem_insertIdx listed with same | listed
  · exact nonzero same.symm
  · exact holds.nonzero listed

theorem Holds.insert (holds : Holds lbval targets)
    (granted : insertBackIp true lbval backIp = (after, none)) :
    Holds after (targets.insertIdx (insertPos targets backIp) backIp) := by
  rw [insertBackIp] at granted
  by_cases inserted : dpLbIsBackIpInserted lbval backIp = true
  · rw [if_pos inserted] at granted
    simp at granted
  rw [if_neg inserted] at granted
  rw [holds.isInserted_iff, not_or] at inserted
  by_cases room : targets.length < maxIpsPerVip
  · obtain ⟨added, result, holdsAdded⟩ :=
      holds.add room inserted.1 fun zero => inserted.2 ⟨zero, room⟩
    rw [result] at granted
    obtain rfl := (Prod.mk.inj granted).1
    exact holdsAdded
  · rw [dpAddMaglevBackend, if_pos (by rw [holds.cnt]; omega)] at granted
    simp at granted

theorem Holds.delete (holds : Holds lbval targets)
    (granted : dpDeleteMaglevBackend true lbval backIp = (after, none)) :
    Holds after (targets.erase backIp) := by
  rw [dpDeleteMaglevBackend, holds.firstPlace] at granted
  dsimp only at granted
  by_cases held : targets.idxOf backIp < targets.length
  · rw [if_neg (by rw [holds.cnt]; exact Nat.not_le.mpr held)] at granted
    have ips :
        assign
            (dpShiftBackEndIps lbval.backEndIps (targets.idxOf backIp) (lbval.backEndCnt - 1) false)
            (lbval.backEndCnt - 1) Ipv6.zero =
          slotsOf Ipv6.zero (targets.erase backIp) := by
      rw [holds.ips, holds.cnt, ← List.eraseIdx_idxOf_eq_erase]
      exact slotsOf_eraseIdx held
    have length : (targets.erase backIp).length = targets.length - 1 :=
      List.length_erase_of_mem (List.idxOf_lt_length_iff.mp held)
    have atMost := holds.atMost
    have ordered := holds.ordered.erase backIp
    have nonzero : Ipv6.zero ∉ targets.erase backIp :=
      fun listed => holds.nonzero (List.mem_of_mem_erase listed)
    by_cases last : lbval.backEndCnt - 1 = 0
    · rw [if_pos last] at granted
      obtain rfl := (Prod.mk.inj granted).1
      have none_left : targets.erase backIp = [] := by
        rw [← List.length_eq_zero_iff, length, ← holds.cnt, last]
      exact
        { ips := ips
          cnt := by rw [length, ← holds.cnt]
          ordered := ordered
          atMost := by omega
          nonzero := nonzero
          hash := fun some_left => absurd none_left some_left }
    · rw [if_neg last, dpMaglevCalcHashLookupTable_allocated] at granted
      obtain rfl := (Prod.mk.inj granted).1
      exact holds_calc ips (by rw [length, ← holds.cnt]) ordered (by omega) nonzero
  · rw [if_pos (by rw [holds.cnt]; exact Nat.not_lt.mp held)] at granted
    simp at granted

end Steps

/-! ## Sequences of requests -/

inductive TargetRequest where
  | create (addr : IpAddress)
  | delete (addr : IpAddress)
  deriving DecidableEq, Repr

def TargetRequest.apply (targets : Finset Ipv6) : TargetRequest → Finset Ipv6
  | .create (.v6 ip) => insert ip targets
  | .delete (.v6 ip) => targets.erase ip
  | _ => targets

/-- The targets that requests leave of a load balancer without any. -/
def targetsAfter (requests : List TargetRequest) : Finset Ipv6 :=
  requests.foldl TargetRequest.apply ∅

/-- A request for which memory is there, with what it answers. -/
def handleTarget (storedRules : FlowKey → Nat) (lbId : LbId) (config : Config) :
    TargetRequest → Config × Option GrpcErr
  | .create addr => dpProcessCreateLbtarget true config lbId addr
  | .delete addr => dpProcessDeleteLbtarget true storedRules config lbId addr

def serveTargets (storedRules : FlowKey → Nat) (lbId : LbId) :
    Config → List TargetRequest → Option Config
  | config, [] => some config
  | config, request :: requests =>
    match handleTarget storedRules lbId config request with
    | (after, none) => serveTargets storedRules lbId after requests
    | (_, some _) => none

def backendsOf (lbs : LbTables) (lbId : LbId) : Option LbBackends :=
  match dpGetLb lbs lbId with
  | .ok (_, value) => some value.backends
  | .error _ => none

theorem dpGetLb_eq_ok_iff {key : LbKey} {value : LbValue} : dpGetLb lbs lbId = .ok (key, value) ↔
      lbs.idMap lbId = some key ∧ lbs.lbTable.lookup key = some (.value value) := by
  rw [dpGetLb]
  cases lbs.idMap lbId with
  | none => simp
  | some mapped => ?_
  dsimp only
  cases entry : lbs.lbTable.lookup mapped with
  | none =>
    simp only [reduceCtorEq, Option.some.injEq, false_iff, not_and]
    rintro rfl
    simp [entry]
  | some found => ?_
  cases found with
  | freed =>
    simp only [reduceCtorEq, Option.some.injEq, false_iff, not_and]
    rintro rfl
    simp [entry]
  | value held => ?_
  simp only [Except.ok.injEq, Prod.mk.injEq, Option.some.injEq]
  constructor
  · rintro ⟨rfl, rfl⟩
    exact ⟨rfl, entry⟩
  · rintro ⟨rfl, other⟩
    rw [entry] at other
    exact ⟨rfl, LbEntry.value.inj (Option.some.inj other)⟩

theorem dpGetLb_changeBackends {key : LbKey} {value : LbValue}
    (change : LbBackends → LbBackends × Option GrpcErr)
    (before : dpGetLb lbs lbId = .ok (key, value)) :
    dpGetLb (changeBackends lbs lbId change).1 lbId =
      .ok (key, { value with backends := (change value.backends).1 }) := by
  obtain ⟨mapped, entry⟩ := dpGetLb_eq_ok_iff.mp before
  simp only [changeBackends, mapped, entry]
  exact dpGetLb_eq_ok_iff.mpr ⟨mapped, AList.lookup_insert _⟩

theorem backendsOf_eq_some_iff {backends : LbBackends} : backendsOf lbs lbId = some backends ↔
      ∃ key value, dpGetLb lbs lbId = .ok (key, value) ∧ value.backends = backends := by
  rw [backendsOf]
  cases dpGetLb lbs lbId with
  | error error => simp
  | ok found =>
    obtain ⟨key, value⟩ := found
    simp

theorem backendsOf_changeBackends {after : LbTables}
    {change : LbBackends → LbBackends × Option GrpcErr} {backends : LbBackends}
    (before : backendsOf lbs lbId = some backends)
    (granted : changeBackends lbs lbId change = (after, none)) :
    ∃ changed,
      change backends = (changed, none) ∧ backendsOf after lbId = some changed := by
  obtain ⟨key, value, found, rfl⟩ := backendsOf_eq_some_iff.mp before
  have now := dpGetLb_changeBackends change found
  obtain ⟨mapped, entry⟩ := dpGetLb_eq_ok_iff.mp found
  simp only [changeBackends, mapped, entry] at granted
  obtain ⟨rfl, succeeded⟩ := Prod.mk.inj granted
  refine ⟨(change value.backends).1, Prod.ext rfl succeeded, ?_⟩
  simp only [changeBackends, mapped, entry] at now
  exact backendsOf_eq_some_iff.mpr ⟨key, _, now, rfl⟩

def HasTargets (config : Config) (lbId : LbId) (targets : Finset Ipv6) : Prop :=
  ∃ backends list, backendsOf config.lbs lbId = some backends ∧ Holds backends list ∧
      ∀ ip, ip ∈ list ↔ ip ∈ targets

theorem hasTargets_handleTarget {storedRules : FlowKey → Nat} {after : Config}
    {request : TargetRequest} {targets : Finset Ipv6} (has : HasTargets config lbId targets)
    (granted : handleTarget storedRules lbId config request = (after, none)) :
    HasTargets after lbId (request.apply targets) := by
  obtain ⟨backends, list, before, holds, members⟩ := has
  rcases request with (_ | ip) | (_ | ip)
  · simp [handleTarget, dpProcessCreateLbtarget] at granted
  · simp only [handleTarget, dpProcessCreateLbtarget] at granted
    generalize result : dpAddLbBackIp true config.lbs lbId ip = changed at granted
    obtain ⟨lbs, error⟩ := changed
    obtain ⟨rfl, rfl⟩ := Prod.mk.inj granted
    obtain ⟨inserted, change, now⟩ := backendsOf_changeBackends before result
    refine ⟨inserted, _, now, holds.insert change, fun other => ?_⟩
    rw [List.mem_insertIdx (insertPos_le list ip), TargetRequest.apply, Finset.mem_insert, members]
  · simp [handleTarget, dpProcessDeleteLbtarget] at granted
  simp only [handleTarget, dpProcessDeleteLbtarget] at granted
  generalize result : dpDelLbBackIp true config.lbs lbId ip = changed at granted
  obtain ⟨lbs, _ | error⟩ := changed
  · obtain ⟨rfl, -⟩ := Prod.mk.inj granted
    obtain ⟨deleted, change, now⟩ := backendsOf_changeBackends before result
    refine ⟨deleted, _, now, holds.delete change, fun other => ?_⟩
    rw [holds.nodup.mem_erase_iff, TargetRequest.apply, Finset.mem_erase, members]
  · simp at granted

theorem hasTargets_serveTargets {storedRules : FlowKey → Nat} {after : Config}
    {requests : List TargetRequest} {targets : Finset Ipv6} (has : HasTargets config lbId targets)
    (served : serveTargets storedRules lbId config requests = some after) :
    HasTargets after lbId (requests.foldl TargetRequest.apply targets) := by
  induction requests generalizing config targets with
  | nil =>
    obtain rfl := Option.some.inj served
    exact has
  | cons request requests ih =>
    rw [serveTargets] at served
    generalize result : handleTarget storedRules lbId config request = handled at served
    obtain ⟨next, _ | error⟩ := handled
    · exact ih (hasTargets_handleTarget has result) served
    · simp at served

/-! ## History independence -/

/-- The array has exactly the targets of a set, in ascending byte order and
each of them once, with zeros behind them. -/
structure Ascending (backends : LbBackends) (targets : Finset Ipv6) :
    Prop where
  ordered : ∀ i j, i < j → j < backends.backEndCnt →
    Below (backends.backEndIps i) (backends.backEndIps j)
  members : ∀ ip, ip ∈ targets ↔ ∃ i < backends.backEndCnt, backends.backEndIps i = ip
  count : backends.backEndCnt = targets.card
  zeros : ∀ i ≥ backends.backEndCnt, backends.backEndIps i = Ipv6.zero

theorem Holds.getElem {lbval : LbBackends} {targets : List Ipv6} (holds : Holds lbval targets)
    {i : Nat} (inside : i < targets.length) :
    lbval.backEndIps i = targets[i] := by
  rw [holds.ips, slotsOf_eq_getD, List.getElem?_eq_getElem inside]
  rfl

theorem Holds.ascending {lbval : LbBackends} {list : List Ipv6} {targets : Finset Ipv6}
    (holds : Holds lbval list) (members : ∀ ip, ip ∈ list ↔ ip ∈ targets) :
    Ascending lbval targets where
  ordered := by
    intro i j before inside
    rw [holds.cnt] at inside
    rw [holds.getElem (before.trans inside), holds.getElem inside]
    exact List.pairwise_iff_getElem.mp holds.ordered i j _ inside before
  members := by
    intro ip
    rw [← members, List.mem_iff_getElem, holds.cnt]
    constructor
    · rintro ⟨i, inside, rfl⟩
      exact ⟨i, inside, holds.getElem inside⟩
    · rintro ⟨i, inside, rfl⟩
      exact ⟨i, inside, (holds.getElem inside).symm⟩
  count := by
    have same : list.toFinset = targets := by
      ext ip
      rw [List.mem_toFinset, members]
    rw [holds.cnt, ← same, List.toFinset_card_of_nodup holds.nodup]
  zeros := by
    intro i behind
    rw [holds.ips]
    exact slotsOf_behind _ (holds.cnt ▸ behind)

theorem hasTargets_of_fresh (fresh : backendsOf config.lbs lbId = some .zeroed) :
    HasTargets config lbId ∅ :=
  ⟨.zeroed, [], fresh, holds_zeroed, by simp⟩

/-- Two load balancers without targets, on any two hosts, are given targets by
granted requests.  If the same targets are left, and some are, then the array
and the table of both are the same. -/
theorem targets_historyIndependent {firstRules secondRules : FlowKey → Nat} {first second : Config}
    {firstId secondId : LbId} {firstRequests secondRequests : List TargetRequest}
    {firstAfter secondAfter : Config} (firstFresh : backendsOf first.lbs firstId = some .zeroed)
    (secondFresh : backendsOf second.lbs secondId = some .zeroed)
    (firstServed : serveTargets firstRules firstId first firstRequests = some firstAfter)
    (secondServed : serveTargets secondRules secondId second secondRequests = some secondAfter)
    (same : targetsAfter firstRequests = targetsAfter secondRequests)
    (nonempty : (targetsAfter firstRequests).Nonempty) :
    ∃ backends, backendsOf firstAfter.lbs firstId = some backends ∧
        backendsOf secondAfter.lbs secondId = some backends ∧
        Ascending backends (targetsAfter firstRequests) ∧
        backends.maglevHash = dpMaglevPopulate backends.backEndIps backends.backEndCnt := by
  obtain ⟨backends, list, found, holds, members⟩ :=
    hasTargets_serveTargets (hasTargets_of_fresh firstFresh) firstServed
  obtain ⟨others, otherList, otherFound, otherHolds, otherMembers⟩ :=
    hasTargets_serveTargets (hasTargets_of_fresh secondFresh) secondServed
  change ∀ ip, ip ∈ list ↔ ip ∈ targetsAfter firstRequests at members
  change ∀ ip, ip ∈ otherList ↔ ip ∈ targetsAfter secondRequests at otherMembers
  have some_ : list ≠ [] := by
    obtain ⟨ip, target⟩ := nonempty
    exact List.ne_nil_of_mem ((members ip).mpr target)
  obtain rfl : backends = others :=
    holds.eq_of_mem_iff otherHolds (fun ip => by rw [members, otherMembers, same]) some_
  refine ⟨backends, found, otherFound, holds.ascending members, ?_⟩
  rw [holds.hash some_, holds.ips, holds.cnt]

def balancerHost : Config where
  tables :=
    { conf := { underlayIp := Ipv6.zero, ipsecEnabled := false }
      ports := PortTable.empty
      vnfs := VnfTables.empty
      ifaceIds := fun _ => none
      pf0 := 0
      pf1 := 1 }
  network := Network.empty
  vnis := fun _ => none
  lbs :=
    (dpCreateLb ⟨true, true⟩ .empty
      { lbId := "lb"
        vni := 100
        addr := .v4 0x0a000064
        lbports := [⟨80, 6⟩]
        ulAddr6 := Ipv6.zero }
      ⟨0xfc00000100000000, 100⟩).1
  fwall := fun _ => []
  flows := FlowStore.empty

def targetIp (sfx : UInt64) : IpAddress :=
  .v6 ⟨0xfc00000200000000, sfx⟩

/-- The targets that stay are given in two orders, once with another one that
is deleted again. -/
theorem balancerHost_historyIndependent : ∃ first second,
      serveTargets (fun _ => 0) "lb" balancerHost
          [.create (targetIp 7), .create (targetIp 5), .create (targetIp 6), .delete (targetIp 5)] =
        some first ∧
      serveTargets (fun _ => 0) "lb" balancerHost [.create (targetIp 6), .create (targetIp 7)] =
        some second ∧
      backendsOf first.lbs "lb" = backendsOf second.lbs "lb" := by
  obtain ⟨first, firstServed⟩ : ∃ first,
        serveTargets (fun _ => 0) "lb" balancerHost
            [.create (targetIp 7), .create (targetIp 5), .create (targetIp 6),
              .delete (targetIp 5)] =
          some first :=
    Option.isSome_iff_exists.mp (by decide +kernel)
  obtain ⟨second, secondServed⟩ : ∃ second,
        serveTargets (fun _ => 0) "lb" balancerHost [.create (targetIp 6), .create (targetIp 7)] =
          some second :=
    Option.isSome_iff_exists.mp (by decide +kernel)
  obtain ⟨backends, firstFound, secondFound, -⟩ :=
    targets_historyIndependent (by rfl) (by rfl) firstServed secondServed
      (by decide +kernel) ⟨⟨0xfc00000200000000, 6⟩, by decide +kernel⟩
  exact ⟨first, second, firstServed, secondServed, firstFound.trans secondFound.symm⟩

end DpService.Lb

import DpService.Dataplane.Ports
import DpService.Flow.Store

/-!
# Firewall rules

The rules of a port, how one of them is matched against a packet, and the
decision taken from the lists of the two ports a packet passes between.
Egress and ingress rules of a port are kept in one list in the order in which
they were added.
-/

namespace DpService.Firewall

open Foundations Packet Dataplane Flow

/-! ## Rules -/

inductive FwallDirection where
  | ingress
  | egress
  deriving DecidableEq, Repr

/-- `struct dp_ip_mask`: an IPv4 mask takes the first four of the sixteen
bytes. -/
structure IpMask where
  ip6 : Ipv6
  deriving DecidableEq, Repr

namespace IpMask

def zero : IpMask :=
  ⟨Ipv6.zero⟩

/-- The first four bytes as a number of the little-endian host. -/
def ip4 (mask : IpMask) : UInt32 :=
  (beNat (mask.ip6.toBytes.take 4).reverse).toUInt32

def setIp4 (mask : IpMask) (value : UInt32) : IpMask where
  ip6 := .ofBytes ((beBytes 4 value.toNat).reverse ++ mask.ip6.toBytes.drop 4)

end IpMask

/-- The union `filter` of a rule: two port ranges, or the ICMP type and code
in the place of the source range. -/
structure RuleFilter where
  word0 : UInt32
  word1 : UInt32
  word2 : UInt32
  word3 : UInt32
  deriving DecidableEq, Repr

namespace RuleFilter

def srcPortLower (filter : RuleFilter) : UInt32 :=
  filter.word0

def srcPortUpper (filter : RuleFilter) : UInt32 :=
  filter.word1

def dstPortLower (filter : RuleFilter) : UInt32 :=
  filter.word2

def dstPortUpper (filter : RuleFilter) : UInt32 :=
  filter.word3

def icmpType (filter : RuleFilter) : UInt32 :=
  filter.word0

def icmpCode (filter : RuleFilter) : UInt32 :=
  filter.word1

end RuleFilter

structure DpFwallRule where
  ruleId : List UInt8
  srcIp : IpAddress
  destIp : IpAddress
  srcMask : IpMask
  destMask : IpMask
  priority : UInt16
  protocol : UInt8
  filter : RuleFilter
  action : FwallAction
  dir : FwallDirection
  deriving DecidableEq, Repr

/-- `DP_FWALL_MATCH_ANY_PORT`, which is also the wildcard for ICMP. -/
def matchAny : UInt32 :=
  0xFFFFFFFF

def matchAnyProtocol : UInt8 :=
  0

/-! ## Matching -/

/-- One of the two address conditions of `dp_is_rule_matching`. -/
def addressMatches (l3Type : UInt16) (address : UnionAddr) (ruleIp : IpAddress)
    (mask : IpMask) : Bool :=
  if l3Type = etherTypeIpv4 then
    match ruleIp with
    | .v4 ip => address.addr &&& mask.ip4 = ip &&& mask.ip4
    | .v6 _ => false
  else if l3Type = etherTypeIpv6 then
    match ruleIp with
    | .v4 _ => false
    | .v6 ip => dpMaskedIpv6Match address.addr6 ip mask.ip6
  else false

def portMatches (port : UInt16) (lower upper : UInt32) : Bool :=
  lower = matchAny || (lower ≤ port.toUInt32 && port.toUInt32 ≤ upper)

def protocolMatches (rule : DpFwallRule) (protocol : UInt8) : Bool :=
  rule.protocol = matchAnyProtocol || rule.protocol = protocol

def headerMatches (rule : DpFwallRule) (df : DpFlow) (protocol : UInt8) : Bool :=
  addressMatches df.l3Type df.src rule.srcIp rule.srcMask &&
    addressMatches df.l3Type df.dst rule.destIp rule.destMask &&
    portMatches df.l4Info.srcPort rule.filter.srcPortLower rule.filter.srcPortUpper &&
    portMatches df.l4Info.dstPort rule.filter.dstPortLower rule.filter.dstPortUpper &&
    protocolMatches rule protocol

/-- The type and the code of an ICMP packet against the filter of a rule. -/
def icmpMatches (rule : DpFwallRule) (info : L4Info) : Bool :=
  (rule.filter.icmpType = matchAny || info.icmpType.toUInt32 = rule.filter.icmpType) &&
    (rule.filter.icmpCode = matchAny || info.icmpCode.toUInt32 = rule.filter.icmpCode)

def dpIsRuleMatching (rule : DpFwallRule) (df : DpFlow) : Bool :=
  if df.l4Type = ipprotoTcp then protocolMatches rule ipprotoTcp && headerMatches rule df df.l4Type
  else if df.l4Type = ipprotoUdp then
    protocolMatches rule ipprotoUdp && headerMatches rule df df.l4Type
  else if df.l4Type = ipprotoIcmp || df.l4Type = ipprotoIcmpv6 then
    -- An ICMP rule with IPv6 addresses stands for ICMPv6.
    let protocol := if df.l3Type = etherTypeIpv6 then ipprotoIcmp else df.l4Type
    protocolMatches rule ipprotoIcmp &&
      (icmpMatches rule df.l4Info && protocolMatches rule protocol ||
        headerMatches rule df protocol)
  else false

/-- The counting of `dp_is_matched_in_fwall_list`.  The counter is an optional
out-parameter: counting an egress rule without it is an access through a null
pointer, and the result is `none`. -/
def countEgress (rule : DpFwallRule) (egressRuleCount : Option UInt32) : Option (Option UInt32) :=
  if rule.dir = .egress then egressRuleCount.map fun count => some (count + 1)
  else some egressRuleCount

def dpIsMatchedInFwallList (df : DpFlow) (dir : FwallDirection) :
    List DpFwallRule → Option UInt32 → Option (Option DpFwallRule × Option UInt32)
  | [], egressRuleCount => some (none, egressRuleCount)
  | rule :: rules, egressRuleCount =>
    (countEgress rule egressRuleCount).bind fun egressRuleCount =>
      if dir = rule.dir ∧ dpIsRuleMatching rule df then some (some rule, egressRuleCount)
      else dpIsMatchedInFwallList df dir rules egressRuleCount

def dpGetEgressAction (df : DpFlow) (fwallHead : List DpFwallRule) :
    Option FwallAction := do
  let (rule, egressRuleCount) ←
    dpIsMatchedInFwallList df .egress fwallHead (some 0)
  match rule with
  | some rule => some rule.action
  | none => some (if egressRuleCount = some 0 then .accept else .drop)

structure FwallPort where
  isPf : Bool
  fwallHead : List DpFwallRule
  deriving DecidableEq, Repr

def dpGetFirewallAction (df : DpFlow) (inPort outPort : FwallPort) : Option FwallAction :=
  if outPort.isPf then dpGetEgressAction df inPort.fwallHead
  else do
    let egressAction ←
      if inPort.isPf then some .accept
      else dpGetEgressAction df inPort.fwallHead
    if egressAction ≠ .accept then some .drop
    else do
      let (rule, _) ←
        dpIsMatchedInFwallList df .ingress outPort.fwallHead none
      match rule with
      | some rule => some (if rule.action ≠ .accept then .drop else .accept)
      | none => some .drop

def firstMatch (df : DpFlow) (dir : FwallDirection)
    (rules : List DpFwallRule) : Option DpFwallRule :=
  rules.find? fun rule => dir = rule.dir && dpIsRuleMatching rule df

def beforeMatch (df : DpFlow) (dir : FwallDirection)
    (rules : List DpFwallRule) : List DpFwallRule :=
  rules.takeWhile fun rule => !(dir = rule.dir && dpIsRuleMatching rule df)

def egressCount (rules : List DpFwallRule) : Nat :=
  rules.countP fun rule => rule.dir = .egress

def egressVerdict (df : DpFlow) (rules : List DpFwallRule) : FwallAction :=
  match firstMatch df .egress rules with
  | some rule => rule.action
  | none => if egressCount rules = 0 then .accept else .drop

def ingressVerdict (df : DpFlow) (rules : List DpFwallRule) : FwallAction :=
  match firstMatch df .ingress rules with
  | some rule => rule.action
  | none => .drop

def firewallVerdict (df : DpFlow) (inPort outPort : FwallPort) : FwallAction :=
  if outPort.isPf then egressVerdict df inPort.fwallHead
  else if (inPort.isPf ∨ egressVerdict df inPort.fwallHead = .accept) ∧
        ingressVerdict df outPort.fwallHead = .accept then
    .accept
  else .drop

/-! ## The traversal -/

theorem countEgress_some (rule : DpFwallRule) (count : UInt32) : countEgress rule (some count) =
      some (some (count + UInt32.ofNat (if rule.dir = .egress then 1 else 0))) := by
  by_cases egress : rule.dir = .egress <;> simp [countEgress, egress]

/-- With a counter, the traversal finds the rule that applies and has counted
every egress rule when there is none. -/
theorem dpIsMatchedInFwallList_counting (df : DpFlow) (dir : FwallDirection)
    (rules : List DpFwallRule) (count : UInt32) :
    ∃ final, dpIsMatchedInFwallList df dir rules (some count) =
          some (firstMatch df dir rules, some final) ∧
        (firstMatch df dir rules = none → final = count + UInt32.ofNat (egressCount rules)) := by
  induction rules generalizing count with
  | nil => exact ⟨count, rfl, fun _ => by simp [egressCount]⟩
  | cons rule rules ih =>
    rw [dpIsMatchedInFwallList, countEgress_some, Option.bind_some]
    by_cases applies : dir = rule.dir ∧ dpIsRuleMatching rule df
    · have found : firstMatch df dir (rule :: rules) = some rule := by
        simp [firstMatch, applies]
      rw [if_pos applies, found]
      exact ⟨_, rfl, nofun⟩
    obtain ⟨final, found, total⟩ :=
      ih (count + UInt32.ofNat (if rule.dir = .egress then 1 else 0))
    have skipped : firstMatch df dir (rule :: rules) = firstMatch df dir rules := by
      have fails : ¬(decide (dir = rule.dir) && dpIsRuleMatching rule df) = true := by
        simpa using applies
      exact List.find?_cons_of_neg fails
    refine ⟨final, ?_, ?_⟩
    · rw [if_neg applies, found, skipped]
    intro missing
    rw [skipped] at missing
    rw [total missing, egressCount, egressCount,
      List.countP_cons, UInt32.add_assoc, ← UInt32.ofNat_add, Nat.add_comm (List.countP _ rules)]
    simp

/-- Without a counter, the traversal of the ingress rules faults at an egress
rule in front of the one that applies. -/
theorem dpIsMatchedInFwallList_uncounted (df : DpFlow) (rules : List DpFwallRule) :
    dpIsMatchedInFwallList df .ingress rules none =
      if ∀ rule ∈ beforeMatch df .ingress rules, rule.dir ≠ .egress then
        some (firstMatch df .ingress rules, none)
      else none := by
  induction rules with
  | nil => simp [dpIsMatchedInFwallList, beforeMatch, firstMatch]
  | cons rule rules ih =>
    rw [dpIsMatchedInFwallList]
    cases direction : rule.dir with
    | egress => simp [beforeMatch, countEgress, direction]
    | ingress => ?_
    by_cases applies : dpIsRuleMatching rule df = true
    · simp [beforeMatch, firstMatch, countEgress, direction, applies]
    simp only [Bool.not_eq_true] at applies
    have skipped : firstMatch df .ingress (rule :: rules) = firstMatch df .ingress rules := by
      simp [firstMatch, direction, applies]
    have passed : beforeMatch df .ingress (rule :: rules) =
          rule :: beforeMatch df .ingress rules := by
      simp [beforeMatch, direction, applies]
    rw [skipped, passed]
    simp [countEgress, direction, applies, ih]

/-! ## The decision of the code -/

/-- No rule applies, and the 32-bit counter is back at zero over the egress
rules of the list. -/
def CounterWraps (df : DpFlow) (rules : List DpFwallRule) : Prop :=
  firstMatch df .egress rules = none ∧ egressCount rules ≠ 0 ∧ egressCount rules % 2 ^ 32 = 0

instance (df : DpFlow) (rules : List DpFwallRule) :
    Decidable (CounterWraps df rules) :=
  inferInstanceAs (Decidable (_ ∧ _))

theorem dpGetEgressAction_eq (df : DpFlow) (rules : List DpFwallRule) : dpGetEgressAction df rules =
      some (if CounterWraps df rules then .accept
        else egressVerdict df rules) := by
  obtain ⟨final, traversed, total⟩ := dpIsMatchedInFwallList_counting df .egress rules 0
  rw [dpGetEgressAction, traversed]
  cases found : firstMatch df .egress rules with
  | some rule => simp [CounterWraps, egressVerdict, found]
  | none => ?_
  have zero_iff : final = 0 ↔ egressCount rules % 2 ^ 32 = 0 := by
    rw [total found, UInt32.zero_add, ← UInt32.toNat_inj, UInt32.toNat_ofNat', UInt32.toNat_zero]
  by_cases empty : egressCount rules = 0
  · simp [CounterWraps, egressVerdict, found, zero_iff, empty]
  · simp [CounterWraps, egressVerdict, found, zero_iff, empty]

/-- The lists of the two ports are such that the decision is the intended
one: the ingress rules are reached without passing an egress rule wherever
they are consulted, and the counter of egress rules does not wrap. -/
def SoundFor (df : DpFlow) (inPort outPort : FwallPort) : Prop :=
  if outPort.isPf then ¬CounterWraps df inPort.fwallHead
  else
    (inPort.isPf ∨ CounterWraps df inPort.fwallHead ∨ egressVerdict df inPort.fwallHead = .accept) →
      (∀ rule ∈ beforeMatch df .ingress outPort.fwallHead, rule.dir ≠ .egress) ∧
        (¬inPort.isPf → CounterWraps df inPort.fwallHead →
          ingressVerdict df outPort.fwallHead = .drop)

theorem egressVerdict_of_counterWraps {df : DpFlow} {rules : List DpFwallRule}
    (wraps : CounterWraps df rules) :
    egressVerdict df rules = .drop := by
  simp [egressVerdict, wraps.1, wraps.2.1]

theorem ingress_stage (df : DpFlow) (rules : List DpFwallRule) :
    ((dpIsMatchedInFwallList df .ingress rules none).bind fun found =>
        match found.1 with
        | some rule => some (if rule.action ≠ .accept then FwallAction.drop else .accept)
        | none => some .drop) =
      if ∀ rule ∈ beforeMatch df .ingress rules, rule.dir ≠ .egress then
        some (ingressVerdict df rules)
      else none := by
  rw [dpIsMatchedInFwallList_uncounted]
  split_ifs with clear
  · cases found : firstMatch df .ingress rules with
    | none => simp [ingressVerdict, found]
    | some rule =>
      cases action : rule.action <;> simp [ingressVerdict, found, action]
  · rfl

def Admitted (df : DpFlow) (inPort : FwallPort) : Prop :=
  inPort.isPf ∨ CounterWraps df inPort.fwallHead ∨ egressVerdict df inPort.fwallHead = .accept

instance (df : DpFlow) (inPort : FwallPort) :
    Decidable (Admitted df inPort) :=
  inferInstanceAs (Decidable (_ ∨ _))

theorem dpGetFirewallAction_of_vf (df : DpFlow) (inPort : FwallPort) {outPort : FwallPort}
    (vf : outPort.isPf = false) :
    dpGetFirewallAction df inPort outPort =
      if Admitted df inPort then
        if ∀ rule ∈ beforeMatch df .ingress outPort.fwallHead,
            rule.dir ≠ .egress then
          some (ingressVerdict df outPort.fwallHead)
        else none
      else some .drop := by
  rw [← ingress_stage]
  cases pf : inPort.isPf with
  | true => simp [dpGetFirewallAction, vf, pf, Admitted]
  | false => ?_
  by_cases wraps : CounterWraps df inPort.fwallHead
  · simp [dpGetFirewallAction, vf, pf, Admitted, dpGetEgressAction_eq, wraps]
  cases verdict : egressVerdict df inPort.fwallHead <;>
    simp [dpGetFirewallAction, vf, pf, Admitted, dpGetEgressAction_eq, wraps, verdict]

theorem firewallVerdict_of_vf (df : DpFlow) (inPort : FwallPort) {outPort : FwallPort}
    (vf : outPort.isPf = false) :
    firewallVerdict df inPort outPort =
      if inPort.isPf ∨ egressVerdict df inPort.fwallHead = .accept then
        ingressVerdict df outPort.fwallHead
      else .drop := by
  cases ingress : ingressVerdict df outPort.fwallHead <;>
    simp [firewallVerdict, vf, ingress]

/-- The decision is reached without an invalid access and is the intended one
exactly for the lists that are sound. -/
theorem dpGetFirewallAction_eq_verdict_iff (df : DpFlow) (inPort outPort : FwallPort) :
    dpGetFirewallAction df inPort outPort = some (firewallVerdict df inPort outPort) ↔
      SoundFor df inPort outPort := by
  cases pf : outPort.isPf with
  | true =>
    by_cases wraps : CounterWraps df inPort.fwallHead
    · simp [dpGetFirewallAction, firewallVerdict, SoundFor, pf,
        dpGetEgressAction_eq, wraps, egressVerdict_of_counterWraps wraps]
    · simp [dpGetFirewallAction, firewallVerdict, SoundFor, pf, dpGetEgressAction_eq, wraps]
  | false => ?_
  rw [dpGetFirewallAction_of_vf df inPort pf, firewallVerdict_of_vf df inPort pf, SoundFor, pf,
    if_neg Bool.false_ne_true]
  by_cases admitted : Admitted df inPort
  · rw [if_pos admitted]
    by_cases clear : ∀ rule ∈ beforeMatch df .ingress outPort.fwallHead, rule.dir ≠ .egress
    · rw [if_pos clear]
      by_cases leaves : inPort.isPf ∨ egressVerdict df inPort.fwallHead = .accept
      · -- The intended verdict consults the same rules.
        have unwrapped : ¬inPort.isPf → ¬CounterWraps df inPort.fwallHead := by
          intro notPf wraps
          have drop := egressVerdict_of_counterWraps wraps
          rcases leaves with isPf | accept
          · exact notPf isPf
          · rw [drop] at accept
            exact absurd accept (by decide)
        simp only [if_pos leaves, true_iff]
        exact fun _ => ⟨clear, fun notPf wraps => absurd wraps (unwrapped notPf)⟩
      rw [not_or] at leaves
      have wraps : CounterWraps df inPort.fwallHead := by
        rcases admitted with isPf | wraps | accept
        · exact absurd isPf leaves.1
        · exact wraps
        · exact absurd accept leaves.2
      simp only [if_neg (not_or.mpr leaves), Option.some.injEq]
      exact
        ⟨fun drop _ => ⟨clear, fun _ _ => drop⟩, fun sound => (sound admitted).2 leaves.1 wraps⟩
    · rw [if_neg clear]
      exact ⟨nofun, fun sound => absurd (sound admitted).1 clear⟩
  · rw [if_neg admitted, if_neg fun leaves => admitted ?_]
    · exact ⟨fun _ reached => absurd reached admitted, fun _ => rfl⟩
    · exact leaves.imp_right Or.inr

def acceptAll (dir : FwallDirection) : DpFwallRule where
  ruleId := [97]
  srcIp := .v4 0
  destIp := .v4 0
  srcMask := .zero
  destMask := .zero
  priority := 1000
  protocol := matchAnyProtocol
  filter := ⟨matchAny, 0, matchAny, 0⟩
  action := .accept
  dir := dir

def segment : DpFlow :=
  { DpFlow.zeroed with
    l3Type := etherTypeIpv4
    l4Type := ipprotoTcp
    l4Info := ⟨80, 40000⟩ }

/-- A packet from a PF to a VF with one rule for each direction is accepted,
but for an egress rule in front the code counts through a null pointer. -/
theorem egress_in_front_faults :
    firewallVerdict segment ⟨true, []⟩ ⟨false, [acceptAll .egress, acceptAll .ingress]⟩ = .accept ∧
      dpGetFirewallAction segment ⟨true, []⟩
        ⟨false, [acceptAll .egress, acceptAll .ingress]⟩ = none ∧
      dpGetFirewallAction segment ⟨true, []⟩
        ⟨false, [acceptAll .ingress, acceptAll .egress]⟩ = some .accept := by
  decide +kernel

end DpService.Firewall

import DpService.Foundations.Masks
import DpService.Grpc.Firewall

/-!
# Which packets a rule matches

The intended meaning of a firewall rule, stated over the message that created
it, and the packets for which the match of the worker agrees with it.
-/

namespace DpService.Grpc

open Foundations Packet Flow Firewall
open Dataplane hiding dpProcessCreateInterface

/-! ## The meaning of a rule -/

def ipv6Value (address : Ipv6) : Nat :=
  2 ^ 64 * address.pfx.toNat + address.sfx.toNat

def InPrefix4 (address network : Ipv4) (length : Nat) : Prop :=
  address.toNat / 2 ^ (32 - length) = network.toNat / 2 ^ (32 - length)

def InPrefix6 (address network : Ipv6) (length : Nat) : Prop :=
  ipv6Value address / 2 ^ (128 - length) = ipv6Value network / 2 ^ (128 - length)

def AddressIn (inet : Inet) (l3Type : UInt16) (address : UnionAddr) (message : Prefix) : Prop :=
  (l3Type = etherTypeIpv4 ∧ message.ip.ipver = .ipv4 ∧
      ∃ network, strToIpv4 inet message.ip.address = some network ∧
        InPrefix4 address.addr network message.length.toNat) ∨
    (l3Type = etherTypeIpv6 ∧ message.ip.ipver = .ipv6 ∧
      ∃ network, strToIpv6 inet.toInet6 message.ip.address = some network ∧
        InPrefix6 address.addr6 network message.length.toNat)

def AddressesIn (inet : Inet) (message : FirewallRule) (df : DpFlow) : Prop :=
  AddressIn inet df.l3Type df.src message.sourcePrefix ∧
    AddressIn inet df.l3Type df.dst message.destinationPrefix

def PortIn (port : UInt16) (lower upper : Int32) : Prop :=
  lower.toUInt32 = matchAny ∨ lower.toUInt32 ≤ port.toUInt32 ∧ port.toUInt32 ≤ upper.toUInt32

def PortsIn (ports : PortFilter) (info : L4Info) : Prop :=
  PortIn info.srcPort ports.srcPortLower ports.srcPortUpper ∧
    PortIn info.dstPort ports.dstPortLower ports.dstPortUpper

def IcmpIn (icmpType icmpCode : Int32) (info : L4Info) : Prop :=
  (icmpType.toUInt32 = matchAny ∨ info.icmpType.toUInt32 = icmpType.toUInt32) ∧
    (icmpCode.toUInt32 = matchAny ∨ info.icmpCode.toUInt32 = icmpCode.toUInt32)

def IsIcmp (df : DpFlow) : Prop :=
  df.l4Type = ipprotoIcmp ∨ df.l4Type = ipprotoIcmpv6

theorem IsIcmp.l4Type_ne {df : DpFlow} (icmp : IsIcmp df) :
    df.l4Type ≠ ipprotoTcp ∧ df.l4Type ≠ ipprotoUdp := by
  rcases icmp with v4 | v6
  · simp [v4, ipprotoIcmp, ipprotoTcp, ipprotoUdp]
  · simp [v6, ipprotoIcmpv6, ipprotoTcp, ipprotoUdp]

/-- The protocol of a packet and its ports or its type and code. -/
def FilterMatches (filter : ProtocolFilter) (df : DpFlow) : Prop :=
  match filter with
  | .notSet => True
  | .tcp ports => df.l4Type = ipprotoTcp ∧ PortsIn ports df.l4Info
  | .udp ports => df.l4Type = ipprotoUdp ∧ PortsIn ports df.l4Info
  | .icmp icmpType icmpCode => IsIcmp df ∧ IcmpIn icmpType icmpCode df.l4Info

def RuleMatches (inet : Inet) (message : FirewallRule) (df : DpFlow) : Prop :=
  AddressesIn inet message df ∧ FilterMatches message.protocolFilter df

def KnownHeader (df : DpFlow) : Prop :=
  (df.l3Type = etherTypeIpv4 ∨ df.l3Type = etherTypeIpv6) ∧
    (df.l4Type = ipprotoTcp ∨ df.l4Type = ipprotoUdp ∨ IsIcmp df)

/-! ## Masks -/

theorem ipv4Mask_eq : ∀ length ∈ List.range 33,
      (ipv4PrefixLenToMask (UInt32.ofNat length) .zero).map (fun mask => mask.ip4.toNat) =
        some (2 ^ 32 - 2 ^ (32 - length)) := by
  decide +kernel

theorem ipv6Mask_eq : ∀ length ∈ List.range 129, ipv6Value (.ofBytes (maskBytes length)) =
        2 ^ 128 - 2 ^ (128 - length) := by
  decide +kernel

theorem ipv6Value_lt (address : Ipv6) : ipv6Value address < 2 ^ 128 := by
  have high := address.pfx.toNat_lt
  have low := address.sfx.toNat_lt
  unfold ipv6Value
  omega

theorem masked4_iff {message : Prefix} {mask : IpMask}
    (masked : ipv4PrefixLenToMask message.length .zero = some mask) (address network : Ipv4) :
    address &&& mask.ip4 = network &&& mask.ip4 ↔
      InPrefix4 address network message.length.toNat := by
  obtain ⟨bounded, -⟩ := ipv4PrefixLenToMask_eq_some masked
  have value := ipv4Mask_eq message.length.toNat (List.mem_range.mpr (by omega))
  rw [UInt32.ofNat_toNat, masked, Option.map_some, Option.some.injEq] at value
  rw [← UInt32.toNat_inj, UInt32.toNat_and, UInt32.toNat_and, value]
  exact land_leadingMask_eq_iff address.toNat_lt network.toNat_lt (Nat.sub_le 32 _)

theorem masked6_iff {message : Prefix} {mask : IpMask}
    (masked : ipv6PrefixLenToMask message.length = some mask) (address network : Ipv6) :
    dpMaskedIpv6Match address network mask.ip6 = true ↔
      InPrefix6 address network message.length.toNat := by
  obtain ⟨bounded, rfl⟩ := ipv6PrefixLenToMask_eq_some masked
  have value := ipv6Mask_eq message.length.toNat (List.mem_range.mpr (by omega))
  generalize Ipv6.ofBytes (maskBytes message.length.toNat) = mask at value ⊢
  have maskLow := mask.sfx.toNat_lt
  have halves (address : Ipv6) : ipv6Value address &&& ipv6Value mask =
        2 ^ 64 * (address.pfx.toNat &&& mask.pfx.toNat) + (address.sfx.toNat &&& mask.sfx.toNat) :=
    land_halves _ _ address.sfx.toNat_lt maskLow
  have low (address : Ipv6) : address.sfx.toNat &&& mask.sfx.toNat < 2 ^ 64 :=
    lt_of_le_of_lt Nat.and_le_left address.sfx.toNat_lt
  rw [InPrefix6,
    ← land_leadingMask_eq_iff (ipv6Value_lt address) (ipv6Value_lt network) (Nat.sub_le 128 _),
    ← value, halves, halves, halves_eq_iff (low _) (low _)]
  simp only [dpMaskedIpv6Match, Bool.and_eq_true, beq_iff_eq, ← UInt64.toNat_inj, UInt64.toNat_and]

theorem PrefixStored.addressMatches_iff {inet : Inet} {message : Prefix} {ip : IpAddress}
    {mask : IpMask} (stored : PrefixStored inet message ip mask) (l3Type : UInt16)
    (address : UnionAddr) :
    addressMatches l3Type address ip mask = true ↔ AddressIn inet l3Type address message := by
  have different : etherTypeIpv6 ≠ etherTypeIpv4 := by decide
  unfold addressMatches
  cases stored with
  | v4 version parsed masked =>
    simp only [AddressIn, version, parsed, reduceCtorEq, false_and,
      and_false, or_false, true_and, Option.some.injEq, exists_eq_left']
    split_ifs with ipv4 ipv6
    · simp [ipv4, masked4_iff masked]
    · simp [ipv4]
    · simp [ipv4]
  | v6 version parsed masked =>
    simp only [AddressIn, version, parsed, reduceCtorEq, false_and,
      and_false, false_or, true_and, Option.some.injEq, exists_eq_left']
    split_ifs with ipv4 ipv6
    · simp [ipv4, different.symm]
    · simp [ipv6, masked6_iff masked]
    · simp [ipv6]

/-! ## The match of the worker -/

theorem portMatches_iff (port : UInt16) (lower upper : Int32) :
    portMatches port lower.toUInt32 upper.toUInt32 = true ↔ PortIn port lower upper := by
  simp [portMatches, PortIn]

theorem portMatches_any (port : UInt16) (upper : UInt32) :
    portMatches port matchAny upper = true := by
  simp [portMatches]

theorem portMatches_zero_iff (port : UInt16) : portMatches port 0 0 = true ↔ port = 0 := by
  have nonzero : (0 : UInt32) ≠ matchAny := by decide
  have widened : port.toUInt32 ≤ 0 ↔ port = 0 := by
    rw [UInt32.le_iff_toNat_le, UInt16.toNat_toUInt32, ← UInt16.toNat_inj]
    simp
  simp [portMatches, nonzero, widened]

theorem RuleStored.headerMatches_iff {inet : Inet} {message : FirewallRule} {rule : DpFwallRule}
    (stored : RuleStored inet message rule) (df : DpFlow) (protocol : UInt8) :
    headerMatches rule df protocol = true ↔ AddressesIn inet message df ∧
        portMatches df.l4Info.srcPort rule.filter.word0 rule.filter.word1 ∧
        portMatches df.l4Info.dstPort rule.filter.word2 rule.filter.word3 ∧
        protocolMatches rule protocol := by
  simp only [headerMatches, Bool.and_eq_true,
    stored.source.addressMatches_iff, stored.destination.addressMatches_iff,
    AddressesIn, RuleFilter.srcPortLower, RuleFilter.srcPortUpper,
    RuleFilter.dstPortLower, RuleFilter.dstPortUpper, and_assoc]

/-- The words of an ICMP filter read as port ranges match the packet, as they
are compared when the type or the code differs. -/
def StrayPorts (icmpType icmpCode : Int32) (info : L4Info) : Prop :=
  PortIn info.srcPort icmpType icmpCode ∧ info.dstPort = 0

/-- The packets that the worker judges as the rule says: all TCP and UDP
packets, and those ICMP packets for which the missing address check and the
comparison of the wrong words make no difference. -/
def Judged (inet : Inet) (message : FirewallRule) (df : DpFlow) : Prop :=
  IsIcmp df →
    match message.protocolFilter with
    | .notSet => df.l4Info.icmpCode = 0 → AddressesIn inet message df
    | .icmp icmpType icmpCode =>
      if df.l3Type = etherTypeIpv6 ∨ df.l4Type = ipprotoIcmp then
        (IcmpIn icmpType icmpCode df.l4Info → AddressesIn inet message df) ∧
          (AddressesIn inet message df →
            StrayPorts icmpType icmpCode df.l4Info → IcmpIn icmpType icmpCode df.l4Info)
      else AddressesIn inet message df → ¬IcmpIn icmpType icmpCode df.l4Info
    | .tcp _ => True
    | .udp _ => True

section Stored

variable {inet : Inet} {message : FirewallRule} {rule : DpFwallRule}

theorem RuleStored.transport_iff (stored : RuleStored inet message rule) {df : DpFlow}
    (transport : df.l4Type = ipprotoTcp ∨ df.l4Type = ipprotoUdp) :
    (protocolMatches rule df.l4Type && headerMatches rule df df.l4Type) = true ↔
      RuleMatches inet message df := by
  rw [Bool.and_eq_true, stored.headerMatches_iff, RuleMatches]
  cases requested : message.protocolFilter with
  | notSet =>
    simp [protocolMatches, FilterMatches, stored.protocol, stored.filter,
      requested, storedFilter, portMatches_any]
  | tcp ports =>
    have other : matchAnyProtocol ≠ ipprotoTcp := by decide
    simp only [protocolMatches, FilterMatches, stored.protocol,
      stored.filter, requested, storedFilter, portWords, portMatches_iff,
      PortsIn, Bool.or_eq_true, decide_eq_true_eq, other.symm, false_or, eq_comm (a := df.l4Type)]
    tauto
  | udp ports =>
    have other : matchAnyProtocol ≠ ipprotoUdp := by decide
    simp only [protocolMatches, FilterMatches, stored.protocol,
      stored.filter, requested, storedFilter, portWords, portMatches_iff,
      PortsIn, Bool.or_eq_true, decide_eq_true_eq, other.symm, false_or, eq_comm (a := df.l4Type)]
    tauto
  | icmp icmpType icmpCode =>
    have notIcmp : ¬IsIcmp df := fun icmp => transport.elim icmp.l4Type_ne.1 icmp.l4Type_ne.2
    have different : ipprotoIcmp ≠ df.l4Type := by
      intro same
      exact notIcmp (Or.inl same.symm)
    have named : ipprotoIcmp ≠ matchAnyProtocol := by decide
    simp [protocolMatches, FilterMatches, stored.protocol, requested,
      storedFilter, different, named, notIcmp]

theorem icmpMatches_iff {icmpType icmpCode : Int32}
    (words : rule.filter = ⟨icmpType.toUInt32, icmpCode.toUInt32, 0, 0⟩) (info : L4Info) :
    icmpMatches rule info = true ↔ IcmpIn icmpType icmpCode info := by
  simp [icmpMatches, IcmpIn, words, RuleFilter.icmpType, RuleFilter.icmpCode]

theorem icmpMatches_notSet_iff (words : rule.filter = ⟨matchAny, 0, matchAny, 0⟩) (info : L4Info) :
    icmpMatches rule info = true ↔ info.icmpCode = 0 := by
  have nonzero : (0 : UInt32) ≠ matchAny := by decide
  have widened : info.icmpCode.toUInt32 = 0 ↔ info.icmpCode = 0 := by
    rw [← UInt32.toNat_inj, ← UInt8.toNat_inj, UInt8.toNat_toUInt32]
    simp
  simp [icmpMatches, words, RuleFilter.icmpType, RuleFilter.icmpCode, nonzero, widened]

theorem icmpProtocol_eq_iff (df : DpFlow) : ipprotoIcmp =
        (if df.l3Type = etherTypeIpv6 then ipprotoIcmp else df.l4Type) ↔
      df.l3Type = etherTypeIpv6 ∨ df.l4Type = ipprotoIcmp := by
  by_cases ipv6 : df.l3Type = etherTypeIpv6
  · simp [ipv6]
  · simp [ipv6, eq_comm]

theorem RuleStored.icmp_iff (stored : RuleStored inet message rule) {df : DpFlow}
    (icmp : IsIcmp df) :
    ((protocolMatches rule ipprotoIcmp &&
          (icmpMatches rule df.l4Info &&
              protocolMatches rule
                (if df.l3Type = etherTypeIpv6 then ipprotoIcmp
                  else df.l4Type) ||
            headerMatches rule df
              (if df.l3Type = etherTypeIpv6 then ipprotoIcmp
                else df.l4Type))) = true ↔
        RuleMatches inet message df) ↔
      Judged inet message df := by
  simp only [Bool.and_eq_true, Bool.or_eq_true, stored.headerMatches_iff,
    RuleMatches, Judged, icmp, true_implies]
  have protocol := stored.protocol
  have words := stored.filter
  cases requested : message.protocolFilter with
  | notSet =>
    rw [requested] at protocol words
    have anyProtocol (packet : UInt8) : protocolMatches rule packet = true := by
      simp [protocolMatches, protocol, storedFilter]
    simp only [anyProtocol, icmpMatches_notSet_iff words, words,
      storedFilter, portMatches_any, FilterMatches, and_true, true_and]
    tauto
  | tcp ports =>
    rw [requested] at protocol
    have refused : protocolMatches rule ipprotoIcmp = false := by
      rw [protocolMatches, protocol]
      rfl
    simp [refused, FilterMatches, icmp.l4Type_ne.1]
  | udp ports =>
    rw [requested] at protocol
    have refused : protocolMatches rule ipprotoIcmp = false := by
      rw [protocolMatches, protocol]
      rfl
    simp [refused, FilterMatches, icmp.l4Type_ne.2]
  | icmp icmpType icmpCode =>
    rw [requested] at protocol words
    have named : ipprotoIcmp ≠ matchAnyProtocol := by decide
    have taken (packet : UInt8) : protocolMatches rule packet = true ↔ ipprotoIcmp = packet := by
      simp [protocolMatches, protocol, storedFilter, named]
    simp only [taken, icmpProtocol_eq_iff, icmpMatches_iff words, words,
      storedFilter, portMatches_iff, portMatches_zero_iff, FilterMatches,
      icmp, StrayPorts, true_and]
    split_ifs <;> tauto

/-- For every rule that a request creates and every known packet, the match of
the worker is the meaning of the rule exactly for the packets it judges
right. -/
theorem dpIsRuleMatching_iff {request : CreateFirewallRuleRequest} {ifaceId : IfaceId}
    (filled : fillFirewallRule inet request = .ok (ifaceId, rule)) {df : DpFlow}
    (header : KnownHeader df) :
    (dpIsRuleMatching rule df = true ↔ RuleMatches inet request.rule df) ↔
      Judged inet request.rule df := by
  obtain ⟨-, -, -, stored⟩ := fillFirewallRule_eq_ok filled
  have udpTcp : ipprotoUdp ≠ ipprotoTcp := by decide
  rcases header.2 with tcp | udp | icmp
  · have judged : Judged inet request.rule df := fun icmp => absurd tcp icmp.l4Type_ne.1
    have same := stored.transport_iff (Or.inl tcp)
    rw [tcp] at same
    simp only [dpIsRuleMatching, tcp, if_true, same, judged]
  · have judged : Judged inet request.rule df := fun icmp => absurd udp icmp.l4Type_ne.2
    have same := stored.transport_iff (Or.inr udp)
    rw [udp] at same
    simp only [dpIsRuleMatching, udp, udpTcp, if_true, if_false, same, judged]
  obtain ⟨notTcp, notUdp⟩ := icmp.l4Type_ne
  have isIcmp :
      (decide (df.l4Type = ipprotoIcmp) ||
        decide (df.l4Type = ipprotoIcmpv6)) = true := by
    simpa [IsIcmp] using icmp
  rw [← stored.icmp_iff icmp]
  simp only [dpIsRuleMatching, notTcp, notUdp, isIcmp, if_true, if_false]

end Stored

/-- The rule that `webRule4` creates: the mask of eight bits lies in the fourth
byte of the little-endian word. -/
def webFwallRule : DpFwallRule where
  ruleId := [119, 101, 98]
  srcIp := .v4 0x0a000000
  destIp := .v4 0
  srcMask := ⟨0x000000ff00000000, 0⟩
  destMask := .zero
  priority := 1000
  protocol := ipprotoTcp
  filter := ⟨matchAny, matchAny, 443, 443⟩
  action := .accept
  dir := .ingress

theorem webRule4_judged : dpIsRuleMatching webFwallRule segment = true ↔
      RuleMatches fullFormInet webRule4.rule segment :=
  (dpIsRuleMatching_iff
    (show fillFirewallRule fullFormInet webRule4 = .ok ("guest", webFwallRule)
      by decide +kernel)
    (show KnownHeader segment from ⟨Or.inl rfl, Or.inl rfl⟩)).mpr
      fun icmp => absurd (show segment.l4Type = ipprotoTcp from rfl) icmp.l4Type_ne.1

def pingRule : CreateFirewallRuleRequest :=
  { webRule4 with rule := { webRule4.rule with protocolFilter := .icmp 8 (-1) } }

def strangerPing : DpFlow :=
  { DpFlow.zeroed with
    l3Type := etherTypeIpv4
    l4Type := ipprotoIcmp
    src := UnionAddr.zero.setAddr 0xc0a80001
    l4Info := ⟨0x0800, 77⟩ }

/-- The echo request matches the rule although its source address is not in
the prefix of the rule. -/
theorem pingRule_matches_stranger :
    (fillFirewallRule fullFormInet pingRule).map
        (fun filled => dpIsRuleMatching filled.2 strangerPing) = .ok true ∧
      ¬RuleMatches fullFormInet pingRule.rule strangerPing := by
  refine ⟨by decide +kernel, ?_⟩
  rintro ⟨⟨source, -⟩, -⟩
  rcases source with ⟨-, -, network, parsed, inside⟩ | ⟨ipv6, -⟩
  · have address : strToIpv4 fullFormInet pingRule.rule.sourcePrefix.ip.address =
          some 0x0a000000 := by
      decide +kernel
    obtain rfl := Option.some.inj (address.symm.trans parsed)
    exact absurd inside (by unfold InPrefix4; decide +kernel)
  · exact absurd ipv6 (by decide)

end DpService.Grpc

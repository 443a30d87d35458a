import DpService.Control.Atomicity
import DpService.Grpc.Replies
import DpService.Grpc.RoundTrip

/-!
# Firewall rule calls

The conversions between the protobuf messages of the firewall calls and the
rules of the worker.  A prefix length is stored as a mask in a union of both
families, and a protocol filter as words that the protocol gives a meaning.
-/

namespace DpService.Grpc

open Flow Firewall Control Nodes
open Dataplane hiding dpProcessCreateInterface

/-! ## Messages -/

inductive IpVersion where
  | ipv4
  | ipv6
  | unrecognized (number : Int)
  deriving DecidableEq, Repr

structure GrpcIpAddress where
  ipver : IpVersion
  address : StdString
  deriving DecidableEq, Repr

structure Prefix where
  ip : GrpcIpAddress
  length : UInt32
  deriving DecidableEq, Repr

inductive FirewallAction where
  | drop
  | accept
  | unrecognized (number : Int)
  deriving DecidableEq, Repr

structure PortFilter where
  srcPortLower : Int32
  srcPortUpper : Int32
  dstPortLower : Int32
  dstPortUpper : Int32
  deriving DecidableEq

inductive ProtocolFilter where
  | notSet
  | icmp (icmpType icmpCode : Int32)
  | tcp (ports : PortFilter)
  | udp (ports : PortFilter)
  deriving DecidableEq

structure FirewallRule where
  id : StdString
  direction : TrafficDirection
  action : FirewallAction
  priority : UInt32
  sourcePrefix : Prefix
  destinationPrefix : Prefix
  protocolFilter : ProtocolFilter
  deriving DecidableEq

structure CreateFirewallRuleRequest where
  interfaceId : StdString
  rule : FirewallRule
  deriving DecidableEq

/-! ## Conversions to the worker -/

/-- `inet_pton` and `inet_ntop` for both families, with IPv4 addresses in host
byte order. -/
structure Inet extends Inet6 where
  pton4 : StdString → Option Ipv4
  ntop4 : Ipv4 → StdString

def strToIpv4 (inet : Inet) (str : StdString) : Option Ipv4 :=
  inet.pton4 (cStr str)

def grpcToDpAddress (inet : Inet) (address : GrpcIpAddress) : Option IpAddress :=
  match address.ipver with
  | .ipv4 => (strToIpv4 inet address.address).map .v4
  | .ipv6 => (strToIpv6 inet.toInet6 address.address).map .v6
  | .unrecognized _ => none

def snprintfFailed (size : Nat) (src : StdString) : Bool :=
  src.isEmpty || size ≤ (cStr src).length

def dpIfaceIdMaxLen : Nat :=
  64

def dpFirewallIdMaxLen : Nat :=
  64

def ifaceIdOf (str : StdString) : IfaceId :=
  String.ofList ((cStr str).map fun byte => Char.ofNat byte.toNat)

def ipv4PrefixLenToMask (prefixLength : UInt32) (mask : IpMask) : Option IpMask :=
  if 32 < prefixLength then none
  else if prefixLength = 0 then some (mask.setIp4 0)
  else some (mask.setIp4 (~~~((1 <<< (32 - prefixLength)) - 1)))

/-- The array of `Ipv6PrefixLenToMask`: bit after bit from the left. -/
def maskBytes (prefixLength : Nat) : List UInt8 :=
  (List.range prefixLength).foldl
    (fun bytes i => bytes.modify (i / 8) fun byte => byte ||| 1 <<< (7 - i % 8).toUInt8)
    (List.replicate 16 0)

def ipv6PrefixLenToMask (prefixLength : UInt32) : Option IpMask :=
  if 128 < prefixLength then none
  else some ⟨.ofBytes (maskBytes prefixLength.toNat)⟩

def grpcToDpFwallDirection : TrafficDirection → Option FwallDirection
  | .ingress => some .ingress
  | .egress => some .egress
  | .unrecognized _ => none

def grpcToDpFwallAction : FirewallAction → Option FwallAction
  | .accept => some .accept
  | .drop => some .drop
  | .unrecognized _ => none

def grpcToDpFwallPort (grpcPort : Int32) : Option UInt32 :=
  let port := grpcPort.toUInt32
  if port ≠ matchAny ∧ 65535 < port then none else some port

def orError {α : Type} (error : String) : Option α → Except String α
  | none => .error error
  | some value => .ok value

def refuse (failed : Bool) (error : String) : Except String Unit :=
  if failed then .error error else .ok ()

/-- The part of `CreateFirewallRuleCall::FillRequest` for one of the two
prefixes, whose mask is zero before. -/
def fillPrefix (inet : Inet) (field : String) (message : Prefix) :
    Except String (IpAddress × IpMask) := do
  match message.ip.ipver with
  | .unrecognized _ => .error ("Invalid " ++ field ++ ".ip.ipver")
  | .ipv4 =>
    let ip ← orError ("Invalid " ++ field ++ ".ip")
      (grpcToDpAddress inet message.ip)
    let mask ← orError ("Invalid " ++ field ++ ".length")
      (ipv4PrefixLenToMask message.length .zero)
    .ok (ip, mask)
  | .ipv6 =>
    let ip ← orError ("Invalid " ++ field ++ ".ip")
      (grpcToDpAddress inet message.ip)
    let mask ← orError ("Invalid ip6 " ++ field ++ ".length")
      (ipv6PrefixLenToMask message.length)
    .ok (ip, mask)

def fillPorts (protocol : String) (ports : PortFilter) :
    Except String RuleFilter := do
  let srcLower ← orError ("Invalid " ++ protocol ++ ".src_port_lower")
    (grpcToDpFwallPort ports.srcPortLower)
  let dstLower ← orError ("Invalid " ++ protocol ++ ".dst_port_lower")
    (grpcToDpFwallPort ports.dstPortLower)
  let srcUpper ← orError ("Invalid " ++ protocol ++ ".src_port_upper")
    (grpcToDpFwallPort ports.srcPortUpper)
  let dstUpper ← orError ("Invalid " ++ protocol ++ ".dst_port_upper")
    (grpcToDpFwallPort ports.dstPortUpper)
  refuse (srcLower ≠ matchAny && srcUpper < srcLower) ("Invalid " ++ protocol ++ ".src_port range")
  refuse (dstLower ≠ matchAny && dstUpper < dstLower) ("Invalid " ++ protocol ++ ".dst_port range")
  .ok ⟨srcLower, srcUpper, dstLower, dstUpper⟩

def fillFilter : ProtocolFilter → Except String (UInt8 × RuleFilter)
  | .tcp ports => (fillPorts "tcp" ports).map (Prod.mk Packet.ipprotoTcp)
  | .udp ports => (fillPorts "udp" ports).map (Prod.mk Packet.ipprotoUdp)
  | .icmp icmpType icmpCode => do
      let icmpType := icmpType.toUInt32
      let icmpCode := icmpCode.toUInt32
      refuse (icmpType ≠ matchAny && 255 < icmpType) "Invalid icmp.icmp_type"
      refuse (icmpCode ≠ matchAny && 255 < icmpCode) "Invalid icmp.icmp_code"
      .ok (Packet.ipprotoIcmp, ⟨icmpType, icmpCode, 0, 0⟩)
  | .notSet => .ok (matchAnyProtocol, ⟨matchAny, 0, matchAny, 0⟩)

/-- `CreateFirewallRuleCall::FillRequest`: the interface and the rule of the
request structure. -/
def fillFirewallRule (inet : Inet) (message : CreateFirewallRuleRequest) :
    Except String (IfaceId × DpFwallRule) := do
  let rule := message.rule
  refuse (snprintfFailed dpIfaceIdMaxLen message.interfaceId) "Invalid interface_id"
  refuse (snprintfFailed dpFirewallIdMaxLen rule.id) "Invalid rule id"
  let (srcIp, srcMask) ← fillPrefix inet "source_prefix" rule.sourcePrefix
  let (destIp, destMask) ←
    fillPrefix inet "destination_prefix" rule.destinationPrefix
  let dir ← orError "Invalid direction" (grpcToDpFwallDirection rule.direction)
  let action ← orError "Invalid action" (grpcToDpFwallAction rule.action)
  refuse (65535 < rule.priority) "Invalid priority"
  let (protocol, filter) ← fillFilter rule.protocolFilter
  .ok
    (ifaceIdOf message.interfaceId,
      { ruleId := cStr rule.id
        srcIp, destIp, srcMask, destMask
        priority := rule.priority.toUInt16
        protocol, filter, action, dir })

def popcount (width number : Nat) : Nat :=
  (List.range width).countP (number.testBit ·)

def dpIpv6Popcount (ipv6 : Ipv6) : Nat :=
  popcount 64 ipv6.pfx.toNat + popcount 64 ipv6.sfx.toNat

def dpToGrpcAddress (inet : Inet) : IpAddress → GrpcIpAddress
  | .v4 address => ⟨.ipv4, inet.ntop4 address⟩
  | .v6 address => ⟨.ipv6, inet.ntop address⟩

/-- `SetupIpAndPrefix`: the population count is taken over the whole mask for
IPv4 and over its first four bytes for IPv6. -/
def setupIpAndPrefix (inet : Inet) (ruleIp : IpAddress) (ruleMask : IpMask) : Prefix where
  ip := dpToGrpcAddress inet ruleIp
  length :=
    match ruleIp with
    | .v4 _ => (dpIpv6Popcount ruleMask.ip6).toUInt32
    | .v6 _ => (popcount 32 ruleMask.ip4.toNat).toUInt32

def dpToGrpcPorts (filter : RuleFilter) : PortFilter where
  srcPortLower := filter.srcPortLower.toInt32
  srcPortUpper := filter.srcPortUpper.toInt32
  dstPortLower := filter.dstPortLower.toInt32
  dstPortUpper := filter.dstPortUpper.toInt32

def dpToGrpcFilter (protocol : UInt8) (filter : RuleFilter) : ProtocolFilter :=
  if protocol = Packet.ipprotoTcp then .tcp (dpToGrpcPorts filter)
  else if protocol = Packet.ipprotoUdp then .udp (dpToGrpcPorts filter)
  else if protocol = Packet.ipprotoIcmp then .icmp filter.icmpType.toInt32 filter.icmpCode.toInt32
  else .notSet

def dpToGrpcFwrule (inet : Inet) (rule : DpFwallRule) : FirewallRule where
  id := rule.ruleId
  direction := if rule.dir = .ingress then .ingress else .egress
  action := if rule.action = .accept then .accept else .drop
  priority := rule.priority.toUInt32
  sourcePrefix := setupIpAndPrefix inet rule.srcIp rule.srcMask
  destinationPrefix := setupIpAndPrefix inet rule.destIp rule.destMask
  protocolFilter := dpToGrpcFilter rule.protocol rule.filter

/-! ## Calls -/

def createFirewallRuleCall (inet : Inet) (allocated : Bool) (config : Config)
    (message : CreateFirewallRuleRequest) : Config × CallStatus Unit :=
  match fillFirewallRule inet message with
  | .error error => (config, .invalidArgument error)
  | .ok (ifaceId, rule) =>
    ((dpProcessCreateFwrule allocated config ifaceId rule).1,
      .answered (dpProcessCreateFwrule allocated config ifaceId rule).2)

def dpProcessGetFwrule (config : Config) (ifaceId : IfaceId)
    (ruleId : List UInt8) : Except GrpcErr DpFwallRule :=
  match dpGetPortWithIfaceId config.tables ifaceId with
  | none => .error .noVm
  | some port =>
    match (config.fwall port.portId).find? fun rule => rule.ruleId = ruleId with
    | none => .error .notFound
    | some rule => .ok rule

def getFirewallRuleCall (inet : Inet) (config : Config)
    (interfaceId ruleId : StdString) : CallStatus FirewallRule :=
  if snprintfFailed dpIfaceIdMaxLen interfaceId then .invalidArgument "Invalid interface_id"
  else if snprintfFailed dpFirewallIdMaxLen ruleId then .invalidArgument "Invalid rule_id"
  else
    .answered
      ((dpProcessGetFwrule config (ifaceIdOf interfaceId) (cStr ruleId)).map (dpToGrpcFwrule inet))

def dpProcessListFwrules (config : Config) (ifaceId : IfaceId)
    (msgSize : Nat) : Handler DpFwallRule :=
  match dpGetPortWithIfaceId config.tables ifaceId with
  | none => .single none (grpcError 205)
  | some port => .listing msgSize (config.fwall port.portId) grpcOk

/-- The exchange of a `ListFirewallRules` request on a configuration, in
which the handler finds room for all rules. -/
structure ListsRules (config : Config) (interfaceId : StdString)
    (job : Job DpFwallRule) : Prop where
  type : job.type = .listFirewallRules
  handler : ∃ msgSize, 0 < msgSize ∧ msgSize ≤ job.repMaxSize ∧
      job.handler = dpProcessListFwrules config (ifaceIdOf interfaceId) msgSize
  written : job.Written
  awaited : job.Awaited
  success : job.ret = grpcOk

def listedRules (inet : Inet) (job : Job DpFwallRule) : List FirewallRule :=
  (job.exchange []).1.parsed.map (dpToGrpcFwrule inet)

/-! ## Accepted requests -/

section Except

variable {α β : Type}

theorem bind_eq_ok {value : Except String α} {next : α → Except String β} {result : β} :
    (value >>= next) = .ok result ↔ ∃ found, value = .ok found ∧ next found = .ok result := by
  cases value with
  | error error => exact ⟨nofun, nofun⟩
  | ok found =>
    exact ⟨fun done => ⟨found, rfl, done⟩, fun ⟨_, rfl, done⟩ => done⟩

theorem orError_eq_ok {error : String} {value : Option α} {result : α} :
    orError error value = .ok result ↔ value = some result := by
  cases value <;> simp [orError]

theorem refuse_eq_ok {failed : Bool} {error : String} {result : Unit} :
    refuse failed error = .ok result ↔ failed = false := by
  cases failed <;> simp [refuse]

end Except

/-- An address of one family together with the mask for a length. -/
inductive PrefixStored (inet : Inet) (message : Prefix) :
    IpAddress → IpMask → Prop where
  | v4 {address : Ipv4} {mask : IpMask}
      (version : message.ip.ipver = .ipv4)
      (parsed : strToIpv4 inet message.ip.address = some address)
      (masked : ipv4PrefixLenToMask message.length .zero = some mask) :
      PrefixStored inet message (.v4 address) mask
  | v6 {address : Ipv6} {mask : IpMask}
      (version : message.ip.ipver = .ipv6)
      (parsed : strToIpv6 inet.toInet6 message.ip.address = some address)
      (masked : ipv6PrefixLenToMask message.length = some mask) :
      PrefixStored inet message (.v6 address) mask

theorem fillPrefix_eq_ok {inet : Inet} {field : String} {message : Prefix} {ip : IpAddress}
    {mask : IpMask} (filled : fillPrefix inet field message = .ok (ip, mask)) :
    PrefixStored inet message ip mask := by
  unfold fillPrefix at filled
  cases version : message.ip.ipver with
  | unrecognized number => simp [version] at filled
  | ipv4 =>
    simp only [version, bind_eq_ok, orError_eq_ok, grpcToDpAddress,
      Option.map_eq_some_iff] at filled
    obtain ⟨_, ⟨address, parsed, rfl⟩, _, masked, done⟩ := filled
    obtain ⟨rfl, rfl⟩ := Prod.mk.inj (Except.ok.inj done)
    exact .v4 version parsed masked
  | ipv6 =>
    simp only [version, bind_eq_ok, orError_eq_ok, grpcToDpAddress,
      Option.map_eq_some_iff] at filled
    obtain ⟨_, ⟨address, parsed, rfl⟩, _, masked, done⟩ := filled
    obtain ⟨rfl, rfl⟩ := Prod.mk.inj (Except.ok.inj done)
    exact .v6 version parsed masked

theorem grpcToDpFwallPort_eq_some {grpcPort : Int32} {port : UInt32}
    (converted : grpcToDpFwallPort grpcPort = some port) :
    port = grpcPort.toUInt32 := by
  unfold grpcToDpFwallPort at converted
  dsimp only at converted
  split_ifs at converted
  exact (Option.some.inj converted).symm

def portWords (ports : PortFilter) : RuleFilter :=
  ⟨ports.srcPortLower.toUInt32, ports.srcPortUpper.toUInt32,
    ports.dstPortLower.toUInt32, ports.dstPortUpper.toUInt32⟩

theorem fillPorts_eq_ok {protocol : String} {ports : PortFilter} {filter : RuleFilter}
    (filled : fillPorts protocol ports = .ok filter) :
    filter = portWords ports := by
  simp only [fillPorts, bind_eq_ok, orError_eq_ok] at filled
  obtain ⟨_, srcLower, _, dstLower, _, srcUpper, _, dstUpper, _, -, _, -,
    done⟩ := filled
  obtain rfl := Except.ok.inj done
  rw [grpcToDpFwallPort_eq_some srcLower, grpcToDpFwallPort_eq_some dstLower,
    grpcToDpFwallPort_eq_some srcUpper, grpcToDpFwallPort_eq_some dstUpper]
  rfl

def storedFilter : ProtocolFilter → UInt8 × RuleFilter
  | .tcp ports => (Packet.ipprotoTcp, portWords ports)
  | .udp ports => (Packet.ipprotoUdp, portWords ports)
  | .icmp icmpType icmpCode => (Packet.ipprotoIcmp, ⟨icmpType.toUInt32, icmpCode.toUInt32, 0, 0⟩)
  | .notSet => (matchAnyProtocol, ⟨matchAny, 0, matchAny, 0⟩)

theorem fillFilter_eq_ok {message : ProtocolFilter} {stored : UInt8 × RuleFilter}
    (filled : fillFilter message = .ok stored) :
    stored = storedFilter message := by
  cases message with
  | tcp ports =>
    rw [fillFilter] at filled
    cases words : fillPorts "tcp" ports with
    | error error => simp [words, Except.map] at filled
    | ok filter =>
      rw [words] at filled
      rw [← Except.ok.inj filled, fillPorts_eq_ok words]
      rfl
  | udp ports =>
    rw [fillFilter] at filled
    cases words : fillPorts "udp" ports with
    | error error => simp [words, Except.map] at filled
    | ok filter =>
      rw [words] at filled
      rw [← Except.ok.inj filled, fillPorts_eq_ok words]
      rfl
  | icmp icmpType icmpCode =>
    simp only [fillFilter, bind_eq_ok] at filled
    obtain ⟨_, -, _, -, done⟩ := filled
    exact (Except.ok.inj done).symm
  | notSet => exact (Except.ok.inj filled).symm

structure RuleStored (inet : Inet) (message : FirewallRule)
    (rule : DpFwallRule) : Prop where
  ruleId : rule.ruleId = cStr message.id
  source : PrefixStored inet message.sourcePrefix rule.srcIp rule.srcMask
  destination : PrefixStored inet message.destinationPrefix rule.destIp rule.destMask
  dir : grpcToDpFwallDirection message.direction = some rule.dir
  action : grpcToDpFwallAction message.action = some rule.action
  priority_le : message.priority ≤ 65535
  priority : rule.priority = message.priority.toUInt16
  protocol : rule.protocol = (storedFilter message.protocolFilter).1
  filter : rule.filter = (storedFilter message.protocolFilter).2

theorem fillFirewallRule_eq_ok {inet : Inet} {message : CreateFirewallRuleRequest}
    {ifaceId : IfaceId} {rule : DpFwallRule}
    (filled : fillFirewallRule inet message = .ok (ifaceId, rule)) :
    snprintfFailed dpIfaceIdMaxLen message.interfaceId = false ∧
      snprintfFailed dpFirewallIdMaxLen message.rule.id = false ∧
      ifaceId = ifaceIdOf message.interfaceId ∧ RuleStored inet message.rule rule := by
  simp only [fillFirewallRule, bind_eq_ok, orError_eq_ok, refuse_eq_ok] at filled
  obtain ⟨_, named, _, identified, source, sourceFilled, destination,
    destinationFilled, _, dir, _, action, _, priority, stored, filtered, done⟩ := filled
  obtain ⟨rfl, rfl⟩ := Prod.mk.inj (Except.ok.inj done)
  have words := fillFilter_eq_ok filtered
  refine
    ⟨named, identified, rfl,
      { ruleId := rfl
        source := fillPrefix_eq_ok sourceFilled
        destination := fillPrefix_eq_ok destinationFilled
        dir := dir
        action := action
        priority_le := ?_
        priority := rfl
        protocol := congrArg Prod.fst words
        filter := congrArg Prod.snd words }⟩
  simpa using priority

/-! ## The round trip -/

def SameAddress (inet : Inet) (requested reported : GrpcIpAddress) : Prop :=
  reported.ipver = requested.ipver ∧
    ((∃ address, requested.ipver = .ipv4 ∧ strToIpv4 inet requested.address = some address ∧
          reported.address = inet.ntop4 address) ∨
      ∃ address, requested.ipver = .ipv6 ∧ strToIpv6 inet.toInet6 requested.address = some address ∧
          reported.address = inet.ntop address)

def SamePrefix (inet : Inet) (requested reported : Prefix) : Prop :=
  SameAddress inet requested.ip reported.ip ∧ reported.length = requested.length

structure SameRule (inet : Inet) (requested reported : FirewallRule) :
    Prop where
  direction : reported.direction = requested.direction
  action : reported.action = requested.action
  priority : reported.priority = requested.priority
  source : SamePrefix inet requested.sourcePrefix reported.sourcePrefix
  destination : SamePrefix inet requested.destinationPrefix reported.destinationPrefix
  filter : reported.protocolFilter = requested.protocolFilter

theorem popcount_ipv4Mask : ∀ length ∈ List.range 33,
      (ipv4PrefixLenToMask (UInt32.ofNat length) .zero).map
          (fun mask => dpIpv6Popcount mask.ip6) = some length := by
  decide +kernel

theorem popcount_ipv6Mask : ∀ length ∈ List.range 129,
      popcount 32 (IpMask.ip4 ⟨.ofBytes (maskBytes length)⟩).toNat = min length 32 := by
  decide +kernel

theorem ipv4PrefixLenToMask_eq_some {length : UInt32} {mask : IpMask}
    (masked : ipv4PrefixLenToMask length .zero = some mask) :
    length.toNat ≤ 32 ∧ dpIpv6Popcount mask.ip6 = length.toNat := by
  have bounded : length.toNat ≤ 32 := by
    by_contra longer
    have above : 32 < length := UInt32.lt_iff_toNat_lt.mpr (by simpa using longer)
    simp [ipv4PrefixLenToMask, above] at masked
  have count := popcount_ipv4Mask length.toNat (List.mem_range.mpr (by omega))
  rw [UInt32.ofNat_toNat, masked] at count
  exact ⟨bounded, Option.some.inj count⟩

theorem ipv6PrefixLenToMask_eq_some {length : UInt32} {mask : IpMask}
    (masked : ipv6PrefixLenToMask length = some mask) :
    length.toNat ≤ 128 ∧ mask = ⟨.ofBytes (maskBytes length.toNat)⟩ := by
  unfold ipv6PrefixLenToMask at masked
  split_ifs at masked with longer
  refine ⟨?_, (Option.some.inj masked).symm⟩
  have bounded := UInt32.not_lt.mp longer
  simpa using UInt32.le_iff_toNat_le.mp bounded

theorem PrefixStored.same_iff {inet : Inet} {message : Prefix} {ip : IpAddress} {mask : IpMask}
    (stored : PrefixStored inet message ip mask) :
    SamePrefix inet message (setupIpAndPrefix inet ip mask) ↔
      (message.ip.ipver = .ipv6 → message.length ≤ 32) := by
  cases stored with
  | v4 version parsed masked =>
    obtain ⟨bounded, count⟩ := ipv4PrefixLenToMask_eq_some masked
    have length : (dpIpv6Popcount mask.ip6).toUInt32 = message.length := by
      rw [count]
      exact UInt32.ofNat_toNat
    have address : SameAddress inet message.ip (dpToGrpcAddress inet (.v4 _)) :=
      ⟨version.symm, .inl ⟨_, version, parsed, rfl⟩⟩
    exact ⟨fun _ other => absurd (version.symm.trans other) (by simp), fun _ => ⟨address, length⟩⟩
  | v6 version parsed masked =>
    obtain ⟨bounded, rfl⟩ := ipv6PrefixLenToMask_eq_some masked
    have count := popcount_ipv6Mask message.length.toNat (List.mem_range.mpr (by omega))
    have address : SameAddress inet message.ip (dpToGrpcAddress inet (.v6 _)) :=
      ⟨version.symm, .inr ⟨_, version, parsed, rfl⟩⟩
    have length : (min message.length.toNat 32).toUInt32 = message.length ↔
          message.length ≤ 32 := by
      have small : min message.length.toNat 32 < 2 ^ 32 := by omega
      rw [← UInt32.toNat_inj, UInt32.le_iff_toNat_le, Nat.toUInt32,
        UInt32.toNat_ofNat', Nat.mod_eq_of_lt small]
      simp
    simp only [SamePrefix, setupIpAndPrefix, count, version, address,
      true_and, length, forall_const]

theorem dpToGrpcFilter_storedFilter (message : ProtocolFilter) :
    dpToGrpcFilter (storedFilter message).1 (storedFilter message).2 =
      message := by
  cases message <;> rfl

theorem direction_roundTrip {requested : TrafficDirection} {dir : FwallDirection}
    (converted : grpcToDpFwallDirection requested = some dir) :
    (if dir = .ingress then TrafficDirection.ingress else .egress) =
      requested := by
  cases requested with
  | ingress =>
    obtain rfl := Option.some.inj converted
    rfl
  | egress =>
    obtain rfl := Option.some.inj converted
    rfl
  | unrecognized number => cases converted

theorem action_roundTrip {requested : FirewallAction} {action : FwallAction}
    (converted : grpcToDpFwallAction requested = some action) :
    (if action = .accept then FirewallAction.accept else .drop) =
      requested := by
  cases requested with
  | accept =>
    obtain rfl := Option.some.inj converted
    rfl
  | drop =>
    obtain rfl := Option.some.inj converted
    rfl
  | unrecognized number => cases converted

theorem RuleStored.same_iff {inet : Inet} {message : FirewallRule} {rule : DpFwallRule}
    (stored : RuleStored inet message rule) :
    SameRule inet message (dpToGrpcFwrule inet rule) ↔
      (message.sourcePrefix.ip.ipver = .ipv6 → message.sourcePrefix.length ≤ 32) ∧
        (message.destinationPrefix.ip.ipver = .ipv6 → message.destinationPrefix.length ≤ 32) := by
  have direction : (dpToGrpcFwrule inet rule).direction = message.direction :=
    direction_roundTrip stored.dir
  have action : (dpToGrpcFwrule inet rule).action = message.action := action_roundTrip stored.action
  have priority : (dpToGrpcFwrule inet rule).priority = message.priority := by
    have bounded := UInt32.le_iff_toNat_le.mp stored.priority_le
    have small : message.priority.toNat < 2 ^ 16 := by
      have limit : (65535 : UInt32).toNat = 65535 := rfl
      omega
    change rule.priority.toUInt32 = message.priority
    rw [stored.priority, ← UInt32.toNat_inj, UInt16.toNat_toUInt32,
      UInt32.toNat_toUInt16, Nat.mod_eq_of_lt small]
  have filter : (dpToGrpcFwrule inet rule).protocolFilter = message.protocolFilter := by
    change dpToGrpcFilter rule.protocol rule.filter = _
    rw [stored.protocol, stored.filter, dpToGrpcFilter_storedFilter]
  constructor
  · intro same
    exact ⟨stored.source.same_iff.mp same.source, stored.destination.same_iff.mp same.destination⟩
  rintro ⟨source, destination⟩
  exact
    { direction
      action
      priority
      source := stored.source.same_iff.mpr source
      destination := stored.destination.same_iff.mpr destination
      filter }

theorem createFirewallRuleCall_created {inet : Inet} {allocated : Bool} {config : Config}
    {message : CreateFirewallRuleRequest}
    (created : (createFirewallRuleCall inet allocated config message).2 = .answered (.ok ())) :
    ∃ port rule, snprintfFailed dpIfaceIdMaxLen message.interfaceId = false ∧
        snprintfFailed dpFirewallIdMaxLen message.rule.id = false ∧
        RuleStored inet message.rule rule ∧
        dpGetPortWithIfaceId (createFirewallRuleCall inet allocated config message).1.tables
            (ifaceIdOf message.interfaceId) = some port ∧
        (createFirewallRuleCall inet allocated config message).1.fwall
            port.portId = config.fwall port.portId ++ [rule] ∧
        ∀ other ∈ config.fwall port.portId, other.ruleId ≠ cStr message.rule.id := by
  unfold createFirewallRuleCall at created ⊢
  cases filled : fillFirewallRule inet message with
  | error error => simp [filled] at created
  | ok request => ?_
  obtain ⟨ifaceId, rule⟩ := request
  obtain ⟨named, identified, rfl, stored⟩ := fillFirewallRule_eq_ok filled
  simp only [filled] at created ⊢
  have answer := CallStatus.answered.inj created
  unfold dpProcessCreateFwrule at answer ⊢
  cases found : dpGetPortWithIfaceId config.tables (ifaceIdOf message.interfaceId) with
  | none => simp [found] at answer
  | some port => ?_
  simp only [found] at answer ⊢
  split_ifs at answer ⊢ with exists_ drops room
  refine ⟨port, rule, named, identified, stored, found, ?_, ?_⟩
  · exact Foundations.assign_self ..
  · intro other listed same
    rw [← stored.ruleId] at same
    exact exists_ (List.any_eq_true.mpr ⟨other, listed, by simpa⟩)

/-- A created rule is reported by `GetFirewallRule` and `ListFirewallRules` as
it was requested exactly when no IPv6 prefix of it is longer than 32 bits. -/
theorem firewallRule_roundTrip_iff (inet : Inet) (allocated : Bool) (config : Config)
    (message : CreateFirewallRuleRequest)
    (created : (createFirewallRuleCall inet allocated config message).2 = .answered (.ok ())) :
    ((∃ report,
        getFirewallRuleCall inet (createFirewallRuleCall inet allocated config message).1
            message.interfaceId message.rule.id = .answered (.ok report) ∧
          SameRule inet message.rule report) ∧
      ∀ job,
        ListsRules (createFirewallRuleCall inet allocated config message).1
            message.interfaceId job →
          (∃ report ∈ listedRules inet job, report.id = cStr message.rule.id) ∧
            ∀ report ∈ listedRules inet job,
              report.id = cStr message.rule.id → SameRule inet message.rule report) ↔
      (message.rule.sourcePrefix.ip.ipver = .ipv6 → message.rule.sourcePrefix.length ≤ 32) ∧
        (message.rule.destinationPrefix.ip.ipver = .ipv6 →
          message.rule.destinationPrefix.length ≤ 32) := by
  obtain ⟨port, rule, named, identified, stored, found, rules, fresh⟩ :=
    createFirewallRuleCall_created created
  rw [← stored.same_iff]
  generalize (createFirewallRuleCall inet allocated config message).1 = config' at found rules ⊢
  have reported : getFirewallRuleCall inet config' message.interfaceId message.rule.id =
        .answered (.ok (dpToGrpcFwrule inet rule)) := by
    have first :
        (config'.fwall port.portId).find? (fun other => other.ruleId = cStr message.rule.id) =
          some rule := by
      have none_before :
          (config.fwall port.portId).find?
              (fun other => other.ruleId = cStr message.rule.id) = none := by
        simpa [List.find?_eq_none] using fresh
      rw [rules, List.find?_append, none_before]
      simp [stored.ruleId]
    simp [getFirewallRuleCall, named, identified, dpProcessGetFwrule, found, first, Except.map]
  constructor
  · rintro ⟨⟨report, answered, same⟩, -⟩
    rw [reported] at answered
    obtain rfl := Except.ok.inj (CallStatus.answered.inj answered)
    exact same
  intro same
  refine ⟨⟨_, reported, same⟩, ?_⟩
  intro job lists
  obtain ⟨msgSize, sized, fits, handler⟩ := lists.handler
  have listing : job.handler = .listing msgSize (config.fwall port.portId ++ [rule]) grpcOk := by
    rw [handler, dpProcessListFwrules, found, ← rules]
  have multi : job.type.callClass = .multiReply := by
    rw [lists.type]
    rfl
  have parsed :=
    job.exchange_listed multi listing sized fits lists.awaited lists.written lists.success
  rw [listedRules, parsed]
  constructor
  · exact ⟨dpToGrpcFwrule inet rule, List.mem_map_of_mem (by simp), stored.ruleId⟩
  intro report listed sameId
  obtain ⟨other, member, rfl⟩ := List.mem_map.mp listed
  rcases List.mem_append.mp member with before | last
  · exact absurd sameId (fresh other before)
  · rw [List.mem_singleton] at last
    rw [last]
    exact same

def fullFormInet : Inet :=
  { fullFormInet6 with
    pton4 := fun str => (hexToBytes str 4).map fun bytes => (Foundations.beNat bytes).toUInt32
    ntop4 := fun address => bytesToHex (Foundations.beBytes 4 address.toNat) }

/-- A rule for the interface `guest` that lets TCP segments to port 443 come
in from a prefix to any address of its family. -/
def webRule (address any : GrpcIpAddress) (length : UInt32) : CreateFirewallRuleRequest where
  interfaceId := [103, 117, 101, 115, 116]
  rule :=
    { id := [119, 101, 98]
      direction := .ingress
      action := .accept
      priority := 1000
      sourcePrefix := ⟨address, length⟩
      destinationPrefix := ⟨any, 0⟩
      protocolFilter := .tcp ⟨-1, -1, 443, 443⟩ }

def webRule4 : CreateFirewallRuleRequest :=
  webRule ⟨.ipv4, fullFormInet.ntop4 0x0a000000⟩ ⟨.ipv4, fullFormInet.ntop4 0⟩ 8

def webRule6 : CreateFirewallRuleRequest :=
  webRule ⟨.ipv6, fullFormInet.ntop guestUnderlay⟩ ⟨.ipv6, fullFormInet.ntop Ipv6.zero⟩ 64

theorem webRule4_roundTrip : ∃ report,
      getFirewallRuleCall fullFormInet
          (createFirewallRuleCall fullFormInet true guestWithVip webRule4).1
          webRule4.interfaceId webRule4.rule.id = .answered (.ok report) ∧
        SameRule fullFormInet webRule4.rule report :=
  ((firewallRule_roundTrip_iff fullFormInet true guestWithVip webRule4
    (by decide +kernel)).mpr ⟨nofun, nofun⟩).1

theorem webRule6_shortened : (createFirewallRuleCall fullFormInet true guestWithVip webRule6).2 =
        .answered (.ok ()) ∧
      webRule6.rule.sourcePrefix.length = 64 ∧
      getFirewallRuleCall fullFormInet
          (createFirewallRuleCall fullFormInet true guestWithVip webRule6).1
          webRule6.interfaceId webRule6.rule.id =
        .answered (.ok
          { webRule6.rule with
            sourcePrefix := { webRule6.rule.sourcePrefix with length := 32 } })
      := by
  decide +kernel

end DpService.Grpc

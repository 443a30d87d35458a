import DpService.Control.Steps
import DpService.Grpc.Firewall
import DpService.Lb.Lookup

/-!
# Load balancer calls

The ports of a load balancer pass from a request through an array whose
unused places are zero into the table, from which the packets are matched, and
back through the two calls that report them.
-/

namespace DpService.Grpc

open Foundations Flow Control Lb
open Dataplane hiding dpProcessCreateInterface dpLbGetBackendIp

variable {message : GrpcLbPort} {messages : List GrpcLbPort} {entries : List LbPort}

inductive Protocol where
  | undefined
  | icmp
  | tcp
  | udp
  | icmpv6
  | sctp
  | unrecognized (number : Int)
  deriving DecidableEq, Repr

structure GrpcLbPort where
  port : UInt32
  protocol : Protocol
  deriving DecidableEq, Repr

structure CreateLoadBalancerRequest where
  loadbalancerId : StdString
  loadbalancedIp : GrpcIpAddress
  vni : UInt32
  loadbalancedPorts : List GrpcLbPort
  preferredUnderlayRoute : StdString
  deriving DecidableEq

structure GetLoadBalancerResponse where
  loadbalancedIp : GrpcIpAddress
  vni : UInt32
  loadbalancedPorts : List GrpcLbPort
  underlayRoute : StdString
  deriving DecidableEq

structure Loadbalancer where
  id : StdString
  vni : UInt32
  ip : GrpcIpAddress
  ports : List GrpcLbPort
  underlayRoute : StdString
  deriving DecidableEq

/-! ## Conversions to the worker -/

def dpLbIdMaxLen : Nat :=
  64

def dpVniMaxSize : UInt32 :=
  0xffffff

def dpLbMaxPorts : Nat :=
  16

def lbIdOf (str : StdString) : LbId :=
  String.ofList ((cStr str).map fun byte => Char.ofNat byte.toNat)

def underlayFlags (address : Ipv6) : UInt8 :=
  (address.sfx >>> 40).toUInt8

/-- `StrToPreferredUnderlay`: an address is taken from the prefix of the
host and marked as generated elsewhere. -/
def strToPreferredUnderlay (inet : Inet6) (conf : DpConf) (str : StdString) : Option Ipv6 :=
  match strToIpv6 inet (if str.isEmpty then [58, 58] else str) with
  | none => none
  | some dst =>
    if dst = Ipv6.zero ∨
        conf.underlayIp.pfx = dst.pfx ∧ underlayFlags dst &&& 0x80 ≠ 0 then
      some dst
    else none

def grpcToDpLbProtocol : Protocol → Option UInt8
  | .tcp => some Packet.ipprotoTcp
  | .udp => some Packet.ipprotoUdp
  | _ => none

/-- One round of the loop over the ports, `stored` being the places of the
array that are filled already. -/
def fillLbPort (stored : List LbPort) (message : GrpcLbPort) :
    Except String (List LbPort) := do
  refuse (65535 < message.port) "Invalid loadbalanced_ports.port"
  let port := message.port.toUInt16
  let proto ← orError "Invalid loadbalanced_ports.protocol"
    (grpcToDpLbProtocol message.protocol)
  refuse (stored.any fun entry => entry.protocol == proto && entry.port == port)
    "Duplicate loadbalanced_ports entry"
  .ok (stored ++ [⟨port, proto⟩])

def fillLbPorts : List LbPort → List GrpcLbPort → Except String (List LbPort)
  | stored, [] => .ok stored
  | stored, message :: messages => do
      let stored ← fillLbPort stored message
      fillLbPorts stored messages

def fillLoadBalancer (inet : Inet) (conf : DpConf) (message : CreateLoadBalancerRequest) :
    Except String DpgrpcLb := do
  refuse (snprintfFailed dpLbIdMaxLen message.loadbalancerId) "Invalid loadbalancer_id"
  refuse (dpVniMaxSize < message.vni) "VNI exceeds 24-bit range"
  let addr ← orError "Invalid loadbalanced_ip"
    (grpcToDpAddress inet message.loadbalancedIp)
  refuse (dpLbMaxPorts ≤ message.loadbalancedPorts.length) "Too many loadbalanced_ports"
  let ulAddr6 ← orError "Invalid preferred_underlay_route"
    (strToPreferredUnderlay inet.toInet6 conf message.preferredUnderlayRoute)
  let lbports ← fillLbPorts [] message.loadbalancedPorts
  .ok
    { lbId := lbIdOf message.loadbalancerId
      vni := message.vni
      addr, lbports, ulAddr6 }

/-- The protocol of a reported port, which stays at its default for any other
protocol than the two. -/
def dpToGrpcProtocol (protocol : UInt8) : Protocol :=
  if protocol = Packet.ipprotoUdp then .udp
  else if protocol = Packet.ipprotoTcp then .tcp
  else .undefined

/-- Ports that are zero are left out. -/
def dpToGrpcLbPorts (lbports : List LbPort) : List GrpcLbPort :=
  (lbports.filter fun entry => entry.port ≠ 0).map fun entry =>
    ⟨entry.port.toUInt32, dpToGrpcProtocol entry.protocol⟩

def dpgrpcLbOf (key : LbKey) (value : LbValue) : DpgrpcLb where
  lbId := value.lbId
  vni := key.vni
  addr := key.ip
  lbports := value.ports.map LbPort.swap
  ulAddr6 := value.lbUlAddr

def parseLoadBalancer (inet : Inet) (lb : DpgrpcLb) : GetLoadBalancerResponse where
  loadbalancedIp := dpToGrpcAddress inet lb.addr
  vni := lb.vni
  loadbalancedPorts := dpToGrpcLbPorts lb.lbports
  underlayRoute := inet.ntop lb.ulAddr6

def dpToGrpcLoadBalancer (inet : Inet) (lb : DpgrpcLb) : Loadbalancer where
  id := lb.lbId.toList.map fun character => character.toNat.toUInt8
  vni := lb.vni
  ip := dpToGrpcAddress inet lb.addr
  ports := dpToGrpcLbPorts lb.lbports
  underlayRoute := inet.ntop lb.ulAddr6

def createLoadBalancerCall (inet : Inet) (outcomes : CreateLbOutcomes) (config : Config)
    (message : CreateLoadBalancerRequest) : Config × CallStatus Ipv6 :=
  match fillLoadBalancer inet config.tables.conf message with
  | .error error => (config, .invalidArgument error)
  | .ok request =>
    ((dpProcessCreateLb outcomes config request).1,
      .answered (dpProcessCreateLb outcomes config request).2)

def getLoadBalancerCall (inet : Inet) (config : Config)
    (loadbalancerId : StdString) : CallStatus GetLoadBalancerResponse :=
  if snprintfFailed dpLbIdMaxLen loadbalancerId then .invalidArgument "Invalid loadbalancer_id"
  else
    .answered
      ((dpGetLb config.lbs (lbIdOf loadbalancerId)).map fun (key, value) =>
        parseLoadBalancer inet (dpgrpcLbOf key value))

def lbElements (lbs : LbTables) : List DpgrpcLb :=
  lbs.lbTable.entries.filterMap fun entry =>
    match entry.2 with
    | .value value => some (dpgrpcLbOf entry.1 value)
    | .freed => none

/-- `dp_list_lbs` as the responder sees it, `idCount` being the number of
identifiers and `elements` the entries in the order of `rte_hash_iterate`. -/
def dpListLbs (idCount msgSize : Nat) (elements : List DpgrpcLb) : Handler DpgrpcLb :=
  if idCount = 0 then .single none grpcOk
  else .listing msgSize elements grpcOk

/-- The exchange of a `ListLoadBalancers` request on a configuration, in which
the handler finds room for all load balancers. -/
structure ListsLbs (config : Config) (job : Job DpgrpcLb) : Prop where
  type : job.type = .listLoadBalancers
  handler : ∃ idCount msgSize elements, 0 < msgSize ∧ msgSize ≤ job.repMaxSize ∧
      (idCount = 0 ↔ ∀ lbId, config.lbs.idMap lbId = none) ∧ elements.Perm (lbElements config.lbs) ∧
      job.handler = dpListLbs idCount msgSize elements
  written : job.Written
  awaited : job.Awaited
  success : job.ret = grpcOk

def listedLbs (job : Job DpgrpcLb) : List DpgrpcLb :=
  (job.exchange []).1.parsed

/-! ## Accepted ports -/

structure LbPortStored (message : GrpcLbPort) (entry : LbPort) : Prop where
  bounded : message.port ≤ 65535
  port : entry.port = message.port.toUInt16
  protocol : grpcToDpLbProtocol message.protocol = some entry.protocol

theorem LbPortStored.toUInt32_port {entry : LbPort} (stored : LbPortStored message entry) :
    entry.port.toUInt32 = message.port := by
  have bounded := UInt32.le_iff_toNat_le.mp stored.bounded
  have small : message.port.toNat < 2 ^ 16 := by
    have limit : (65535 : UInt32).toNat = 65535 := rfl
    omega
  rw [stored.port, ← UInt32.toNat_inj, UInt16.toNat_toUInt32,
    UInt32.toNat_toUInt16, Nat.mod_eq_of_lt small]

theorem LbPortStored.port_eq_zero_iff {entry : LbPort} (stored : LbPortStored message entry) :
    entry.port = 0 ↔ message.port = 0 := by
  rw [← stored.toUInt32_port, ← UInt16.toUInt32_inj]
  rfl

theorem fillLbPort_eq_ok {stored result : List LbPort}
    (filled : fillLbPort stored message = .ok result) :
    ∃ entry, LbPortStored message entry ∧ result = stored ++ [entry] := by
  simp only [fillLbPort, bind_eq_ok, orError_eq_ok, refuse_eq_ok] at filled
  obtain ⟨_, bounded, proto, converted, _, -, done⟩ := filled
  exact
    ⟨⟨message.port.toUInt16, proto⟩, ⟨by simpa using bounded, rfl, converted⟩,
      (Except.ok.inj done).symm⟩

theorem fillLbPorts_eq_ok {stored result : List LbPort}
    (filled : fillLbPorts stored messages = .ok result) :
    ∃ entries, List.Forall₂ LbPortStored messages entries ∧ result = stored ++ entries := by
  induction messages generalizing stored with
  | nil =>
    obtain rfl := Except.ok.inj filled
    exact ⟨[], .nil, (List.append_nil _).symm⟩
  | cons message messages ih =>
    simp only [fillLbPorts, bind_eq_ok] at filled
    obtain ⟨next, first, rest⟩ := filled
    obtain ⟨entry, entryStored, rfl⟩ := fillLbPort_eq_ok first
    obtain ⟨entries, entriesStored, rfl⟩ := ih rest
    exact ⟨entry :: entries, .cons entryStored entriesStored, List.append_assoc ..⟩

theorem fillLoadBalancer_eq_ok {inet : Inet} {conf : DpConf} {message : CreateLoadBalancerRequest}
    {request : DpgrpcLb} (filled : fillLoadBalancer inet conf message = .ok request) :
    snprintfFailed dpLbIdMaxLen message.loadbalancerId = false ∧
      request.lbId = lbIdOf message.loadbalancerId ∧ request.vni = message.vni ∧
      grpcToDpAddress inet message.loadbalancedIp = some request.addr ∧
      List.Forall₂ LbPortStored message.loadbalancedPorts request.lbports := by
  simp only [fillLoadBalancer, bind_eq_ok, orError_eq_ok, refuse_eq_ok] at filled
  obtain ⟨_, named, _, -, addr, parsed, _, -, _, -, lbports, ports, done⟩ := filled
  obtain rfl := Except.ok.inj done
  obtain ⟨entries, stored, rfl⟩ := fillLbPorts_eq_ok ports
  exact ⟨named, rfl, rfl, parsed, stored⟩

theorem dpToGrpcProtocol_of {protocol : Protocol} {proto : UInt8}
    (converted : grpcToDpLbProtocol protocol = some proto) :
    dpToGrpcProtocol proto = protocol := by
  cases protocol <;> cases converted <;> rfl

theorem dpToGrpcLbPorts_stored (stored : List.Forall₂ LbPortStored messages entries) :
    dpToGrpcLbPorts entries = messages.filter fun message => message.port ≠ 0 := by
  induction stored with
  | nil => rfl
  | @cons message entry messages entries first rest ih =>
    have report :
        (⟨entry.port.toUInt32, dpToGrpcProtocol entry.protocol⟩ : GrpcLbPort) = message := by
      rw [first.toUInt32_port, dpToGrpcProtocol_of first.protocol]
    by_cases zero : message.port = 0
    · have zeroEntry := first.port_eq_zero_iff.mpr zero
      rw [dpToGrpcLbPorts] at ih ⊢
      rw [List.filter_cons_of_neg (by simp [zeroEntry]), List.filter_cons_of_neg (by simp [zero])]
      exact ih
    have nonzeroEntry := first.port_eq_zero_iff.not.mpr zero
    rw [dpToGrpcLbPorts] at ih ⊢
    rw [List.filter_cons_of_pos (by simp [nonzeroEntry]),
      List.filter_cons_of_pos (by simp [zero]), List.map_cons, report, ih]

theorem dpToGrpcLbPorts_eq_iff (stored : List.Forall₂ LbPortStored messages entries) :
    dpToGrpcLbPorts entries = messages ↔ ∀ message ∈ messages, message.port ≠ 0 := by
  rw [dpToGrpcLbPorts_stored stored, List.filter_eq_self]
  simp

def RequestsPort (message : CreateLoadBalancerRequest) (port : UInt16) (proto : UInt8) : Prop :=
  ∃ entry ∈ message.loadbalancedPorts,
    entry.port = port.toUInt32 ∧ grpcToDpLbProtocol entry.protocol = some proto

theorem requestsPort_iff {message : CreateLoadBalancerRequest}
    (stored : List.Forall₂ LbPortStored message.loadbalancedPorts entries)
    (port : UInt16) (proto : UInt8) :
    RequestsPort message port proto ↔ (⟨port, proto⟩ : LbPort) ∈ entries := by
  unfold RequestsPort
  generalize message.loadbalancedPorts = messages at stored ⊢
  induction stored with
  | nil => simp
  | @cons first entry messages entries firstStored rest ih =>
    have same : first.port = port.toUInt32 ∧ grpcToDpLbProtocol first.protocol = some proto ↔
          (⟨port, proto⟩ : LbPort) = entry := by
      rw [← firstStored.toUInt32_port, firstStored.protocol, UInt16.toUInt32_inj, Option.some.injEq]
      constructor
      · rintro ⟨rfl, rfl⟩
        rfl
      · rintro rfl
        exact ⟨rfl, rfl⟩
    simp only [List.mem_cons, exists_eq_or_imp, same, ih]

theorem stored_nonzero (stored : List.Forall₂ LbPortStored messages entries)
    (nonzero : ∀ message ∈ messages, message.port ≠ 0) :
    ∀ entry ∈ entries, entry.port ≠ 0 := by
  induction stored with
  | nil => simp
  | @cons first entry messages entries firstStored rest ih =>
    obtain ⟨head, tail⟩ := List.forall_mem_cons.mp nonzero
    exact List.forall_mem_cons.mpr ⟨firstStored.port_eq_zero_iff.not.mpr head, ih tail⟩

/-! ## The round trip -/

theorem createLoadBalancerCall_created {inet : Inet} {outcomes : CreateLbOutcomes} {config : Config}
    {message : CreateLoadBalancerRequest} {ulAddr6 : Ipv6}
    (created : (createLoadBalancerCall inet outcomes config message).2 = .answered (.ok ulAddr6)) :
    ∃ request,
      snprintfFailed dpLbIdMaxLen message.loadbalancerId = false ∧ request.vni = message.vni ∧
        grpcToDpAddress inet message.loadbalancedIp = some request.addr ∧
        List.Forall₂ LbPortStored message.loadbalancedPorts request.lbports ∧
        dpGetLb (createLoadBalancerCall inet outcomes config message).1.lbs
            (lbIdOf message.loadbalancerId) =
          .ok (request.key, newLb request ulAddr6) := by
  unfold createLoadBalancerCall at created ⊢
  cases filled : fillLoadBalancer inet config.tables.conf message with
  | error error => simp [filled] at created
  | ok request => ?_
  obtain ⟨named, identified, vni, addr, ports⟩ :=
    fillLoadBalancer_eq_ok filled
  simp only [filled] at created ⊢
  refine ⟨request, named, vni, addr, ports, ?_⟩
  have answer := CallStatus.answered.inj created
  rcases dpProcessCreateLb_cases outcomes config request with
    ⟨after, error, result, -⟩ | ⟨after, address, result, success⟩
  · rw [result] at answer
    cases answer
  rw [result] at answer ⊢
  obtain rfl := Except.ok.inj answer
  rw [success.result, ← identified]
  exact dpGetLb_eq_ok_iff.mpr ⟨assign_self .., AList.lookup_insert _⟩

theorem mem_lbElements {lbs : LbTables} {element : DpgrpcLb} : element ∈ lbElements lbs ↔
      ∃ key value, lbs.lbTable.lookup key = some (.value value) ∧
          dpgrpcLbOf key value = element := by
  simp only [lbElements, List.mem_filterMap]
  constructor
  · rintro ⟨⟨key, value | _⟩, listed, reported⟩
    · exact ⟨key, value, AList.mem_lookup_iff.mpr listed, Option.some.inj reported⟩
    · cases reported
  · rintro ⟨key, value, entry, rfl⟩
    exact ⟨⟨key, .value value⟩, AList.mem_lookup_iff.mp entry, rfl⟩

theorem ListsLbs.listed {config : Config} {job : Job DpgrpcLb} {lbId : LbId} {key : LbKey}
    {value : LbValue} (lists : ListsLbs config job)
    (found : dpGetLb config.lbs lbId = .ok (key, value)) :
    dpgrpcLbOf key value ∈ listedLbs job ∧ ∀ element ∈ listedLbs job,
        element.key = key → element = dpgrpcLbOf key value := by
  obtain ⟨mapped, entry⟩ := dpGetLb_eq_ok_iff.mp found
  obtain ⟨idCount, msgSize, elements, sized, fits, counted, order, handler⟩ := lists.handler
  have some_ : idCount ≠ 0 := by
    intro zero
    have unmapped := counted.mp zero lbId
    rw [mapped] at unmapped
    cases unmapped
  rw [dpListLbs, if_neg some_] at handler
  have multi : job.type.callClass = .multiReply := by
    rw [lists.type]
    rfl
  have parsed : listedLbs job = elements :=
    job.exchange_listed multi handler sized fits lists.awaited lists.written lists.success
  have members : ∀ {element}, element ∈ listedLbs job ↔ element ∈ lbElements config.lbs := by
    intro element
    rw [parsed]
    exact order.mem_iff
  constructor
  · exact members.mpr (mem_lbElements.mpr ⟨key, value, entry, rfl⟩)
  intro element listed same
  obtain ⟨other, held, otherEntry, rfl⟩ :=
    mem_lbElements.mp (members.mp listed)
  obtain rfl : other = key := same
  rw [entry] at otherEntry
  rw [LbEntry.value.inj (Option.some.inj otherEntry)]

theorem dpgrpcLbOf_newLb_lbports (key : LbKey) (request : DpgrpcLb) (ulAddr6 : Ipv6)
    (backends : LbBackends) :
    (dpgrpcLbOf key { newLb request ulAddr6 with backends }).lbports = request.lbports := by
  simp [dpgrpcLbOf, newLb, LbPort.swap, Function.comp_def]

/-- With some target, a flow to a created load balancer gets one of its
targets if its port is one of those requested, and none otherwise, and both
reports have exactly the ports that were requested.  All this is so exactly
when none of them is zero. -/
theorem loadBalancer_ports_iff (inet : Inet) (outcomes : CreateLbOutcomes) (config : Config)
    (message : CreateLoadBalancerRequest) (flowHash : FlowKey → UInt32)
    (storedRules : FlowKey → Nat) {ulAddr6 : Ipv6}
    {requests : List TargetRequest} {after : Config}
    (created : (createLoadBalancerCall inet outcomes config message).2 = .answered (.ok ulAddr6))
    (served :
      serveTargets storedRules (lbIdOf message.loadbalancerId)
          (createLoadBalancerCall inet outcomes config message).1 requests =
        some after)
    (targets : (targetsAfter requests).Nonempty) :
    (∃ addr, grpcToDpAddress inet message.loadbalancedIp = some addr ∧
      (∀ key : FlowKey, key.l3Dst = addr →
        ((dpLbGetBackendIp flowHash after.lbs key message.vni).isSome = true ↔
            RequestsPort message key.portDst key.proto) ∧
          ∀ target, dpLbGetBackendIp flowHash after.lbs key message.vni = some target →
              target ∈ targetsAfter requests) ∧
      (∃ response, getLoadBalancerCall inet after message.loadbalancerId =
            .answered (.ok response) ∧
          response.loadbalancedPorts = message.loadbalancedPorts) ∧
      ∀ job, ListsLbs after job → (∃ element ∈ listedLbs job, element.key = ⟨message.vni, addr⟩) ∧
          ∀ element ∈ listedLbs job, element.key = ⟨message.vni, addr⟩ →
            (dpToGrpcLoadBalancer inet element).ports = message.loadbalancedPorts) ↔
      ∀ entry ∈ message.loadbalancedPorts, entry.port ≠ 0 := by
  obtain ⟨request, named, vni, parsed, stored, found⟩ := createLoadBalancerCall_created created
  generalize (createLoadBalancerCall inet outcomes config message).1 = start at served found
  have fresh : backendsOf start.lbs (lbIdOf message.loadbalancerId) = some .zeroed :=
    backendsOf_eq_some_iff.mpr ⟨_, _, found, rfl⟩
  obtain ⟨backends, now⟩ := dpGetLb_serveTargets found served
  obtain ⟨held, list, heldNow, holds, members⟩ :=
    hasTargets_serveTargets (hasTargets_of_fresh fresh) served
  obtain rfl : backends = held := by
    obtain ⟨key, value, again, rfl⟩ := backendsOf_eq_some_iff.mp heldNow
    rw [now] at again
    exact congrArg LbValue.backends (Prod.mk.inj (Except.ok.inj again)).2
  have reported : getLoadBalancerCall inet after message.loadbalancerId =
        .answered (.ok
          (parseLoadBalancer inet
            (dpgrpcLbOf request.key
              { newLb request ulAddr6 with backends }))) := by
    simp [getLoadBalancerCall, named, now, Except.map]
  have ports :
      dpToGrpcLbPorts (dpgrpcLbOf request.key { newLb request ulAddr6 with backends }).lbports =
          message.loadbalancedPorts ↔
        ∀ entry ∈ message.loadbalancedPorts, entry.port ≠ 0 := by
    rw [dpgrpcLbOf_newLb_lbports]
    exact dpToGrpcLbPorts_eq_iff stored
  constructor
  · rintro ⟨addr, -, -, ⟨response, answered, same⟩, -⟩
    rw [reported] at answered
    obtain rfl := Except.ok.inj (CallStatus.answered.inj answered)
    exact ports.mp same
  intro nonzero
  have key_eq : request.key = ⟨message.vni, request.addr⟩ := by
    rw [← vni]
    rfl
  refine ⟨request.addr, parsed, ?_, ⟨_, reported, ports.mpr nonzero⟩, ?_⟩
  · intro key destination
    have entry := (dpGetLb_eq_ok_iff.mp now).2
    rw [key_eq, ← destination] at entry
    have some_ : list ≠ [] := by
      obtain ⟨ip, target⟩ := targets
      exact List.ne_nil_of_mem ((members ip).mpr target)
    obtain ⟨target, member, picked⟩ := holds.pick some_ (flowHash key)
    have count : backends.backEndCnt ≠ 0 := by
      rw [holds.cnt]
      exact (List.length_pos_iff.mpr some_).ne'
    have matched := dpLbPortMatch_swap_iff (stored_nonzero stored nonzero) key.portDst key.proto
    rw [← requestsPort_iff stored] at matched
    have choice : dpLbGetBackendIp flowHash after.lbs key message.vni =
          if dpLbPortMatch (request.lbports.map LbPort.swap)
              (swapBytes key.portDst) key.proto then
            some target
          else none := by
      simp only [dpLbGetBackendIp, entry, count, if_false, picked, newLb]
      cases dpLbPortMatch (request.lbports.map LbPort.swap)
        (swapBytes key.portDst) key.proto <;> rfl
    rw [choice, ← matched]
    cases dpLbPortMatch (request.lbports.map LbPort.swap) (swapBytes key.portDst) key.proto with
    | true =>
      refine ⟨by simp, fun other chosen => ?_⟩
      rw [← Option.some.inj chosen]
      exact (members target).mp member
    | false => exact ⟨by simp, by simp⟩
  intro job lists
  obtain ⟨listed, only⟩ := lists.listed now
  rw [key_eq] at listed only
  refine ⟨⟨_, listed, rfl⟩, ?_⟩
  intro element elementListed same
  rw [only element elementListed same, ← key_eq]
  exact ports.mpr nonzero

def webBalancer (ports : List GrpcLbPort) : CreateLoadBalancerRequest where
  loadbalancerId := [119, 101, 98]
  loadbalancedIp := ⟨.ipv4, fullFormInet.ntop4 0x0a000065⟩
  vni := 100
  loadbalancedPorts := ports
  preferredUnderlayRoute := fullFormInet.ntop Ipv6.zero

def lbCreated : CreateLbOutcomes where
  generated := ⟨0xfc00000100000000, 101⟩
  vnf := ⟨true, true⟩
  lb := ⟨true, true⟩
  vniAllocated := true

def servedWeb (ports : List GrpcLbPort) : Option Config :=
  serveTargets (fun _ => 0) "web"
    (createLoadBalancerCall fullFormInet lbCreated balancerHost (webBalancer ports)).1
    [.create (targetIp 7)]

def webSegment : FlowKey :=
  { FlowKey.zeroed with
    l3Dst := .v4 0x0a000065
    proto := Packet.ipprotoTcp
    portDst := 80
    vni := 100 }

/-- Segments to the one port that was requested get the target. -/
theorem webBalancer_matches : ∃ after, servedWeb [⟨80, .tcp⟩] = some after ∧
        (dpLbGetBackendIp (fun _ => 0) after.lbs webSegment 100).isSome =
          true := by
  obtain ⟨after, served⟩ : ∃ after, servedWeb [⟨80, .tcp⟩] = some after :=
    Option.isSome_iff_exists.mp (by decide +kernel)
  obtain ⟨addr, parsed, chosen, -⟩ :=
    (@loadBalancer_ports_iff fullFormInet lbCreated balancerHost
      (webBalancer [⟨80, .tcp⟩]) (fun _ => 0) (fun _ => 0)
      ⟨0xfc00000100000000, 101⟩ _ after (by decide +kernel) served
      ⟨⟨0xfc00000200000000, 7⟩, by decide +kernel⟩).mpr (by decide)
  have destination : some (IpAddress.v4 0x0a000065) = some addr := by
    rw [← parsed]
    decide +kernel
  refine ⟨after, served, ?_⟩
  exact
    (chosen webSegment (Option.some.inj destination)).1.mpr ⟨⟨80, .tcp⟩, by decide, by decide, rfl⟩

/-- Behind a port that is zero no other one is matched, and the zero is not
reported. -/
theorem webBalancer_zero_port :
    (createLoadBalancerCall fullFormInet lbCreated balancerHost
        (webBalancer [⟨0, .tcp⟩, ⟨80, .tcp⟩])).2 =
      .answered (.ok ⟨0xfc00000100000000, 101⟩) ∧
    ((servedWeb [⟨0, .tcp⟩, ⟨80, .tcp⟩]).map fun after =>
        (dpLbGetBackendIp (fun _ => 0) after.lbs webSegment 100,
          match getLoadBalancerCall fullFormInet after [119, 101, 98] with
          | .answered (.ok response) => response.loadbalancedPorts
          | _ => [])) =
      some (none, [⟨80, .tcp⟩]) := by
  decide +kernel

end DpService.Grpc

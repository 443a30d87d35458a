import DpService.Flow.Answers
import DpService.Nodes.Conntrack

/-!
# Both directions of a flow

The key of a packet says which kind of address of its sender took part, and
each direction of a flow finds that out for itself.  An answer is recognised
exactly if both find the same.
-/

namespace DpService.Nodes

open Foundations Packet Dataplane Flow

/-! ## AnsweredBy packets -/

/-- One of the messages is an echo request and the other one its reply. -/
def Echoes (request reply first second : UInt8) : Prop :=
  (first = request ∧ second = reply) ∨ (first = reply ∧ second = request)

def AnsweringPorts (first second : DpFlow) : Prop :=
  ((first.l4Type = ipprotoTcp ∨ first.l4Type = ipprotoUdp) ∧
      second.l4Info.dstPort = first.l4Info.srcPort ∧ second.l4Info.srcPort = first.l4Info.dstPort) ∨
    (first.l4Type = ipprotoIcmp ∧
      Echoes icmpEchoRequest icmpEchoReply first.l4Info.icmpType second.l4Info.icmpType ∧
      second.l4Info.icmpIdentifier = first.l4Info.icmpIdentifier) ∨
    (first.l4Type = ipprotoIcmpv6 ∧
      Echoes icmpv6EchoRequest icmpv6EchoReply first.l4Info.icmpType second.l4Info.icmpType ∧
      second.l4Info.icmpIdentifier = first.l4Info.icmpIdentifier)

structure AnsweredBy (first second : DpFlow) : Prop where
  addresses : ∃ dst src,
    keyAddresses first = some (dst, src) ∧ keyAddresses second = some (src, dst) ∧ dst ≠ src
  l4Type : second.l4Type = first.l4Type
  ports : AnsweringPorts first second

def keyVni (tables : Tables) (m : Mbuf) : Vni :=
  let port := dpGetInPort tables.ports m
  if port.isPf then m.df.tunInfo.dstVni else port.iface.vni

/-- The type that a packet's key is marked with, in a buffer that holds an
older key. -/
def markedType (env : NodeEnv) (buffer : FlowKey) (m : Mbuf) : VnfType :=
  (dpBuildFlowKey env buffer m).1.vnfType

section Keys

variable {env : NodeEnv} {buffer : FlowKey} {m : Mbuf} {dst src : IpAddress}

theorem dpBuildFlowKey_of_addresses (addresses : keyAddresses m.df = some (dst, src)) : ∃ vnfType,
      dpBuildFlowKey env buffer m =
        buildKeyPorts m.df
          { buffer with
            l3Dst := dst
            l3Src := src
            proto := m.df.l4Type
            vni := keyVni env.tables m
            vnfType }
          m.frame := by
  rw [dpBuildFlowKey, addresses]
  exact ⟨_, rfl⟩

theorem dpBuildFlowKey_of_transport (addresses : keyAddresses m.df = some (dst, src))
    (transport : m.df.l4Type = ipprotoTcp ∨ m.df.l4Type = ipprotoUdp) :
    dpBuildFlowKey env buffer m =
      ({ l3Dst := dst
         proto := m.df.l4Type
         portDst := m.df.l4Info.dstPort
         l3Src := src
         vnfType := markedType env buffer m
         src := m.df.l4Info.srcPort
         vni := keyVni env.tables m },
        true) := by
  obtain ⟨vnfType, built⟩ := @dpBuildFlowKey_of_addresses env buffer m dst src addresses
  rw [markedType, built, buildKeyPorts, if_pos transport]

theorem dpBuildFlowKey_of_icmp (addresses : keyAddresses m.df = some (dst, src))
    (icmp : m.df.l4Type = ipprotoIcmp)
    (echo : m.df.l4Info.icmpType = icmpEchoReply ∨ m.df.l4Info.icmpType = icmpEchoRequest) :
    dpBuildFlowKey env buffer m =
      ({ l3Dst := dst
         proto := m.df.l4Type
         portDst := m.df.l4Info.icmpIdentifier
         l3Src := src
         vnfType := markedType env buffer m
         src := m.df.l4Info.icmpType.toUInt16
         vni := keyVni env.tables m },
        true) := by
  obtain ⟨vnfType, built⟩ := @dpBuildFlowKey_of_addresses env buffer m dst src addresses
  have notTransport : ¬ (m.df.l4Type = ipprotoTcp ∨ m.df.l4Type = ipprotoUdp) := by
    rw [icmp]
    decide
  rw [markedType, built, buildKeyPorts, if_neg notTransport, if_pos icmp,
    dpBuildIcmpFlowKey, if_pos echo]

theorem dpBuildFlowKey_of_icmpv6 (addresses : keyAddresses m.df = some (dst, src))
    (icmpv6 : m.df.l4Type = ipprotoIcmpv6) :
    dpBuildFlowKey env buffer m =
      ({ l3Dst := dst
         proto := m.df.l4Type
         portDst := m.df.l4Info.icmpIdentifier
         l3Src := src
         vnfType := markedType env buffer m
         src := m.df.l4Info.icmpType.toUInt16
         vni := keyVni env.tables m },
        true) := by
  obtain ⟨vnfType, built⟩ := @dpBuildFlowKey_of_addresses env buffer m dst src addresses
  have notTransport : ¬ (m.df.l4Type = ipprotoTcp ∨ m.df.l4Type = ipprotoUdp) := by
    rw [icmpv6]
    decide
  have notIcmp : ¬ m.df.l4Type = ipprotoIcmp := by
    rw [icmpv6]
    decide
  rw [markedType, built, buildKeyPorts, if_neg notTransport, if_neg notIcmp, if_pos icmpv6]

end Keys

/-! ## The key of the answer -/

theorem Echoes.isEcho {request reply first second : UInt8}
    (echoes : Echoes request reply first second) :
    (first = reply ∨ first = request) ∧ (second = reply ∨ second = request) := by
  rcases echoes with ⟨one, two⟩ | ⟨one, two⟩
  · exact ⟨Or.inr one, Or.inl two⟩
  · exact ⟨Or.inl one, Or.inr two⟩

theorem answeringType_of_echoes {first second : UInt8}
    (echoes : Echoes icmpEchoRequest icmpEchoReply first second) :
    answeringType icmpEchoReply icmpEchoRequest first.toUInt16 = second.toUInt16 := by
  rcases echoes with ⟨one, two⟩ | ⟨one, two⟩
  · rw [one, two]
    decide
  · rw [one, two]
    decide

theorem answeringType_of_echoes6 {first second : UInt8}
    (echoes : Echoes icmpv6EchoRequest icmpv6EchoReply first second) :
    answeringType icmpv6EchoReply icmpv6EchoRequest first.toUInt16 = second.toUInt16 := by
  rcases echoes with ⟨one, two⟩ | ⟨one, two⟩
  · rw [one, two]
    decide
  · rw [one, two]
    decide

/-- The keys of a packet and of the answer to it are mirrored but for the type
that they are marked with. -/
theorem dpBuildFlowKey_of_mirrored {env later : NodeEnv} {buffer other : FlowKey}
    {first second : Mbuf} (mirrored : AnsweredBy first.df second.df)
    (sameVni : keyVni later.tables second = keyVni env.tables first) :
    ∃ key, dpBuildFlowKey env buffer first = (key, true) ∧ key.l3Dst ≠ key.l3Src ∧
        dpBuildFlowKey later other second =
          ({ dpInvertFlowKey key with
             vnfType := markedType later other second },
            true) := by
  obtain ⟨dst, src, one, two, apart⟩ := mirrored.addresses
  have l4Type := mirrored.l4Type
  rcases mirrored.ports with
    ⟨transport, dstPort, srcPort⟩ | ⟨icmp, echoes, identifier⟩ | ⟨icmpv6, echoes, identifier⟩
  · refine ⟨_, dpBuildFlowKey_of_transport one transport, apart, ?_⟩
    rw [dpBuildFlowKey_of_transport two (l4Type ▸ transport), l4Type, dstPort,
      srcPort, sameVni, dpInvertFlowKey_of_transport transport]
  · obtain ⟨firstEcho, secondEcho⟩ := echoes.isEcho
    refine ⟨_, dpBuildFlowKey_of_icmp one icmp firstEcho, apart, ?_⟩
    rw [dpBuildFlowKey_of_icmp two (l4Type ▸ icmp) secondEcho, l4Type,
      identifier, sameVni, ← answeringType_of_echoes echoes, icmp]
    rfl
  refine ⟨_, dpBuildFlowKey_of_icmpv6 one icmpv6, apart, ?_⟩
  rw [dpBuildFlowKey_of_icmpv6 two (l4Type ▸ icmpv6), l4Type, identifier,
    sameVni, ← answeringType_of_echoes6 echoes, icmpv6]
  rfl

/-! ## The flow of the answer -/

/-- The flow of a packet with this key, as `conntrack` makes it and as it stays
until an address is translated. -/
structure Untranslated (store : FlowStore) (f : Handle) (key : FlowKey) :
    Prop where
  made : f < store.arena.next
  org : (store.value f).org = key
  reply : (store.value f).reply = dpInvertFlowKey key
  filed : ∀ other, store.table.lookup other = some f ↔ other = key ∨ other = dpInvertFlowKey key
  cached : ∀ g, store.cache.cached = some g → store.table.lookup store.cache.other = some g

/-- The flow and the direction that `conntrack` finds for a packet. -/
def Resolves (env : NodeEnv) (outcomes : ConntrackOutcomes) (store : FlowStore)
    (m : Mbuf) (f : Handle) (dir : FlowDir) : Prop :=
  (dpGetFlowVal env outcomes store m).2.2 = some f ∧
    (dpGetFlowVal env outcomes store m).2.1.flowDir = dir

section Resolution

variable {env : NodeEnv} {outcomes : ConntrackOutcomes} {store : FlowStore}
variable {m : Mbuf} {f : Handle} {key built : FlowKey} {dir : FlowDir}

theorem handle_of_flowTableInsertEntry {insert : InsertOutcomes} {natType : FlowNatType}
    {portId : PortId} {after : FlowStore}
    (inserted : flowTableInsertEntry insert store key natType portId = (after, some f)) :
    f = store.arena.next := by
  rw [flowTableInsertEntry] at inserted
  split at inserted
  · cases inserted
  dsimp only at inserted
  split at inserted
  · cases inserted
  split at inserted
  · exact (Option.some_inj.mp (Prod.mk.inj inserted).2).symm
  split at inserted
  · cases inserted
  cases inserted

/-- A packet belongs to a flow that is there exactly if its key is filed for
that flow. -/
theorem resolves_iff (made : f < store.arena.next)
    (cached : ∀ g, store.cache.cached = some g → store.table.lookup store.cache.other = some g)
    (result : dpBuildFlowKey env store.cache.curr m = (built, true)) :
    Resolves env outcomes store m f dir ↔ store.table.lookup built = some f ∧
        (dpSetPktFlowDirection env.dpdk built (store.value f) m.df).flowDir =
          dir := by
  rw [Resolves, dpGetFlowVal, result]
  dsimp only
  rw [Bool.not_true, if_neg Bool.false_ne_true]
  split
  · rename_i g held
    rw [Option.filter_eq_some_iff] at held
    obtain ⟨remembered, same⟩ := held
    have found := cached g remembered
    rw [← of_decide_eq_true same] at found
    rw [found]
    constructor
    · rintro ⟨flow, direction⟩
      rw [Option.some_inj] at flow
      exact ⟨congrArg some flow, flow ▸ direction⟩
    · rintro ⟨flow, direction⟩
      rw [Option.some_inj] at flow
      exact ⟨congrArg some flow, flow.symm ▸ direction⟩
  · rename_i g _ found
    rw [found]
    constructor
    · rintro ⟨flow, direction⟩
      rw [Option.some_inj] at flow
      exact ⟨congrArg some flow, flow ▸ direction⟩
    · rintro ⟨flow, direction⟩
      rw [Option.some_inj] at flow
      exact ⟨congrArg some flow, flow.symm ▸ direction⟩
  rename_i _ absent
  rw [absent]
  constructor
  · rintro ⟨flow, _⟩
    split at flow
    · cases flow
    rename_i inserted
    rw [Option.some_inj] at flow
    rw [handle_of_flowTableInsertEntry inserted] at flow
    exact absurd flow.symm (Nat.ne_of_lt made)
  · rintro ⟨none, _⟩
    cases none

theorem resolves_reply_iff (untranslated : Untranslated store f key) (apart : key.l3Dst ≠ key.l3Src)
    (result : dpBuildFlowKey env store.cache.curr m = (built, true))
    (mirrored : built = { dpInvertFlowKey key with vnfType := built.vnfType }) :
    Resolves env outcomes store m f .reply ↔ built.vnfType = key.vnfType := by
  rw [resolves_iff untranslated.made untranslated.cached result, untranslated.filed]
  have inverted : built = dpInvertFlowKey key ↔ built.vnfType = key.vnfType := by
    constructor
    · intro same
      rw [same, dpInvertFlowKey_vnfType]
    · intro same
      rw [same, ← dpInvertFlowKey_vnfType key] at mirrored
      exact mirrored
  have notOrg : built ≠ key := by
    intro same
    have l3Dst := congrArg FlowKey.l3Dst mirrored
    rw [same] at l3Dst
    exact apart (l3Dst.trans (dpInvertFlowKey_l3Dst key))
  rw [dpSetPktFlowDirection, untranslated.org, untranslated.reply, if_neg notOrg]
  constructor
  · rintro ⟨org | reply, _⟩
    · exact absurd org notOrg
    · exact inverted.mp reply
  · intro same
    have reply := inverted.mpr same
    exact ⟨Or.inr reply, if_pos reply⟩

end Resolution

/-! ## What is left in the buffer -/

section Buffer

variable (env : NodeEnv) (m : Mbuf)

def MarkedAfresh : Prop :=
  (dpGetInPort env.tables.ports m).isPf = true ∨ m.df.l3Type = etherTypeIpv4 ∨
    dpIsIpv6Nat64 m.df.dst.addr6 = true

instance : Decidable (MarkedAfresh env m) :=
  inferInstanceAs (Decidable (_ ∨ _))

theorem buildKeyPorts_cases (df : DpFlow) (frame : Frame) :
    (∀ key, buildKeyPorts df key frame = (key, false)) ∨
      ∃ write : FlowKey → FlowKey, (∀ key, buildKeyPorts df key frame = (write key, true)) ∧
        ∀ key portDst src vnfType,
          write { key with portDst, src, vnfType } = { write key with vnfType } := by
  unfold buildKeyPorts
  by_cases transport : df.l4Type = ipprotoTcp ∨ df.l4Type = ipprotoUdp
  · simp only [if_pos transport]
    exact Or.inr ⟨_, fun _ => rfl, fun _ _ _ _ => rfl⟩
  simp only [if_neg transport]
  by_cases icmp : df.l4Type = ipprotoIcmp
  · simp only [if_pos icmp, dpBuildIcmpFlowKey]
    split
    · exact Or.inr ⟨_, fun _ => rfl, fun _ _ _ _ => rfl⟩
    split
    · split
      · exact Or.inr ⟨_, fun _ => rfl, fun _ _ _ _ => rfl⟩
      · exact Or.inl fun _ => rfl
    · exact Or.inl fun _ => rfl
  simp only [if_neg icmp]
  split
  · exact Or.inr ⟨_, fun _ => rfl, fun _ _ _ _ => rfl⟩
  · exact Or.inl fun _ => rfl

theorem dpMarkVnfType_buffer {dst src : IpAddress}
    (addresses : keyAddresses m.df = some (dst, src)) (key : FlowKey) (vnfType : VnfType)
    (portDst port : UInt16) (l3Dst : key.l3Dst = dst) (l3Src : key.l3Src = src) :
    dpMarkVnfType env m.df (dpGetInPort env.tables.ports m)
        { key with portDst, src := port, vnfType } =
      if MarkedAfresh env m then dpMarkVnfType env m.df (dpGetInPort env.tables.ports m) key
      else vnfType := by
  by_cases fromPf : (dpGetInPort env.tables.ports m).isPf = true
  · have afresh : MarkedAfresh env m := Or.inl fromPf
    rw [if_pos afresh, dpMarkVnfType, dpMarkVnfType, if_pos fromPf, if_pos fromPf]
  unfold keyAddresses at addresses
  split at addresses
  · next ipv4 =>
    cases addresses
    have afresh : MarkedAfresh env m := Or.inr (Or.inl ipv4)
    rw [if_pos afresh]
    simp only [dpMarkVnfType, l3Dst, l3Src]
  next notIpv4 =>
  split at addresses
  · cases addresses
    by_cases nat64 : dpIsIpv6Nat64 m.df.dst.addr6 = true
    · have afresh : MarkedAfresh env m := Or.inr (Or.inr nat64)
      rw [if_pos afresh]
      simp only [dpMarkVnfType, l3Dst, if_pos nat64]
    have stale : ¬ MarkedAfresh env m := by
      rintro (isPf | ipv4 | isNat64)
      · exact fromPf isPf
      · exact notIpv4 ipv4
      · exact nat64 isNat64
    rw [if_neg stale]
    simp only [dpMarkVnfType, if_neg fromPf, l3Dst, if_neg nat64]
  cases addresses

theorem dpBuildFlowKey_marked : (∀ buffer, (dpBuildFlowKey env buffer m).2 = false) ∨
      ∃ key : FlowKey, ∀ buffer, dpBuildFlowKey env buffer m =
          ({ key with
             vnfType :=
               if MarkedAfresh env m then key.vnfType else buffer.vnfType }, true) := by
  unfold dpBuildFlowKey
  cases addresses : keyAddresses m.df with
  | none => exact Or.inl fun _ => rfl
  | some pair => ?_
  obtain ⟨dst, src⟩ := pair
  rcases buildKeyPorts_cases m.df m.frame with failed | ⟨write, built, written⟩
  · refine Or.inl fun buffer => ?_
    dsimp only
    rw [failed]
  right
  dsimp only
  let plain : FlowKey :=
    { FlowKey.zeroed with
      l3Dst := dst, l3Src := src, proto := m.df.l4Type, vni := keyVni env.tables m }
  refine
    ⟨{ write plain with
       vnfType := dpMarkVnfType env m.df (dpGetInPort env.tables.ports m) plain },
      fun buffer => ?_⟩
  have marked :=
    dpMarkVnfType_buffer env m addresses plain buffer.vnfType buffer.portDst buffer.src
      rfl rfl
  have filled := written plain buffer.portDst buffer.src
    (dpMarkVnfType env m.df (dpGetInPort env.tables.ports m)
      { plain with
        portDst := buffer.portDst, src := buffer.src, vnfType := buffer.vnfType })
  rw [built]
  exact congrArg (fun key => (key, true)) (filled.trans (by rw [marked]))

/-- The keys that a packet gets in two buffers are the same, whatever the
buffers held, exactly if the packet is marked afresh. -/
theorem flowKey_determined_iff :
    (∀ first second,
      (dpBuildFlowKey env first m).2 = true → (dpBuildFlowKey env second m).2 = true →
        (dpBuildFlowKey env first m).1 = (dpBuildFlowKey env second m).1) ↔
      ((dpBuildFlowKey env FlowKey.zeroed m).2 = true → MarkedAfresh env m) := by
  rcases dpBuildFlowKey_marked env m with failed | ⟨key, built⟩
  · simp only [failed, Bool.false_eq_true, false_implies, implies_true]
  simp only [built, forall_const]
  constructor
  · intro same
    by_contra stale
    have types := congrArg FlowKey.vnfType
      (same FlowKey.zeroed { FlowKey.zeroed with vnfType := .nat })
    simp only [if_neg stale] at types
    cases types
  · intro afresh first second
    rw [if_pos afresh, if_pos afresh]

end Buffer

end DpService.Nodes

import DpService.Flow.Sharing

/-!
# Whose answer is it?

Two flows that were given ports of the same NAT address must not expect their
answers under the same key.  For TCP and UDP the ports see to that, since the
key of the answers holds all that the overload table tells flows apart by.  It
is not so for ICMP: the overload table also tells flows apart by the identifier
that the guest has chosen, which no answer carries.
-/

namespace DpService.Flow

open Foundations Packet Dataplane

def portoverloadKeyOf (value : FlowValue) : Option PortoverloadKey :=
  (dpFlowToSnatKeys value).map Prod.snd

/-! ## What the key of the answers tells -/

theorem dpInvertFlowKey_l3Src (key : FlowKey) : (dpInvertFlowKey key).l3Src = key.l3Dst := by
  simp only [dpInvertFlowKey]
  split
  · rfl
  split
  · rfl
  split
  · rfl
  · rfl

theorem natReplyKey_l3Src (org : FlowKey) (natIp : Ipv4) (natPort : UInt16) :
    (natReplyKey org natIp natPort).l3Src = .v4 (natDestination org.l3Dst) := by
  cases dst : org.l3Dst with
  | v4 address =>
    simp only [natReplyKey, dst, dpInvertFlowKey_l3Src]
    rfl
  | v6 address =>
    simp only [natReplyKey, dst]
    rfl

theorem natReplyKey_of_transport {org : FlowKey} (natIp : Ipv4) (natPort : UInt16)
    (transport : org.proto = ipprotoTcp ∨ org.proto = ipprotoUdp) :
    (natReplyKey org natIp natPort).proto = org.proto ∧
      (natReplyKey org natIp natPort).src = org.portDst := by
  have notIcmpv6 : org.proto ≠ ipprotoIcmpv6 := by
    rcases transport with tcp | udp
    · rw [tcp]
      decide
    · rw [udp]
      decide
  have notIcmp : org.proto ≠ ipprotoIcmp := by
    rcases transport with tcp | udp
    · rw [tcp]
      decide
    · rw [udp]
      decide
  have kept : nat64Proto org.proto = org.proto := if_neg notIcmpv6
  cases dst : org.l3Dst with
  | v4 address =>
    simp only [natReplyKey, dst, dpInvertFlowKey_of_transport transport, and_self]
  | v6 address =>
    simp only [natReplyKey, dst, nat64ReplyKey, kept, if_neg notIcmp,
      dpInvertFlowKey_of_transport transport, and_self]

section Ownership

variable {demands : Demands} {value first second : FlowValue}
variable {ports : NatPorts} {key firstKey secondKey : PortoverloadKey}

theorem portoverloadKeyOf_of_owns (owns : Owns demands value ports key) :
    portoverloadKeyOf value = some key := by
  obtain ⟨allocation, _, keys, _⟩ := owns.allocation
  rw [portoverloadKeyOf, keys]
  rfl

theorem Owns.fields (owns : Owns demands value ports key) :
    key.dstIp = natDestination value.org.l3Dst ∧
      key.dstPort = value.org.portDst ∧ key.l4Type = value.org.proto := by
  obtain ⟨allocation, _, keys, _⟩ := owns.allocation
  rw [dpFlowToSnatKeys] at keys
  split at keys
  · cases keys
  · rw [← (Prod.mk.inj (Option.some_inj.mp keys)).2]
    exact ⟨rfl, rfl, rfl⟩

/-- Flows that expect their answers under one key have ports that differ at
most in the destination port and the protocol. -/
theorem Owns.same_nat (firstOwns : Owns demands first ports firstKey)
    (secondOwns : Owns demands second ports secondKey) (reply : first.reply = second.reply) :
    firstKey.natIp = secondKey.natIp ∧ firstKey.natPort = secondKey.natPort ∧
      firstKey.dstIp = secondKey.dstIp := by
  rw [firstOwns.reply, secondOwns.reply] at reply
  have natIp := congrArg FlowKey.l3Dst reply
  have natPort := congrArg FlowKey.portDst reply
  have dstIp := congrArg FlowKey.l3Src reply
  rw [natReplyKey_l3Dst, natReplyKey_l3Dst] at natIp
  rw [natReplyKey_portDst, natReplyKey_portDst] at natPort
  rw [natReplyKey_l3Src, natReplyKey_l3Src, ← firstOwns.fields.1, ← secondOwns.fields.1] at dstIp
  exact ⟨IpAddress.v4.inj natIp, natPort, IpAddress.v4.inj dstIp⟩

theorem PortoverloadKey.eq_of_nat
    (nat : firstKey.natIp = secondKey.natIp ∧
      firstKey.natPort = secondKey.natPort ∧ firstKey.dstIp = secondKey.dstIp)
    (dstPort : firstKey.dstPort = secondKey.dstPort)
    (l4Type : firstKey.l4Type = secondKey.l4Type) : firstKey = secondKey := by
  obtain ⟨natIp, natPort, dstIp⟩ := nat
  exact PortoverloadKey.ext natIp natPort dstIp dstPort l4Type

end Ownership

def FlowValue.Transport (value : FlowValue) : Prop :=
  value.org.proto = ipprotoTcp ∨ value.org.proto = ipprotoUdp

/-- Any two flows over TCP or UDP behind NAT have ports of their own and
expect their answers under different keys. -/
def TransportUnique (store : FlowStore) : Prop :=
  ∀ f g, store.Live f → store.Live g → (store.value f).NatLocal →
    (store.value g).NatLocal → (store.value f).Transport →
    (store.value g).Transport → f ≠ g →
      (∃ firstKey secondKey, portoverloadKeyOf (store.value f) = some firstKey ∧
          portoverloadKeyOf (store.value g) = some secondKey ∧ firstKey ≠ secondKey) ∧
      (store.value f).reply ≠ (store.value g).reply

theorem Shared.transportUnique
    {demands : Demands} {store : FlowStore} (shared : Shared demands store) :
    TransportUnique store := by
  intro f g liveF liveG natF natG transportF transportG different
  obtain ⟨firstKey, firstOwns⟩ := shared.natted f liveF natF
  obtain ⟨secondKey, secondOwns⟩ := shared.natted g liveG natG
  have apart : firstKey ≠ secondKey := by
    intro same
    rw [← same] at secondOwns
    exact different (shared.distinct f g firstKey liveF liveG natF natG firstOwns secondOwns)
  refine
    ⟨⟨firstKey, secondKey, portoverloadKeyOf_of_owns firstOwns,
      portoverloadKeyOf_of_owns secondOwns, apart⟩, ?_⟩
  intro reply
  have nat := firstOwns.same_nat secondOwns reply
  have firstPorts := natReplyKey_of_transport firstKey.natIp firstKey.natPort transportF
  have secondPorts := natReplyKey_of_transport secondKey.natIp secondKey.natPort transportG
  rw [← firstOwns.reply] at firstPorts
  rw [← secondOwns.reply] at secondPorts
  have dstPort : firstKey.dstPort = secondKey.dstPort := by
    rw [firstOwns.fields.2.1, secondOwns.fields.2.1, ← firstPorts.2, ← secondPorts.2, reply]
  have l4Type : firstKey.l4Type = secondKey.l4Type := by
    rw [firstOwns.fields.2.2, secondOwns.fields.2.2, ← firstPorts.1, ← secondPorts.1, reply]
  exact apart (PortoverloadKey.eq_of_nat nat dstPort l4Type)

/-! ## ICMP -/

theorem dpInvertFlowKey_vnfType (key : FlowKey) : (dpInvertFlowKey key).vnfType = key.vnfType := by
  simp only [dpInvertFlowKey]
  split
  · rfl
  split
  · rfl
  split
  · rfl
  · rfl

theorem natReplyKey_vnfType (org : FlowKey) (natIp : Ipv4) (natPort : UInt16) :
    (natReplyKey org natIp natPort).vnfType = org.vnfType := by
  cases dst : org.l3Dst with
  | v4 address =>
    simp only [natReplyKey, dst]
    exact dpInvertFlowKey_vnfType org
  | v6 address =>
    simp only [natReplyKey, dst]
    exact dpInvertFlowKey_vnfType org

def FlowValue.Echo (value : FlowValue) : Prop :=
  value.org.proto = ipprotoIcmp ∨ value.org.proto = ipprotoIcmpv6

/-- Any two echo flows behind NAT expect their answers under different
keys. -/
def EchoUnique (store : FlowStore) : Prop :=
  ∀ f g, store.Live f → store.Live g → (store.value f).NatLocal →
    (store.value g).NatLocal → (store.value f).Echo → (store.value g).Echo →
      f ≠ g → (store.value f).reply ≠ (store.value g).reply

/-- Two flows behind one NAT address have got the same port, and nothing else
that an answer carries tells them apart. -/
structure Confusable (first second : FlowValue) : Prop where
  natIp : first.reply.l3Dst = second.reply.l3Dst
  natPort : first.reply.portDst = second.reply.portDst
  dstIp : natDestination first.org.l3Dst = natDestination second.org.l3Dst
  proto : first.reply.proto = second.reply.proto
  answer : first.reply.src = second.reply.src
  vni : first.org.vni = second.org.vni
  vnfType : first.org.vnfType = second.org.vnfType

/-- Echo flows that an answer does not tell apart were made for the same
identifier and by the same protocol. -/
def EchoSeparated (store : FlowStore) : Prop :=
  ∀ f g, store.Live f → store.Live g → (store.value f).NatLocal →
    (store.value g).NatLocal → (store.value f).Echo → (store.value g).Echo →
      Confusable (store.value f) (store.value g) →
        (store.value f).org.portDst = (store.value g).org.portDst ∧
          (store.value f).org.proto = (store.value g).org.proto

section Confusion

variable {demands : Demands} {first second : FlowValue} {ports : NatPorts}
variable {firstKey secondKey : PortoverloadKey}

theorem Owns.reply_fields {value : FlowValue} {key : PortoverloadKey}
    (owns : Owns demands value ports key) :
    value.reply.l3Src = .v4 (natDestination value.org.l3Dst) ∧
      value.reply.vni = value.org.vni ∧ value.reply.vnfType = value.org.vnfType := by
  rw [owns.reply]
  exact
    ⟨natReplyKey_l3Src value.org key.natIp key.natPort,
      natReplyKey_vni value.org key.natIp key.natPort,
      natReplyKey_vnfType value.org key.natIp key.natPort⟩

/-- Flows can be confused exactly if they expect their answers under one
key. -/
theorem confusable_iff (firstOwns : Owns demands first ports firstKey)
    (secondOwns : Owns demands second ports secondKey) :
    Confusable first second ↔ first.reply = second.reply := by
  obtain ⟨firstSrc, firstVni, firstVnf⟩ := firstOwns.reply_fields
  obtain ⟨secondSrc, secondVni, secondVnf⟩ := secondOwns.reply_fields
  constructor
  · intro confusable
    have l3Src : first.reply.l3Src = second.reply.l3Src := by
      rw [firstSrc, secondSrc, confusable.dstIp]
    have vni : first.reply.vni = second.reply.vni := by
      rw [firstVni, secondVni, confusable.vni]
    have vnfType : first.reply.vnfType = second.reply.vnfType := by
      rw [firstVnf, secondVnf, confusable.vnfType]
    exact
      FlowKey.ext confusable.natIp confusable.proto
        confusable.natPort l3Src vnfType confusable.answer vni
  intro same
  have dstIp : natDestination first.org.l3Dst = natDestination second.org.l3Dst := by
    rw [same, secondSrc] at firstSrc
    exact (IpAddress.v4.inj firstSrc).symm
  exact
    ⟨congrArg FlowKey.l3Dst same, congrArg FlowKey.portDst same, dstIp,
      congrArg FlowKey.proto same, congrArg FlowKey.src same,
      by rw [← firstVni, ← secondVni, same], by rw [← firstVnf, ← secondVnf, same]⟩

end Confusion

/-- Echo flows keep their answers apart exactly if no two of them that differ
in their identifier or protocol can be confused. -/
theorem Shared.echoUnique_iff
    {demands : Demands} {store : FlowStore} (shared : Shared demands store) :
    EchoUnique store ↔ EchoSeparated store := by
  constructor
  · intro unique f g liveF liveG natF natG echoF echoG confusable
    obtain ⟨firstKey, firstOwns⟩ := shared.natted f liveF natF
    obtain ⟨secondKey, secondOwns⟩ := shared.natted g liveG natG
    have reply := (confusable_iff firstOwns secondOwns).mp confusable
    have same : f = g := by
      by_contra different
      exact unique f g liveF liveG natF natG echoF echoG different reply
    rw [same]
    exact ⟨rfl, rfl⟩
  intro separated f g liveF liveG natF natG echoF echoG different reply
  obtain ⟨firstKey, firstOwns⟩ := shared.natted f liveF natF
  obtain ⟨secondKey, secondOwns⟩ := shared.natted g liveG natG
  have confusable := (confusable_iff firstOwns secondOwns).mpr reply
  obtain ⟨identifier, proto⟩ :=
    separated f g liveF liveG natF natG echoF echoG confusable
  have dstPort : firstKey.dstPort = secondKey.dstPort := by
    rw [firstOwns.fields.2.1, secondOwns.fields.2.1, identifier]
  have l4Type : firstKey.l4Type = secondKey.l4Type := by
    rw [firstOwns.fields.2.2, secondOwns.fields.2.2, proto]
  have same := PortoverloadKey.eq_of_nat (firstOwns.same_nat secondOwns reply) dstPort l4Type
  rw [← same] at secondOwns
  exact different (shared.distinct f g firstKey liveF liveG natF natG firstOwns secondOwns)

end DpService.Flow

import DpService.Dataplane.Ports

/-!
# Flow keys

`struct flow_key`, the key of the other direction, and the addresses that
NAT64 embeds in IPv6.
-/

namespace DpService.Flow

open Foundations Packet Dataplane

/-- `struct flow_key`.  `src` is the union of the source port and the ICMP
type; an IPv4 address is stored with the rest of its union zeroed, so that two
keys have the same bytes exactly when they are equal here. -/
@[ext]
structure FlowKey where
  l3Dst : IpAddress
  proto : UInt8
  portDst : UInt16
  l3Src : IpAddress
  vnfType : VnfType
  src : UInt16
  vni : Vni
  deriving Repr

instance : DecidableEq FlowKey :=
  fun _ _ => decidable_of_iff _ FlowKey.ext_iff.symm

def FlowKey.zeroed : FlowKey where
  l3Dst := .v4 0
  proto := 0
  portDst := 0
  l3Src := .v4 0
  vnfType := .undefined
  src := 0
  vni := 0

def icmpEchoReply : UInt8 := 0
def icmpEchoRequest : UInt8 := 8
def icmpTypeError : UInt8 := 3
def icmpv6EchoRequest : UInt8 := 128
def icmpv6EchoReply : UInt8 := 129

/-- The ICMP type of the answer, and zero for what is no echo message. -/
def answeringType (reply request : UInt8) (type : UInt16) : UInt16 :=
  if type = reply.toUInt16 then request.toUInt16
  else if type = request.toUInt16 then reply.toUInt16
  else 0

def dpInvertFlowKey (key : FlowKey) : FlowKey :=
  let swapped := { key with l3Dst := key.l3Src, l3Src := key.l3Dst }
  if key.proto = ipprotoTcp ∨ key.proto = ipprotoUdp then
    { swapped with src := key.portDst, portDst := key.src }
  else if key.proto = ipprotoIcmp then
    { swapped with src := answeringType icmpEchoReply icmpEchoRequest key.src }
  else if key.proto = ipprotoIcmpv6 then
    { swapped with src := answeringType icmpv6EchoReply icmpv6EchoRequest key.src }
  else { swapped with portDst := 0, src := 0 }

theorem dpInvertFlowKey_l3Dst (key : FlowKey) : (dpInvertFlowKey key).l3Dst = key.l3Src := by
  unfold dpInvertFlowKey
  dsimp only
  split
  · rfl
  split
  · rfl
  split
  · rfl
  · rfl

theorem dpInvertFlowKey_of_transport {key : FlowKey}
    (transport : key.proto = ipprotoTcp ∨ key.proto = ipprotoUdp) :
    dpInvertFlowKey key =
      { key with
        l3Dst := key.l3Src
        l3Src := key.l3Dst
        src := key.portDst
        portDst := key.src } := by
  rw [dpInvertFlowKey, if_pos transport]

def dpNat64Prefix : Ipv6 :=
  ⟨0x0064ff9b00000000, 0⟩

def dpNat64Mask : Ipv6 :=
  ⟨0xffffffffffffffff, 0xffffffff00000000⟩

def dpMaskedIpv6Match (first second mask : Ipv6) : Bool :=
  first.pfx &&& mask.pfx == second.pfx &&& mask.pfx &&
    first.sfx &&& mask.sfx == second.sfx &&& mask.sfx

def dpIsIpv6Nat64 (address : Ipv6) : Bool :=
  dpMaskedIpv6Match dpNat64Prefix address dpNat64Mask

def dpGetIpv6Nat64 (address : Ipv6) : Ipv4 :=
  address.sfx.toUInt32

def dpSetIpv6Nat64 (address : Ipv4) : Ipv6 :=
  { dpNat64Prefix with sfx := address.toUInt64 }

/-! ## Keys of translated flows -/

def nat64AnsweringType (type : UInt16) : UInt16 :=
  if type = icmpv6EchoRequest.toUInt16 then icmpEchoRequest.toUInt16
  else if type = icmpv6EchoReply.toUInt16 then icmpEchoReply.toUInt16
  else 0

def nat64ReplyKey (l4Type : UInt8) (dst natIp : Ipv4) (natPort : UInt16) (reply : FlowKey) :
    FlowKey :=
  { reply with
    src :=
      if l4Type = ipprotoIcmp then nat64AnsweringType reply.src else reply.src
    l3Src := .v4 dst
    l3Dst := .v4 natIp
    portDst := natPort
    proto := l4Type }

def nat64Proto (proto : UInt8) : UInt8 :=
  if proto = ipprotoIcmpv6 then ipprotoIcmp else proto

def natReplyKey (org : FlowKey) (natIp : Ipv4) (natPort : UInt16) : FlowKey :=
  match org.l3Dst with
  | .v4 _ => { dpInvertFlowKey org with l3Dst := .v4 natIp, portDst := natPort }
  | .v6 dst =>
    nat64ReplyKey (nat64Proto org.proto) (dpGetIpv6Nat64 dst) natIp natPort (dpInvertFlowKey org)

section NatReply

variable (org : FlowKey) (natIp : Ipv4) (natPort : UInt16)

theorem natReplyKey_l3Dst : (natReplyKey org natIp natPort).l3Dst = .v4 natIp := by
  unfold natReplyKey
  split
  · rfl
  · rfl

theorem natReplyKey_portDst : (natReplyKey org natIp natPort).portDst = natPort := by
  unfold natReplyKey
  split
  · rfl
  · rfl

theorem dpInvertFlowKey_vni : (dpInvertFlowKey org).vni = org.vni := by
  unfold dpInvertFlowKey
  dsimp only
  split
  · rfl
  split
  · rfl
  split
  · rfl
  · rfl

theorem natReplyKey_vni : (natReplyKey org natIp natPort).vni = org.vni := by
  unfold natReplyKey
  split
  · exact dpInvertFlowKey_vni org
  · exact dpInvertFlowKey_vni org

end NatReply

end DpService.Flow

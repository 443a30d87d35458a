import DpService.Base

/-!
# Packet buffers

A frame is what DPDK libraries see of an mbuf: the packet's bytes, the bytes
that happen to lie behind them in the buffer, the room in front, the packet
type and the offload flags.  The rest of an mbuf belongs to the service: the
receiving port, the flow data `struct dp_flow` and the packet mark.
-/

namespace DpService.Packet

open Foundations

abbrev PortId := UInt16

/-! ## Frames -/

structure TxOffload where
  l2Len : Nat
  l3Len : Nat
  l4Len : Nat
  outerL2Len : Nat
  outerL3Len : Nat
  deriving DecidableEq, Repr

structure Frame where
  data : List UInt8
  stale : Nat → UInt8
  headroom : Nat
  packetType : UInt32
  olFlags : UInt64
  txOffload : TxOffload

namespace Frame

/-- The byte at an offset.  The code does not check header lengths, so an
offset behind the data reads what is left in the buffer there. -/
def byteAt (frame : Frame) (offset : Nat) : UInt8 :=
  if inside : offset < frame.data.length then frame.data.get ⟨offset, inside⟩
  else frame.stale (offset - frame.data.length)

def bytesAt (frame : Frame) (offset count : Nat) : List UInt8 :=
  (List.range count).map fun index => frame.byteAt (offset + index)

def be16At (frame : Frame) (offset : Nat) : UInt16 :=
  (beNat (frame.bytesAt offset 2)).toUInt16

def be32At (frame : Frame) (offset : Nat) : UInt32 :=
  (beNat (frame.bytesAt offset 4)).toUInt32

def ipv6At (frame : Frame) (offset : Nat) : Ipv6 :=
  Ipv6.ofBytes (frame.bytesAt offset 16)

/-- `rte_pktmbuf_adj`, which leaves the frame alone when it is too short. -/
def adj (frame : Frame) (count : Nat) : Frame :=
  if count ≤ frame.data.length then
    { frame with
      data := frame.data.drop count
      headroom := frame.headroom + count }
  else frame

def setByte (frame : Frame) (offset : Nat) (value : UInt8) : Frame :=
  if offset < frame.data.length then { frame with data := frame.data.set offset value }
  else { frame with stale := Function.update frame.stale (offset - frame.data.length) value }

def write (frame : Frame) (offset : Nat) : List UInt8 → Frame
  | [] => frame
  | value :: values => (frame.setByte offset value).write (offset + 1) values

def writeBe16 (frame : Frame) (offset : Nat) (value : UInt16) : Frame :=
  frame.write offset (beBytes 2 value.toNat)

def writeBe32 (frame : Frame) (offset : Nat) (value : UInt32) : Frame :=
  frame.write offset (beBytes 4 value.toNat)

/-- `rte_pktmbuf_prepend` of a header whose bytes are all written. -/
def prepend (frame : Frame) (header : List UInt8) : Option Frame :=
  if header.length ≤ frame.headroom then
    some
      { frame with
        data := header ++ frame.data
        headroom := frame.headroom - header.length }
  else none

theorem bytesAt_eq {frame : Frame} {offset count : Nat}
    (inside : offset + count ≤ frame.data.length) :
    frame.bytesAt offset count = (frame.data.drop offset).take count := by
  apply List.ext_getElem
  · simp only [bytesAt, List.length_map, List.length_range, List.length_take, List.length_drop]
    omega
  intro index leftBound rightBound
  have small : index < count := by
    simpa [bytesAt] using leftBound
  have covered : offset + index < frame.data.length := by omega
  simp [bytesAt, byteAt, covered]

theorem bytesAt_congr {first second : Frame} {offset count : Nat}
    (inside : offset + count ≤ second.data.length)
    (same : ∀ index, offset ≤ index → index < offset + count →
      first.data[index]? = second.data[index]?) :
    first.bytesAt offset count = second.bytesAt offset count := by
  apply List.map_congr_left
  intro index member
  have small : index < count := List.mem_range.mp member
  have covered : offset + index < second.data.length := by omega
  have entry := same (offset + index) (by omega) (by omega)
  rw [List.getElem?_eq_getElem covered, List.getElem?_eq_some_iff] at entry
  obtain ⟨bound, value⟩ := entry
  rw [byteAt, byteAt, dif_pos bound, dif_pos covered]
  exact value

theorem bytesAt_append {frame : Frame} (front field back : List UInt8) {offset count : Nat}
    (layout : frame.data = front ++ field ++ back) (frontLength : front.length = offset)
    (fieldLength : field.length = count) :
    frame.bytesAt offset count = field := by
  have inside : offset + count ≤ frame.data.length := by
    rw [layout]
    simp only [List.length_append]
    omega
  rw [bytesAt_eq inside, layout, List.append_assoc,
    List.drop_left' frontLength, List.take_left' fieldLength]

theorem byteAt_setByte_of_ne (frame : Frame) {offset index : Nat} (value : UInt8)
    (different : index ≠ offset) :
    (frame.setByte offset value).byteAt index = frame.byteAt index := by
  by_cases inside : offset < frame.data.length
  · rw [setByte, if_pos inside]
    by_cases covered : index < frame.data.length
    · simp [byteAt, covered, List.getElem_set_ne different.symm]
    · simp [byteAt, covered]
  rw [setByte, if_neg inside]
  by_cases covered : index < frame.data.length
  · simp [byteAt, covered]
  · have apart : index - frame.data.length ≠ offset - frame.data.length := by
      omega
    simp only [byteAt, dif_neg covered, Function.update_of_ne apart]

theorem byteAt_write_of_disjoint (frame : Frame) (values : List UInt8) {offset index : Nat}
    (apart : index < offset ∨ offset + values.length ≤ index) :
    (frame.write offset values).byteAt index = frame.byteAt index := by
  induction values generalizing frame offset with
  | nil => rfl
  | cons value values induction =>
    rw [List.length_cons] at apart
    have later : index < offset + 1 ∨ offset + 1 + values.length ≤ index := by
      omega
    have different : index ≠ offset := by omega
    rw [write, induction (frame.setByte offset value) later,
      byteAt_setByte_of_ne frame value different]

theorem bytesAt_write_of_disjoint (frame : Frame) (values : List UInt8) {offset start count : Nat}
    (apart : start + count ≤ offset ∨ offset + values.length ≤ start) :
    (frame.write offset values).bytesAt start count = frame.bytesAt start count := by
  apply List.map_congr_left
  intro index member
  have small : index < count := List.mem_range.mp member
  apply byteAt_write_of_disjoint
  omega

theorem byteAt_setByte_self (frame : Frame) (offset : Nat) (value : UInt8) :
    (frame.setByte offset value).byteAt offset = value := by
  by_cases inside : offset < frame.data.length
  · rw [setByte, if_pos inside]
    simp [byteAt, inside]
  · rw [setByte, if_neg inside]
    simp [byteAt, inside]

theorem bytesAt_cons (frame : Frame) (offset count : Nat) : frame.bytesAt offset (count + 1) =
      frame.byteAt offset :: frame.bytesAt (offset + 1) count := by
  rw [bytesAt, List.range_succ_eq_map, List.map_cons, List.map_map]
  refine congrArg (List.cons _) (List.map_congr_left ?_)
  intro index _
  have shifted : offset + (index + 1) = offset + 1 + index := by omega
  exact congrArg frame.byteAt shifted

theorem bytesAt_write_self (frame : Frame) (values : List UInt8) (offset : Nat) :
    (frame.write offset values).bytesAt offset values.length = values := by
  induction values generalizing frame offset with
  | nil => rfl
  | cons value values induction =>
    have first :
        ((frame.setByte offset value).write (offset + 1) values).byteAt offset = value := by
      rw [byteAt_write_of_disjoint _ _ (Or.inl (Nat.lt_succ_self offset))]
      exact byteAt_setByte_self frame offset value
    rw [write, List.length_cons, bytesAt_cons, first,
      induction (frame.setByte offset value) (offset + 1)]

theorem be32At_writeBe32 (frame : Frame) (offset : Nat) (value : UInt32) :
    (frame.writeBe32 offset value).be32At offset = value := by
  have written := bytesAt_write_self frame (beBytes 4 value.toNat) offset
  rw [length_beBytes] at written
  have fits : value.toNat < 256 ^ 4 := value.toNat_lt
  rw [be32At, writeBe32, written, beNat_beBytes_of_lt fits]
  exact UInt32.ofNat_toNat

end Frame

/-! ## Flow data -/

inductive FlowType where
  | westEast
  | southNorth
  deriving DecidableEq, Repr

inductive FlowDir where
  | org
  | reply
  deriving DecidableEq, Repr

inductive NatType where
  | chgNone
  | chgSrcIp
  | chgDstIp
  | chgUlDstIp
  | lbRecirc
  | nat64ChgSrcIp
  | nat64ChgDstIp
  deriving DecidableEq, Repr

inductive VnfType where
  | undefined
  | interfaceIp
  | vip
  | nat
  | lb
  | lbAliasPfx
  | aliasPfx
  deriving DecidableEq, Repr

/-- The union of an IPv6 and an IPv4 address: an IPv4 address takes the first
four of the sixteen bytes. -/
structure UnionAddr where
  addr6 : Ipv6
  deriving DecidableEq, Repr

namespace UnionAddr

def zero : UnionAddr :=
  ⟨Ipv6.zero⟩

def addr (address : UnionAddr) : Ipv4 :=
  (address.addr6.pfx.toNat / 2 ^ 32).toUInt32

def setAddr (address : UnionAddr) (value : Ipv4) : UnionAddr where
  addr6 :=
    { pfx :=
        (value.toNat * 2 ^ 32 + address.addr6.pfx.toNat % 2 ^ 32).toUInt64
      sfx := address.addr6.sfx }

@[simp]
theorem addr_setAddr (address : UnionAddr) (value : Ipv4) :
    (address.setAddr value).addr = value := by
  have valueBound : value.toNat < 2 ^ 32 := value.toNat_lt
  have lowBound : address.addr6.pfx.toNat % 2 ^ 32 < 2 ^ 32 := Nat.mod_lt _ (by decide)
  have whole : (value.toNat * 2 ^ 32 + address.addr6.pfx.toNat % 2 ^ 32).toUInt64.toNat =
        value.toNat * 2 ^ 32 + address.addr6.pfx.toNat % 2 ^ 32 := by
    simp only [Nat.toUInt64, UInt64.toNat_ofNat']
    omega
  have high : (value.toNat * 2 ^ 32 + address.addr6.pfx.toNat % 2 ^ 32) / 2 ^ 32 = value.toNat := by
    omega
  rw [addr, setAddr, whole, high]
  exact UInt32.ofNat_toNat

end UnionAddr

/-- The union of a port pair and the ICMP fields.  The first half word is the
destination port or the ICMP type and code, the second one the source port or
the ICMP identifier. -/
structure L4Info where
  first : UInt16
  second : UInt16
  deriving DecidableEq, Repr

namespace L4Info

def dstPort (info : L4Info) : UInt16 :=
  info.first

def srcPort (info : L4Info) : UInt16 :=
  info.second

def icmpType (info : L4Info) : UInt8 :=
  (info.first.toNat / 256).toUInt8

def icmpCode (info : L4Info) : UInt8 :=
  info.first.toUInt8

def icmpIdentifier (info : L4Info) : UInt16 :=
  info.second

end L4Info

structure TunInfo where
  ulSrcAddr6 : Ipv6
  ulDstAddr6 : Ipv6
  l3Type : UInt16
  protoId : UInt8
  dstVni : Vni
  deriving DecidableEq, Repr

/-- `struct dp_flow`.  `conntrack` is the handle of the connection. -/
structure DpFlow where
  flowType : FlowType
  natType : NatType
  flowDir : FlowDir
  vnfType : VnfType
  tunDstResolved : Bool
  l3Type : UInt16
  l3PayloadLength : UInt32
  dst : UnionAddr
  src : UnionAddr
  natAddr : Ipv4
  natPort : UInt16
  l4Type : UInt8
  l4Info : L4Info
  dpFlowHash : UInt32
  tunInfo : TunInfo
  nxtHop : PortId
  conntrack : Option Nat
  deriving DecidableEq, Repr

def DpFlow.zeroed : DpFlow where
  flowType := .westEast
  natType := .chgNone
  flowDir := .org
  vnfType := .undefined
  tunDstResolved := false
  l3Type := 0
  l3PayloadLength := 0
  dst := UnionAddr.zero
  src := UnionAddr.zero
  natAddr := 0
  natPort := 0
  l4Type := 0
  l4Info := ⟨0, 0⟩
  dpFlowHash := 0
  tunInfo := ⟨Ipv6.zero, Ipv6.zero, 0, 0, 0⟩
  nxtHop := 0
  conntrack := none

structure PktMark where
  isRecirc : Bool
  cryptoFailed : Bool
  deriving DecidableEq, Repr

structure Mbuf where
  frame : Frame
  port : PortId
  df : DpFlow
  mark : PktMark

/-! ## Protocol numbers and packet types -/

def etherTypeIpv4 : UInt16 := 0x0800
def etherTypeIpv6 : UInt16 := 0x86dd

def ipprotoIcmp : UInt8 := 1
def ipprotoIpip : UInt8 := 4
def ipprotoTcp : UInt8 := 6
def ipprotoUdp : UInt8 := 17
def ipprotoIpv6 : UInt8 := 41
def ipprotoEsp : UInt8 := 50
def ipprotoIcmpv6 : UInt8 := 58

def etherHdrLen : Nat := 14
def ipv4HdrLen : Nat := 20
def ipv6HdrLen : Nat := 40
def udpHdrLen : Nat := 8
def icmpHdrLen : Nat := 8
def espHdrLen : Nat := 8

def ptypeL2Mask : UInt32 := 0x0000000f
def ptypeL2Ether : UInt32 := 0x00000001
def ptypeL3Mask : UInt32 := 0x000000f0
def ptypeL3Ipv4 : UInt32 := 0x00000010
def ptypeL3Ipv6 : UInt32 := 0x00000040
def ptypeL4Mask : UInt32 := 0x00000f00
def ptypeTunnelIp : UInt32 := 0x00001000
def ptypeInnerL3Ipv4 : UInt32 := 0x00100000
def ptypeInnerL3Ipv6 : UInt32 := 0x00300000
def ptypeInnerL4Mask : UInt32 := 0x0f000000

def txOuterIpv6 : UInt64 := 0x1000000000000000
def txTunnelIp : UInt64 := 0x0001a00000000000
def txTcpCksum : UInt64 := 0x0010000000000000
def txUdpCksum : UInt64 := 0x0030000000000000
def txIpCksum : UInt64 := 0x0040000000000000
def txIpv4 : UInt64 := 0x0080000000000000
def txIpv6 : UInt64 := 0x0100000000000000
def rxSecOffload : UInt64 := 0x0000000000040000
def rxSecOffloadFailed : UInt64 := 0x0000000000080000

theorem flags_or_eq_zero {flags more mask : UInt64}
    (clear : flags &&& mask = 0) (moreClear : more &&& mask = 0) :
    (flags ||| more) &&& mask = 0 := by
  have bits : (flags.toBitVec ||| more.toBitVec) &&& mask.toBitVec =
        (flags.toBitVec &&& mask.toBitVec) ||| (more.toBitVec &&& mask.toBitVec) := by
    ext index bound
    simp only [BitVec.getElem_and, BitVec.getElem_or, Bool.and_or_distrib_right]
  apply UInt64.toBitVec_inj.mp
  rw [UInt64.toBitVec_and, UInt64.toBitVec_or, bits, ← UInt64.toBitVec_and,
    ← UInt64.toBitVec_and, clear, moreClear]
  rfl

end DpService.Packet

import DpService.Dataplane.Network
import DpService.Nodes.Tunnel

/-!
# Header rewriting

What NAT changes in a frame: addresses, ports, ICMP identifiers, and the
headers themselves when a packet is translated between IPv6 and IPv4.  The
code takes the header behind the IPv4 one to start after twenty bytes.
-/

namespace DpService.Nodes

open Foundations Packet Dataplane Flow

/-! ## Fields -/

section Fields

variable (frame : Frame)

def ipv4Proto : UInt8 :=
  frame.byteAt 23

def ipv4HdrChecksum : UInt16 :=
  frame.be16At 24

def ipv4Src : Ipv4 :=
  frame.be32At 26

def ipv4Dst : Ipv4 :=
  frame.be32At 30

def ipv4HdrLenOf : Nat :=
  (frame.byteAt 14 &&& 0x0f).toNat * 4

def setIpv4HdrChecksum (value : UInt16) : Frame :=
  frame.writeBe16 24 value

def setIpv4Src (value : Ipv4) : Frame :=
  frame.writeBe32 26 value

def setIpv4Dst (value : Ipv4) : Frame :=
  frame.writeBe32 30 value

def dpTcpHdrLen (offset : Nat) : Nat :=
  ((frame.byteAt (offset + 12) &&& 0xf0) >>> 2).toNat

/-- A half word as a little-endian host loads it. -/
def le16At (offset : Nat) : Nat :=
  (frame.byteAt offset).toNat + 256 * (frame.byteAt (offset + 1)).toNat

def writeLe16 (offset value : Nat) : Frame :=
  frame.write offset [value.toUInt8, (value / 256).toUInt8]

end Fields

def setL4Len (frame : Frame) (l4Len : Nat) : Frame :=
  { frame with txOffload := { frame.txOffload with l4Len } }

/-- Where the header behind an IPv4 or IPv6 header is taken to start. -/
def l4Of4 : Nat := etherHdrLen + ipv4HdrLen
def l4Of6 : Nat := etherHdrLen + ipv6HdrLen

def foldCarry (sum : Nat) : Nat :=
  sum % 65536 + sum / 65536

/-- A sum of 32 bits has no carry left after two rounds. -/
def foldCarries (sum : Nat) : Nat :=
  foldCarry (foldCarry sum)

def onesComplement (value : Nat) : Nat :=
  65535 - value % 65536

def dpCalculateIcmpChecksum (frame : Frame) (icmpLen : Nat) : Frame :=
  let cleared := frame.writeBe16 (l4Of4 + 2) 0
  let words := (List.range ((icmpLen + 1) / 2)).map fun index => le16At cleared (l4Of4 + 2 * index)
  writeLe16 cleared (l4Of4 + 2) (onesComplement (foldCarries (words.sum % 2 ^ 32)))

/-- A TCP or UDP checksum is computed here or left to the NIC. -/
def natTransportCksum (compute : Bool) (cksum : Frame → UInt16) (offset l4Len : Nat)
    (flag : UInt64) (frame : Frame) : Frame :=
  let cleared := setL4Len (frame.writeBe16 offset 0) l4Len
  if compute then cleared.writeBe16 offset (cksum cleared)
  else { cleared with olFlags := cleared.olFlags ||| flag }

def natTcpCksum (compute : Bool) (cksum : Frame → UInt16) (l4 : Nat) (frame : Frame) :
    Frame :=
  natTransportCksum compute cksum (l4 + 16) (dpTcpHdrLen frame l4) txTcpCksum frame

def natUdpCksum (compute : Bool) (cksum : Frame → UInt16) (l4 : Nat) (frame : Frame) :
    Frame :=
  natTransportCksum compute cksum (l4 + 6) udpHdrLen txUdpCksum frame

def dpNatChgIp (conf : DpConf) (dpdk : Dpdk) (df : DpFlow) (frame : Frame) :
    Frame :=
  -- with IPsec the NIC no longer sees the header a checksum covers
  let noOffload := conf.tapMode || conf.ipsecEnabled
  let cleared :=
    { setIpv4HdrChecksum frame 0 with
      olFlags := frame.olFlags ||| txIpv4
      txOffload :=
        { l2Len := etherHdrLen
          l3Len := ipv4HdrLenOf frame
          l4Len := 0
          outerL2Len := 0
          outerL3Len := 0 } }
  let summed :=
    if df.l4Type = ipprotoTcp then natTcpCksum noOffload dpdk.ipv4UdptcpCksum l4Of4 cleared
    else if df.l4Type = ipprotoUdp then natUdpCksum noOffload dpdk.ipv4UdptcpCksum l4Of4 cleared
    else if df.l4Type = ipprotoIcmp then setL4Len cleared icmpHdrLen
    else cleared
  if noOffload then setIpv4HdrChecksum summed (dpdk.ipv4Cksum summed)
  else { summed with olFlags := summed.olFlags ||| txIpCksum }

def dpChangeL4HdrSrcPort (frame : Frame) (value : UInt16) : Frame :=
  frame.writeBe16 l4Of4 value

def dpChangeL4HdrDstPort (frame : Frame) (value : UInt16) : Frame :=
  frame.writeBe16 (l4Of4 + 2) value

/-- The checksum is updated for the half word that changed. -/
def dpChangeIcmpIdentifier (frame : Frame) (value : UInt16) : Frame :=
  let changed := frame.writeBe16 (l4Of4 + 4) value
  let cksum :=
    onesComplement (le16At frame (l4Of4 + 2)) +
      onesComplement (le16At frame (l4Of4 + 4)) + le16At changed (l4Of4 + 4)
  writeLe16 changed (l4Of4 + 2) (onesComplement (foldCarries cksum))

/-! ## Quoted headers of ICMP errors -/

/-- `struct dp_icmp_err_ip_info`.  A port that was not read is zero. -/
structure IcmpErrIpInfo where
  present : Bool
  l4SrcPort : UInt16
  l4DstPort : UInt16
  deriving DecidableEq, Repr

def errIpv4Hdr : Nat := l4Of4 + icmpHdrLen

def errProto (frame : Frame) : UInt8 :=
  frame.byteAt (errIpv4Hdr + 9)

def errSrc (frame : Frame) : Ipv4 :=
  frame.be32At (errIpv4Hdr + 12)

def errDst (frame : Frame) : Ipv4 :=
  frame.be32At (errIpv4Hdr + 16)

def errL4 (frame : Frame) : Nat :=
  errIpv4Hdr + (frame.byteAt errIpv4Hdr &&& 0x0f).toNat * 4

def dpGetIcmpErrIpHdr (df : DpFlow) (frame : Frame) : IcmpErrIpInfo :=
  if df.l4Type = ipprotoIcmp ∧ frame.byteAt l4Of4 = icmpTypeError then
    if errProto frame = ipprotoTcp ∨ errProto frame = ipprotoUdp then
      { present := true
        l4SrcPort := frame.be16At (errL4 frame)
        l4DstPort := frame.be16At (errL4 frame + 2) }
    else { present := true, l4SrcPort := 0, l4DstPort := 0 }
  else { present := false, l4SrcPort := 0, l4DstPort := 0 }

def IcmpErrIpInfo.usable (info : IcmpErrIpInfo) : Bool :=
  info.present && info.l4SrcPort != 0 && info.l4DstPort != 0

def dpChangeIcmpErrL4SrcPort (frame : Frame) (value : UInt16) : Frame :=
  if frame.byteAt l4Of4 = icmpTypeError ∧
      (errProto frame = ipprotoTcp ∨ errProto frame = ipprotoUdp) then
    frame.writeBe16 (errL4 frame) value
  else frame

/-- What `dnat` restores in the header that an ICMP error quotes. -/
def restoreQuotedHeader (frame : Frame) (src : Ipv4) (hdrChecksum srcPort : UInt16) : Frame :=
  dpChangeIcmpErrL4SrcPort
    ((frame.writeBe32 (errIpv4Hdr + 12) src).writeBe16 (errIpv4Hdr + 10) hdrChecksum)
    srcPort

/-! ## Translation between IPv6 and IPv4 -/

def translatedEcho (request reply newRequest newReply : UInt8) (type : UInt8) : Option UInt8 :=
  if type = request then some newRequest
  else if type = reply then some newReply
  else none

def nat64DestIp (frame : Frame) : Ipv4 :=
  dpGetIpv6Nat64 (ipv6Dst frame)

def nat64Ipv4Hdr (tos : UInt8) (totalLength : UInt16) (ttl proto : UInt8)
    (src dst : Ipv4) : List UInt8 :=
  [0x45, tos] ++ beBytes 2 totalLength.toNat ++ [0, 0, 0, 0, ttl, proto, 0, 0] ++
    beBytes 4 src.toNat ++ beBytes 4 dst.toNat

/-- The frame with its IPv6 header exchanged for an IPv4 one.  The Ethernet
header is moved over the old header before the hop limit is read, so the time
to live is a byte of a MAC address. -/
def shrunkToIpv4 (frame : Frame) (natIp : Ipv4) : Frame :=
  let shortened := frame.adj (ipv6HdrLen - ipv4HdrLen)
  let moved := shortened.write 0 (frame.bytesAt 0 etherHdrLen)
  let header :=
    nat64Ipv4Hdr ((frame.be32At 14) >>> 20).toUInt8
      (moved.data.length.toUInt16 - etherHdrLen.toUInt16) (frame.byteAt 1)
      (ipv6Proto frame) natIp (nat64DestIp frame)
  { moved.write etherHdrLen header with
    packetType := moved.packetType &&& ~~~ptypeL3Mask ||| ptypeL3Ipv4
    olFlags := moved.olFlags ||| txIpv4 ||| txIpCksum
    txOffload :=
      { l2Len := etherHdrLen
        l3Len := ipv4HdrLen
        l4Len := 0
        outerL2Len := 0
        outerL3Len := 0 } }

/-- The ICMPv6 part of the translation.  The length of the ICMP message is
computed without a check, and a negative one runs out of the buffer: the
result is then `none`. -/
def icmpv6ToIcmp (frame : Frame) : Option (Frame × Bool) :=
  let typed :=
    { setL4Len (frame.setByte 23 ipprotoIcmp) icmpHdrLen with
      packetType := frame.packetType &&& ~~~ptypeL4Mask ||| 0x00000100 }
  let coded := typed.setByte (l4Of4 + 1) 0
  match
    translatedEcho icmpv6EchoRequest icmpv6EchoReply icmpEchoRequest
      icmpEchoReply (coded.byteAt l4Of4) with
  | none => some (coded, false)
  | some type =>
    let echo := coded.setByte l4Of4 type
    let totalLength := (ipv4TotalLength echo).toNat
    if ipv4HdrLen ≤ totalLength then
      some (dpCalculateIcmpChecksum echo (totalLength - ipv4HdrLen), true)
    else none

def dpNatChgIpv6ToIpv4Hdr (df : DpFlow) (frame : Frame) (natIp : Ipv4) :
    Option (DpFlow × Frame × Bool) :=
  let typed := frame.writeBe16 12 etherTypeIpv4
  if typed.data.length < ipv6HdrLen - ipv4HdrLen then some (df, typed, false)
  else
    let shrunk := shrunkToIpv4 typed natIp
    let df := { df with l3Type := etherTypeIpv4 }
    if df.l4Type = ipprotoTcp then some (df, natTcpCksum false (fun _ => 0) l4Of4 shrunk, true)
    else if df.l4Type = ipprotoUdp then some (df, natUdpCksum false (fun _ => 0) l4Of4 shrunk, true)
    else if df.l4Type = ipprotoIcmpv6 then
      (icmpv6ToIcmp shrunk).map fun (frame, ok) => ({ df with l4Type := ipprotoIcmp }, frame, ok)
    else some (df, shrunk, false)

/-- The frame with its IPv4 header exchanged for an IPv6 one, where there is
room in front. -/
def grownToIpv6 (frame : Frame) (dst : Ipv6) : Option Frame :=
  match frame.prepend (List.replicate (ipv6HdrLen - ipv4HdrLen) 0) with
  | none => none
  | some lengthened =>
    let moved := lengthened.write 0 (frame.bytesAt 0 etherHdrLen)
    let payloadLen := moved.data.length.toUInt16 - etherHdrLen.toUInt16 - ipv6HdrLen.toUInt16
    let header :=
      beBytes 4 (6 * 2 ^ 28 + (frame.byteAt 15).toNat * 2 ^ 20) ++
        beBytes 2 payloadLen.toNat ++ [ipv4Proto frame, frame.byteAt 22] ++
        (dpSetIpv6Nat64 (ipv4Src frame)).toBytes ++ dst.toBytes
    some
      { moved.write etherHdrLen header with
        packetType := moved.packetType &&& ~~~ptypeL3Mask ||| ptypeL3Ipv6
        olFlags := moved.olFlags ||| txIpv6
        txOffload :=
          { moved.txOffload with l2Len := etherHdrLen, l3Len := ipv6HdrLen, l4Len := 0 } }

def icmpToIcmpv6 (dpdk : Dpdk) (frame : Frame) : Frame × Bool :=
  let typed := setL4Len (frame.setByte 20 ipprotoIcmpv6) icmpHdrLen
  let coded := (typed.setByte (l4Of6 + 1) 0).writeBe16 (l4Of6 + 2) 0
  match
    translatedEcho icmpEchoRequest icmpEchoReply icmpv6EchoRequest
      icmpv6EchoReply (coded.byteAt l4Of6) with
  | none => (coded, false)
  | some type =>
    let echo := coded.setByte l4Of6 type
    (echo.writeBe16 (l4Of6 + 2) (dpdk.ipv6UdptcpCksum echo), true)

def dpNatChgIpv4ToIpv6Hdr (dpdk : Dpdk) (df : DpFlow) (frame : Frame) (ipv6Addr : Ipv6) :
    DpFlow × Frame × Bool :=
  let typed := frame.writeBe16 12 etherTypeIpv6
  match grownToIpv6 typed ipv6Addr with
  | none => (df, typed, false)
  | some grown =>
    let df := { df with dst := ⟨ipv6Addr⟩ }
    if df.l4Type = ipprotoTcp then (df, natTcpCksum false (fun _ => 0) l4Of6 grown, true)
    else if df.l4Type = ipprotoUdp then (df, natUdpCksum false (fun _ => 0) l4Of6 grown, true)
    else if df.l4Type = ipprotoIcmp then
      let (frame, ok) := icmpToIcmpv6 dpdk grown
      ({ df with l4Type := ipprotoIcmpv6 }, frame, ok)
    else (df, grown, false)

end DpService.Nodes

import DpService.Nodes.Fields
import DpService.Packet.Bytes

/-!
# Headers translated between IPv6 and IPv4

What NAT64 makes of a frame, byte by byte.  An IPv4 header becomes the IPv6
header it should.  In the other direction the hop limit is read after the
Ethernet header was moved over it, and the time to live is right only where
the hop limit happens to equal the second byte of the frame.
-/

namespace DpService.Nodes

open Foundations Packet Dataplane Flow

/-! ## The frames that are asked for -/

/-- The traffic class straddles the first two bytes of an IPv6 header. -/
def trafficClass (frame : Frame) : UInt8 :=
  ((frame.byteAt 14).toNat % 16 * 16 + (frame.byteAt 15).toNat / 16).toUInt8

/-- An Ethernet header and the IPv4 header of a packet that is no fragment and
has no options. -/
def ipv4Front (macs : List UInt8) (tos : UInt8) (totalLength : Nat) (ttl proto : UInt8)
    (cksum src dst : List UInt8) : List UInt8 :=
  macs ++ [0x08, 0x00] ++ [0x45, tos] ++ beBytes 2 totalLength ++
    [0, 0, 0, 0, ttl] ++ [proto] ++ cksum ++ (src ++ dst)

def ipv6Front (macs : List UInt8) (tclass : UInt8) (payloadLength : Nat)
    (proto hopLimits : UInt8) (src dst : List UInt8) : List UInt8 :=
  macs ++ [0x86, 0xdd] ++ beBytes 4 (6 * 2 ^ 28 + tclass.toNat * 2 ^ 20) ++
    beBytes 2 payloadLength ++ [proto] ++ ([hopLimits] ++ src ++ dst)

/-- The bytes of an upper-layer header that a translation may change: the
checksum, and the type and code of an ICMP message. -/
def changedUpper (proto : UInt8) : List Nat :=
  if proto = ipprotoTcp then [16, 17]
  else if proto = ipprotoUdp then [6, 7]
  else [0, 1, 2, 3]

/-- The upper-layer data starts at `l4` in the first frame and at `newL4` in
the second.  `echo` maps the types of ICMP messages. -/
structure SameUpper
    (proto icmp : UInt8) (echo : UInt8 → Option UInt8)
    (first : Frame) (l4 : Nat) (second : Frame) (newL4 : Nat) : Prop where
  bytes : ∀ index ∉ changedUpper proto, second.byteAt (newL4 + index) = first.byteAt (l4 + index)
  mapped : proto = icmp →
    echo (first.byteAt l4) = some (second.byteAt newL4) ∧ second.byteAt (newL4 + 1) = 0

def translatedProto (icmp newIcmp proto : UInt8) : UInt8 :=
  if proto = icmp then newIcmp else proto

def echoTo4 : UInt8 → Option UInt8 :=
  translatedEcho icmpv6EchoRequest icmpv6EchoReply icmpEchoRequest icmpEchoReply

def echoTo6 : UInt8 → Option UInt8 :=
  translatedEcho icmpEchoRequest icmpEchoReply icmpv6EchoRequest icmpv6EchoReply

structure TranslatedTo4 (natIp : Ipv4) (before after : Frame) : Prop where
  length : after.data.length + (ipv6HdrLen - ipv4HdrLen) = before.data.length
  front : after.bytesAt 0 l4Of4 =
      ipv4Front (before.bytesAt 0 12) (trafficClass before)
        (after.data.length - etherHdrLen) (before.byteAt 21)
        (translatedProto ipprotoIcmpv6 ipprotoIcmp (ipv6Proto before))
        (after.bytesAt 24 2) (beBytes 4 natIp.toNat) (before.bytesAt 50 4)
  upper : SameUpper (ipv6Proto before) ipprotoIcmpv6 echoTo4 before l4Of6 after l4Of4

structure TranslatedTo6 (dst : Ipv6) (before after : Frame) : Prop where
  length : after.data.length = before.data.length + (ipv6HdrLen - ipv4HdrLen)
  front : after.bytesAt 0 l4Of6 =
      ipv6Front (before.bytesAt 0 12) (before.byteAt 15) (after.data.length - l4Of6)
        (translatedProto ipprotoIcmp ipprotoIcmpv6 (ipv4Proto before))
        (before.byteAt 22)
        ([0x00, 0x64, 0xff, 0x9b, 0, 0, 0, 0, 0, 0, 0, 0] ++ before.bytesAt 26 4)
        dst.toBytes
  upper : SameUpper (ipv4Proto before) ipprotoIcmp echoTo6 before l4Of4 after l4Of6

/-! ## The new headers -/

section Exchanged

variable (frame : Frame) {ether header : List UInt8} (etherLength : ether.length = etherHdrLen)

include etherLength

theorem bytesAt_exchanged :
    ((frame.write 0 ether).write etherHdrLen header).bytesAt 0 (etherHdrLen + header.length) =
      ether ++ header := by
  have behind : etherHdrLen = 0 + ether.length := by omega
  have whole := Frame.bytesAt_write_self frame (ether ++ header) 0
  rw [List.length_append, etherLength, Frame.write_append] at whole
  rw [behind]
  rw [behind] at whole
  exact whole

theorem byteAt_behind_exchanged {index : Nat} (behind : etherHdrLen + header.length ≤ index) :
    ((frame.write 0 ether).write etherHdrLen header).byteAt index = frame.byteAt index := by
  rw [Frame.byteAt_write_of_disjoint _ _ (Or.inr behind)]
  apply Frame.byteAt_write_of_disjoint
  omega

end Exchanged

theorem length_nat64Ipv4Hdr (tos : UInt8) (totalLength : UInt16) (ttl proto : UInt8)
    (src dst : Ipv4) :
    (nat64Ipv4Hdr tos totalLength ttl proto src dst).length = ipv4HdrLen := by
  simp [nat64Ipv4Hdr, ipv4HdrLen]

section Shrunk

variable {frame : Frame} (long : l4Of6 ≤ frame.data.length) (natIp : Ipv4)

include long

theorem length_shrunkToIpv4 : (shrunkToIpv4 frame natIp).data.length + (ipv6HdrLen - ipv4HdrLen) =
      frame.data.length := by
  have covers : ipv6HdrLen - ipv4HdrLen ≤ frame.data.length := le_trans (by decide) long
  simp only [shrunkToIpv4, Frame.length_data_write, Frame.length_data_adj covers]
  omega

theorem shrunkToIpv4_front : (shrunkToIpv4 frame natIp).bytesAt 0 l4Of4 =
      frame.bytesAt 0 etherHdrLen ++
        nat64Ipv4Hdr ((frame.be32At 14) >>> 20).toUInt8
          ((frame.data.length - (ipv6HdrLen - ipv4HdrLen)).toUInt16 - etherHdrLen.toUInt16)
          (frame.byteAt 1) (ipv6Proto frame) natIp (nat64DestIp frame) := by
  have covers : ipv6HdrLen - ipv4HdrLen ≤ frame.data.length := le_trans (by decide) long
  unfold shrunkToIpv4
  dsimp only
  rw [Frame.bytesAt_attributes, Frame.length_data_write, Frame.length_data_adj covers]
  generalize headerEq : nat64Ipv4Hdr _ _ _ _ _ _ = header
  have headerLength : header.length = ipv4HdrLen := by
    rw [← headerEq]
    exact length_nat64Ipv4Hdr _ _ _ _ _ _
  rw [l4Of4, ← headerLength]
  exact bytesAt_exchanged _ (Frame.length_bytesAt _ _ _)

theorem shrunkToIpv4_byteAt (index : Nat) : (shrunkToIpv4 frame natIp).byteAt (l4Of4 + index) =
      frame.byteAt (l4Of6 + index) := by
  have covers : ipv6HdrLen - ipv4HdrLen ≤ frame.data.length := le_trans (by decide) long
  have place : ipv6HdrLen - ipv4HdrLen + (l4Of4 + index) = l4Of6 + index := by
    change 20 + (34 + index) = 54 + index
    omega
  unfold shrunkToIpv4
  dsimp only
  rw [← place, ← Frame.byteAt_adj covers, Frame.byteAt_attributes]
  apply byteAt_behind_exchanged _ (Frame.length_bytesAt _ _ _)
  rw [length_nat64Ipv4Hdr]
  exact Nat.le_add_right _ _

end Shrunk

theorem grownToIpv6_cases {frame grown : Frame} {dst : Ipv6}
    (room : grownToIpv6 frame dst = some grown) :
    ∃ header : List UInt8, ipv6HdrLen - ipv4HdrLen ≤ frame.headroom ∧ header =
          beBytes 4 (6 * 2 ^ 28 + (frame.byteAt 15).toNat * 2 ^ 20) ++
            beBytes 2
              ((frame.data.length + (ipv6HdrLen - ipv4HdrLen)).toUInt16 -
                etherHdrLen.toUInt16 - ipv6HdrLen.toUInt16).toNat ++
            [ipv4Proto frame, frame.byteAt 22] ++
            (dpSetIpv6Nat64 (ipv4Src frame)).toBytes ++ dst.toBytes ∧
        grown.data.length = frame.data.length + (ipv6HdrLen - ipv4HdrLen) ∧
        grown.bytesAt 0 l4Of6 = frame.bytesAt 0 etherHdrLen ++ header ∧
        ∀ index, grown.byteAt (l4Of6 + index) = frame.byteAt (l4Of4 + index) := by
  unfold grownToIpv6 at room
  split at room
  · cases room
  next lengthened prepended =>
  have longer := Frame.length_data_prepend prepended
  rw [List.length_replicate, Nat.add_comm] at longer
  dsimp only at room
  rw [Frame.length_data_write, longer] at room
  generalize headerEq : beBytes 4 _ ++ _ ++ _ ++ _ ++ _ = header at room
  have headerLength : header.length = ipv6HdrLen := by
    rw [← headerEq]
    simp [ipv6HdrLen]
  rw [← Option.some.inj room]
  have headroom := Frame.headroom_of_prepend prepended
  rw [List.length_replicate] at headroom
  refine ⟨header, headroom, rfl, ?_, ?_, ?_⟩
  · simp only [Frame.length_data_write, longer]
  · rw [Frame.bytesAt_attributes, l4Of6, ← headerLength]
    exact bytesAt_exchanged _ (Frame.length_bytesAt _ _ _)
  intro index
  have place : l4Of6 + index =
        (List.replicate (ipv6HdrLen - ipv4HdrLen) (0 : UInt8)).length + (l4Of4 + index) := by
    rw [List.length_replicate]
    change 54 + index = 20 + (34 + index)
    omega
  rw [Frame.byteAt_attributes, byteAt_behind_exchanged _ (Frame.length_bytesAt _ _ _), place]
  · exact Frame.byteAt_prepend prepended _
  · rw [headerLength]
    exact Nat.le_add_right _ _

/-! ## The upper-layer header -/

/-- The part of the translation behind the new header, which is given the
other family's protocol number. -/
structure UpperTranslated
    (icmp newIcmp : UInt8) (echo : UInt8 → Option UInt8) (l4 protoAt : Nat)
    (first second : Frame) : Prop where
  length : second.data.length = first.data.length
  header : ∀ index < l4, index ≠ protoAt → second.byteAt index = first.byteAt index
  proto : second.byteAt protoAt = translatedProto icmp newIcmp (first.byteAt protoAt)
  upper : SameUpper (first.byteAt protoAt) icmp echo first l4 second l4

section Upper

variable {icmp newIcmp : UInt8} {echo : UInt8 → Option UInt8}
    {l4 protoAt : Nat} {first second : Frame}

theorem upperTranslated_of_transport (transport : first.byteAt protoAt ≠ icmp)
    (before : protoAt < l4) {offset : Nat}
    (changed : changedUpper (first.byteAt protoAt) = [offset, offset + 1]) (compute : Bool)
    (cksum : Frame → UInt16) (l4Len : Nat) (flag : UInt64) :
    UpperTranslated icmp newIcmp echo l4 protoAt first
      (natTransportCksum compute cksum (l4 + offset) l4Len flag first) := by
  have outside : ∀ index, index ≠ l4 + offset → index ≠ l4 + offset + 1 →
      (natTransportCksum compute cksum (l4 + offset) l4Len flag first).byteAt index =
        first.byteAt index := by
    intro index different differentNext
    have window : index + 1 ≤ l4 + offset ∨ l4 + offset + 2 ≤ index := by
      omega
    exact
      List.head_eq_of_cons_eq
        (@natTransportCksum_bytesAt first index 1 compute cksum _ l4Len flag window)
  refine ⟨?_, ?_, ?_, ?_, ?_⟩
  · unfold natTransportCksum
    dsimp only
    split
    · simp only [Frame.writeBe16, setL4Len, Frame.length_data_write]
    · simp only [Frame.writeBe16, setL4Len, Frame.length_data_write]
  · intro index inside _
    exact outside index (by omega) (by omega)
  · rw [outside protoAt (by omega) (by omega), translatedProto, if_neg transport]
  · intro index kept
    rw [changed, List.mem_cons, List.mem_singleton, not_or] at kept
    exact outside (l4 + index) (by omega) (by omega)
  · intro isIcmp
    exact absurd isIcmp transport

theorem upperTranslated_of_icmp (isIcmp : first.byteAt protoAt = icmp)
    (changed : changedUpper icmp = [0, 1, 2, 3])
    (sameLength : second.data.length = first.data.length)
    (outside : ∀ index, index ≠ protoAt → index < l4 ∨ l4 + 4 ≤ index →
      second.byteAt index = first.byteAt index)
    (before : protoAt < l4) (newProto : second.byteAt protoAt = newIcmp)
    (mapped : echo (first.byteAt l4) = some (second.byteAt l4))
    (code : second.byteAt (l4 + 1) = 0) :
    UpperTranslated icmp newIcmp echo l4 protoAt first second := by
  refine ⟨sameLength, ?_, ?_, ?_, ?_⟩
  · intro index inside different
    exact outside index different (Or.inl inside)
  · rw [newProto, isIcmp, translatedProto, if_pos rfl]
  · intro index kept
    rw [isIcmp, changed] at kept
    simp only [List.mem_cons, List.not_mem_nil, or_false, not_or] at kept
    exact outside (l4 + index) (by omega) (Or.inr (by omega))
  · intro _
    exact ⟨mapped, code⟩

end Upper

theorem dpCalculateIcmpChecksum_byteAt (frame : Frame) (icmpLen : Nat) {index : Nat}
    (apart : index < l4Of4 + 2 ∨ l4Of4 + 4 ≤ index) :
    (dpCalculateIcmpChecksum frame icmpLen).byteAt index = frame.byteAt index := by
  unfold dpCalculateIcmpChecksum writeLe16 Frame.writeBe16
  dsimp only
  rw [Frame.byteAt_write_of_disjoint _ _ apart, Frame.byteAt_write_of_disjoint _ _ apart]

theorem length_dpCalculateIcmpChecksum (frame : Frame) (icmpLen : Nat) :
    (dpCalculateIcmpChecksum frame icmpLen).data.length = frame.data.length := by
  simp only [dpCalculateIcmpChecksum, writeLe16, Frame.writeBe16, Frame.length_data_write]

theorem icmpv6ToIcmp_upper {frame after : Frame} (isIcmp : frame.byteAt 23 = ipprotoIcmpv6)
    (translated : icmpv6ToIcmp frame = some (after, true)) :
    UpperTranslated ipprotoIcmpv6 ipprotoIcmp echoTo4 l4Of4 23 frame after := by
  unfold icmpv6ToIcmp at translated
  dsimp only at translated
  generalize codedEq :
    Frame.setByte { setL4Len _ _ with packetType := _ } _ _ = coded
    at translated
  have codedAt : ∀ index, coded.byteAt index =
        if index = l4Of4 + 1 then 0
        else if index = 23 then ipprotoIcmp else frame.byteAt index := by
    intro index
    rw [← codedEq, Frame.byteAt_setByte, ← Frame.byteAt_setByte frame 23]
    rfl
  have codedLength : coded.data.length = frame.data.length := by
    rw [← codedEq, Frame.length_data_setByte]
    exact Frame.length_data_setByte frame _ _
  split at translated
  · cases translated
  next type mapped =>
  split at translated
  · obtain ⟨rfl, -⟩ := Prod.mk.inj (Option.some.inj translated)
    have untouched : coded.byteAt l4Of4 = frame.byteAt l4Of4 := codedAt l4Of4
    refine upperTranslated_of_icmp isIcmp rfl ?_ ?_ (by decide) ?_ ?_ ?_
    · rw [length_dpCalculateIcmpChecksum, Frame.length_data_setByte, codedLength]
    · intro index different apart
      rw [dpCalculateIcmpChecksum_byteAt _ _ (by omega),
        Frame.byteAt_setByte, if_neg (by omega), codedAt, if_neg (by omega), if_neg different]
    · rw [dpCalculateIcmpChecksum_byteAt _ _ (by decide),
        Frame.byteAt_setByte, if_neg (by decide), codedAt, if_neg (by decide), if_pos rfl]
    · rw [dpCalculateIcmpChecksum_byteAt _ _ (by decide),
        Frame.byteAt_setByte, if_pos rfl, ← untouched]
      exact mapped
    · rw [dpCalculateIcmpChecksum_byteAt _ _ (by decide),
        Frame.byteAt_setByte, if_neg (by decide), codedAt, if_pos rfl]
  cases translated

theorem icmpToIcmpv6_upper (dpdk : Dpdk) {frame after : Frame}
    (isIcmp : frame.byteAt 20 = ipprotoIcmp)
    (translated : icmpToIcmpv6 dpdk frame = (after, true)) :
    UpperTranslated ipprotoIcmp ipprotoIcmpv6 echoTo6 l4Of6 20 frame after := by
  unfold icmpToIcmpv6 at translated
  dsimp only at translated
  generalize codedEq : Frame.writeBe16 (Frame.setByte (setL4Len _ _) _ _) _ _ = coded at translated
  have codedAt : ∀ index, index < l4Of6 + 2 ∨ l4Of6 + 4 ≤ index → coded.byteAt index =
        if index = l4Of6 + 1 then 0
        else if index = 20 then ipprotoIcmpv6 else frame.byteAt index := by
    intro index apart
    rw [← codedEq, Frame.writeBe16, Frame.byteAt_write_of_disjoint _ _ apart,
      Frame.byteAt_setByte, ← Frame.byteAt_setByte frame 20]
    rfl
  have codedLength : coded.data.length = frame.data.length := by
    rw [← codedEq, Frame.writeBe16, Frame.length_data_write, Frame.length_data_setByte]
    exact Frame.length_data_setByte frame _ _
  split at translated
  · cases translated
  next type mapped =>
  obtain ⟨rfl, -⟩ := Prod.mk.inj translated
  have cksumApart : ∀ value index, index < l4Of6 + 2 ∨ l4Of6 + 4 ≤ index →
      ((coded.setByte l4Of6 type).writeBe16 (l4Of6 + 2) value).byteAt index =
        (coded.setByte l4Of6 type).byteAt index :=
    fun _ _ apart => Frame.byteAt_write_of_disjoint _ _ apart
  have untouched : coded.byteAt l4Of6 = frame.byteAt l4Of6 := codedAt l4Of6 (by decide)
  refine upperTranslated_of_icmp isIcmp rfl ?_ ?_ (by decide) ?_ ?_ ?_
  · rw [Frame.writeBe16, Frame.length_data_write, Frame.length_data_setByte, codedLength]
  · intro index different apart
    rw [cksumApart _ _ (by omega), Frame.byteAt_setByte, if_neg (by omega),
      codedAt index (by omega), if_neg (by omega), if_neg different]
  · rw [cksumApart _ _ (by decide), Frame.byteAt_setByte,
      if_neg (by decide), codedAt 20 (by decide), if_neg (by decide), if_pos rfl]
  · rw [cksumApart _ _ (by decide), Frame.byteAt_setByte, if_pos rfl, ← untouched]
    exact mapped
  · rw [cksumApart _ _ (by decide), Frame.byteAt_setByte,
      if_neg (by decide), codedAt (l4Of6 + 1) (by decide), if_pos rfl]

theorem SameUpper.of_moved {proto icmp : UInt8} {echo : UInt8 → Option UInt8}
    {first moved second : Frame} {l4 newL4 : Nat}
    (same : SameUpper proto icmp echo moved newL4 second newL4)
    (movedAt : ∀ index, moved.byteAt (newL4 + index) = first.byteAt (l4 + index)) :
    SameUpper proto icmp echo first l4 second newL4 := by
  constructor
  · intro index kept
    rw [same.bytes index kept, movedAt]
  intro isIcmp
  have start : moved.byteAt newL4 = first.byteAt l4 := movedAt 0
  rw [← start]
  exact same.mapped isIcmp

/-! ## Whole headers -/

theorem bytesAt_of_exchanged {first second : Frame} {front back : List UInt8} {old : UInt8}
    {place count : Nat} (placed : front.length = place) (counted : place + 1 + back.length = count)
    (shown : first.bytesAt 0 count = front ++ [old] ++ back)
    (kept : ∀ index < count, index ≠ place → second.byteAt index = first.byteAt index) :
    first.byteAt place = old ∧ second.bytesAt 0 count = front ++ [second.byteAt place] ++ back := by
  subst placed
  simp only [← counted, Frame.bytesAt_add, Nat.zero_add] at shown
  obtain ⟨shownFront, shownBack⟩ := List.append_inj shown (by simp)
  obtain ⟨shownFront, shownOld⟩ := List.append_inj shownFront (by simp)
  have frontKept : second.bytesAt 0 front.length = first.bytesAt 0 front.length := by
    apply Frame.bytesAt_ext
    intro index inside
    rw [Nat.zero_add]
    exact kept index (by omega) (by omega)
  have backKept : second.bytesAt (front.length + 1) back.length =
        first.bytesAt (front.length + 1) back.length := by
    apply Frame.bytesAt_ext
    intro index inside
    exact kept _ (by omega) (by omega)
  refine ⟨List.head_eq_of_cons_eq shownOld, ?_⟩
  simp only [← counted, Frame.bytesAt_add, Nat.zero_add, frontKept, shownFront,
    backKept, shownBack, Frame.bytesAt_one]

theorem toUInt8_be32At (frame : Frame) :
    ((frame.be32At 14) >>> 20).toUInt8 = trafficClass frame := by
  have value := Frame.toNat_be32At frame 14
  have bytes : frame.bytesAt 14 4 =
        [frame.byteAt 14, frame.byteAt 15, frame.byteAt 16, frame.byteAt 17] :=
    rfl
  rw [bytes] at value
  simp only [beNat, List.foldl_cons, List.foldl_nil] at value
  have second : (frame.byteAt 15).toNat < 256 := (frame.byteAt 15).toNat_lt
  have third : (frame.byteAt 16).toNat < 256 := (frame.byteAt 16).toNat_lt
  have fourth : (frame.byteAt 17).toNat < 256 := (frame.byteAt 17).toNat_lt
  apply UInt8.toNat_inj.mp
  have shift : (20 : UInt32).toNat % 32 = 20 := rfl
  simp only [trafficClass, UInt32.toNat_toUInt8, UInt32.toNat_shiftRight,
    shift, Nat.shiftRight_eq_div_pow, Nat.toUInt8, UInt8.toNat_ofNat', value]
  omega

theorem beBytes_nat64DestIp (frame : Frame) :
    beBytes 4 (nat64DestIp frame).toNat = frame.bytesAt 50 4 := by
  have halves : frame.bytesAt 38 16 = frame.bytesAt 38 8 ++ frame.bytesAt 46 8 :=
    Frame.bytesAt_add frame 38 8 8
  have suffix : ((frame.bytesAt 38 16).drop 8).take 8 = frame.bytesAt 46 8 := by
    rw [halves, List.drop_left' (by simp), List.take_of_length_le (by simp)]
  have split : beNat (frame.bytesAt 46 8) =
        beNat (frame.bytesAt 46 4) * 256 ^ 4 + beNat (frame.bytesAt 50 4) := by
    rw [Frame.bytesAt_add frame 46 4 4, beNat_append, Frame.length_bytesAt]
  have low := beNat_lt (frame.bytesAt 50 4)
  rw [Frame.length_bytesAt] at low
  have value : (nat64DestIp frame).toNat = beNat (frame.bytesAt 50 4) := by
    simp only [nat64DestIp, ipv6Dst, Frame.ipv6At, Ipv6.ofBytes, suffix,
      dpGetIpv6Nat64, UInt64.toNat_toUInt32, Nat.toUInt64, UInt64.toNat_ofNat', split]
    omega
  rw [value]
  have written := beBytes_beNat (frame.bytesAt 50 4)
  rw [Frame.length_bytesAt] at written
  exact written

theorem toBytes_dpSetIpv6Nat64 (frame : Frame) : (dpSetIpv6Nat64 (ipv4Src frame)).toBytes =
      [0x00, 0x64, 0xff, 0x9b, 0, 0, 0, 0, 0, 0, 0, 0] ++ frame.bytesAt 26 4 := by
  have bound : (ipv4Src frame).toNat < 2 ^ 32 := (ipv4Src frame).toNat_lt
  have high : (ipv4Src frame).toNat / 256 ^ 4 = 0 := by
    omega
  have suffix : beBytes 8 (ipv4Src frame).toUInt64.toNat = [0, 0, 0, 0] ++ frame.bytesAt 26 4 := by
    rw [UInt32.toNat_toUInt64, beBytes_add 4 4, high, ipv4Src, Frame.beBytes_be32At]
    rfl
  have pfx : beBytes 8 dpNat64Prefix.pfx.toNat = [0x00, 0x64, 0xff, 0x9b, 0, 0, 0, 0] := by
    decide
  rw [Ipv6.toBytes, dpSetIpv6Nat64, suffix, pfx]
  rfl

section EtherType

variable (frame : Frame) (value : UInt16)

theorem typed_front : (frame.writeBe16 12 value).bytesAt 0 etherHdrLen =
      frame.bytesAt 0 12 ++ beBytes 2 value.toNat := by
  have macs : (frame.writeBe16 12 value).bytesAt 0 12 = frame.bytesAt 0 12 :=
    writeBe16_bytesAt value (Or.inl (Nat.le_refl 12))
  have written := Frame.bytesAt_write_self frame (beBytes 2 value.toNat) 12
  rw [length_beBytes] at written
  rw [etherHdrLen, Frame.bytesAt_add _ 0 12 2, macs]
  exact congrArg (frame.bytesAt 0 12 ++ ·) written

theorem typed_byteAt {index : Nat} (apart : index < 12 ∨ 14 ≤ index) :
    (frame.writeBe16 12 value).byteAt index = frame.byteAt index :=
  Frame.byteAt_write_of_disjoint frame _ apart

theorem typed_bytesAt {start count : Nat} (behind : 14 ≤ start) :
    (frame.writeBe16 12 value).bytesAt start count = frame.bytesAt start count :=
  writeBe16_bytesAt value (Or.inr behind)

theorem length_typed : (frame.writeBe16 12 value).data.length = frame.data.length :=
  Frame.length_data_write frame 12 _

end EtherType

theorem typed_long {before : Frame} (long : l4Of6 ≤ before.data.length) :
    l4Of6 ≤ (before.writeBe16 12 etherTypeIpv4).data.length := by
  rw [length_typed]
  exact long

theorem toNat_toUInt16_sub {length header : Nat} (covers : header ≤ length)
    (fits : length < 2 ^ 16) :
    (length.toUInt16 - header.toUInt16).toNat = length - header := by
  have lengthValue : length.toUInt16.toNat = length := UInt16.toNat_ofNat_of_lt' fits
  have headerValue : header.toUInt16.toNat = header :=
    UInt16.toNat_ofNat_of_lt' (lt_of_le_of_lt covers fits)
  have smaller : header.toUInt16 ≤ length.toUInt16 := by
    rw [UInt16.le_iff_toNat_le, lengthValue, headerValue]
    exact covers
  rw [UInt16.toNat_sub_of_le _ _ smaller, lengthValue, headerValue]

section To4

variable {before : Frame} (long : l4Of6 ≤ before.data.length)
    (fits : before.headroom + before.data.length < 2 ^ 16) (natIp : Ipv4)

include long fits

/-- The header before the upper-layer protocol is looked at.  Its time to live
is the second byte of the frame. -/
theorem shrunk_ipv4Front :
    (shrunkToIpv4 (before.writeBe16 12 etherTypeIpv4) natIp).bytesAt 0 l4Of4 =
      ipv4Front (before.bytesAt 0 12) (trafficClass before)
        (before.data.length - l4Of4) (before.byteAt 1) (ipv6Proto before)
        [0, 0] (beBytes 4 natIp.toNat) (before.bytesAt 50 4) := by
  have enough : 54 ≤ before.data.length := long
  have sameClass : trafficClass (before.writeBe16 12 etherTypeIpv4) = trafficClass before := by
    rw [trafficClass, trafficClass, typed_byteAt _ _ (by decide), typed_byteAt _ _ (by decide)]
  have sameProto : ipv6Proto (before.writeBe16 12 etherTypeIpv4) = ipv6Proto before :=
    typed_byteAt _ _ (by decide)
  have totalLength :
      ((before.data.length - (ipv6HdrLen - ipv4HdrLen)).toUInt16 - etherHdrLen.toUInt16).toNat =
        before.data.length - l4Of4 := by
    have reduced := @toNat_toUInt16_sub (before.data.length - 20) 14 (by omega) (by omega)
    rw [Nat.sub_sub] at reduced
    exact reduced
  have etherBytes : beBytes 2 etherTypeIpv4.toNat = [0x08, 0x00] := by
    decide
  rw [shrunkToIpv4_front (typed_long long), toUInt8_be32At, sameClass, sameProto,
    length_typed, typed_front, typed_byteAt _ _ (by decide), etherBytes,
    nat64Ipv4Hdr, totalLength, beBytes_nat64DestIp, typed_bytesAt _ _ (by decide)]
  simp [ipv4Front]

theorem shrunk_proto : (shrunkToIpv4 (before.writeBe16 12 etherTypeIpv4) natIp).byteAt 23 =
      ipv6Proto before := by
  have front := shrunk_ipv4Front long fits natIp
  rw [ipv4Front, List.append_assoc _ [0, 0]] at front
  exact
    (bytesAt_of_exchanged (by simp) (by simp [l4Of4, etherHdrLen, ipv4HdrLen])
      front fun _ _ _ => rfl).1

variable {natIp} {df translated : DpFlow} {after : Frame} (carried : df.l4Type = ipv6Proto before)
    (succeeded : dpNatChgIpv6ToIpv4Hdr df before natIp = some (translated, after, true))

include carried succeeded

theorem dpNatChgIpv6ToIpv4Hdr_upper :
    UpperTranslated ipprotoIcmpv6 ipprotoIcmp echoTo4 l4Of4 23
      (shrunkToIpv4 (before.writeBe16 12 etherTypeIpv4) natIp) after := by
  have proto := shrunk_proto long fits natIp
  rw [← carried] at proto
  unfold dpNatChgIpv6ToIpv4Hdr at succeeded
  dsimp only at succeeded
  generalize shrunkToIpv4 (before.writeBe16 12 etherTypeIpv4) natIp = shrunk at succeeded proto ⊢
  have notShort : ¬ (before.writeBe16 12 etherTypeIpv4).data.length < ipv6HdrLen - ipv4HdrLen := by
    rw [length_typed]
    exact Nat.not_lt.mpr (le_trans (by decide) long)
  rw [if_neg notShort] at succeeded
  split at succeeded
  · next isTcp =>
    rw [isTcp] at proto
    rw [← (Prod.mk.inj (Prod.mk.inj (Option.some.inj succeeded)).2).1]
    apply upperTranslated_of_transport
    · rw [proto]
      decide
    · decide
    · rw [proto]
      rfl
  split at succeeded
  · next isUdp =>
    rw [isUdp] at proto
    rw [← (Prod.mk.inj (Prod.mk.inj (Option.some.inj succeeded)).2).1]
    apply upperTranslated_of_transport
    · rw [proto]
      decide
    · decide
    · rw [proto]
      rfl
  split at succeeded
  · next isIcmp =>
    rw [isIcmp] at proto
    obtain ⟨⟨frame, ok⟩, mapped, same⟩ := Option.map_eq_some_iff.mp succeeded
    obtain ⟨sameFrame, sameOk⟩ := Prod.mk.inj (Prod.mk.inj same).2
    rw [show frame = after from sameFrame, show ok = true from sameOk] at mapped
    exact icmpv6ToIcmp_upper proto mapped
  cases succeeded

theorem dpNatChgIpv6ToIpv4Hdr_front : after.bytesAt 0 l4Of4 =
      ipv4Front (before.bytesAt 0 12) (trafficClass before)
        (before.data.length - l4Of4) (before.byteAt 1)
        (translatedProto ipprotoIcmpv6 ipprotoIcmp (ipv6Proto before))
        (after.bytesAt 24 2) (beBytes 4 natIp.toNat)
        (before.bytesAt 50 4) := by
  have upper := dpNatChgIpv6ToIpv4Hdr_upper long fits carried succeeded
  have front := shrunk_ipv4Front long fits natIp
  rw [ipv4Front, List.append_assoc _ [0, 0]] at front
  obtain ⟨proto, shown⟩ :=
    bytesAt_of_exchanged (by simp) (by simp [l4Of4, etherHdrLen, ipv4HdrLen]) front upper.header
  rw [upper.proto, proto] at shown
  have cksum : after.bytesAt 24 2 = [0, 0] := by
    have parts := shown
    rw [show l4Of4 = 24 + (2 + 8) from rfl, Frame.bytesAt_add, Frame.bytesAt_add] at parts
    have behind := (List.append_inj parts (by simp)).2
    exact (List.append_inj behind (by simp)).1
  rw [cksum, ipv4Front, List.append_assoc _ [0, 0]]
  exact shown

theorem length_dpNatChgIpv6ToIpv4Hdr :
    after.data.length + (ipv6HdrLen - ipv4HdrLen) = before.data.length := by
  rw [(dpNatChgIpv6ToIpv4Hdr_upper long fits carried succeeded).length,
    length_shrunkToIpv4 (typed_long long), length_typed]

theorem translatedTo4_iff :
    TranslatedTo4 natIp before after ↔ before.byteAt 21 = before.byteAt 1 := by
  have upper := dpNatChgIpv6ToIpv4Hdr_upper long fits carried succeeded
  have front := dpNatChgIpv6ToIpv4Hdr_front long fits carried succeeded
  have shorter := length_dpNatChgIpv6ToIpv4Hdr long fits carried succeeded
  have remaining : after.data.length - etherHdrLen = before.data.length - l4Of4 := by
    have counted : after.data.length + 20 = before.data.length := shorter
    change after.data.length - 14 = before.data.length - 34
    omega
  constructor
  · intro translation
    have hopLimit := translation.front
    rw [front, remaining] at hopLimit
    simp only [ipv4Front, List.append_cancel_left_eq,
      List.append_cancel_right_eq, List.cons.injEq, and_true, true_and]
      at hopLimit
    exact hopLimit.symm
  intro hopLimit
  refine ⟨shorter, ?_, ?_⟩
  · rw [front, remaining, hopLimit]
  have same := upper.upper
  rw [shrunk_proto long fits natIp] at same
  apply same.of_moved
  intro index
  rw [shrunkToIpv4_byteAt (typed_long long)]
  exact typed_byteAt _ _ (Or.inr (by
    change 14 ≤ 54 + index
    omega))

end To4

section To6

variable {before : Frame} (long : l4Of4 ≤ before.data.length)
    (fits : before.headroom + before.data.length < 2 ^ 16) {dst : Ipv6}

include long fits

theorem grown_ipv6Front {grown : Frame}
    (room : grownToIpv6 (before.writeBe16 12 etherTypeIpv6) dst = some grown) :
    grown.bytesAt 0 l4Of6 =
      ipv6Front (before.bytesAt 0 12) (before.byteAt 15)
        (before.data.length - l4Of4) (ipv4Proto before) (before.byteAt 22)
        ([0x00, 0x64, 0xff, 0x9b, 0, 0, 0, 0, 0, 0, 0, 0] ++ before.bytesAt 26 4)
        dst.toBytes := by
  have enough : 34 ≤ before.data.length := long
  obtain ⟨header, headroom, headerEq, -, shown, -⟩ := grownToIpv6_cases room
  have roomBefore : 20 ≤ before.headroom := by
    rw [Frame.writeBe16, Frame.headroom_write] at headroom
    exact headroom
  have payloadLength :
      ((before.data.length + (ipv6HdrLen - ipv4HdrLen)).toUInt16 -
          etherHdrLen.toUInt16 - ipv6HdrLen.toUInt16).toNat =
        before.data.length - l4Of4 := by
    have first := @toNat_toUInt16_sub (before.data.length + 20) 14 (by omega) (by omega)
    have second := @toNat_toUInt16_sub (before.data.length + 20 - 14) 40 (by omega) (by omega)
    have whole : (before.data.length + 20).toUInt16 - (14 : Nat).toUInt16 =
          (before.data.length + 20 - 14).toUInt16 := by
      rw [← first]
      exact UInt16.ofNat_toNat.symm
    change
      ((before.data.length + 20).toUInt16 - (14 : Nat).toUInt16 -
        (40 : Nat).toUInt16).toNat = before.data.length - 34
    rw [whole, second]
    omega
  have etherBytes : beBytes 2 etherTypeIpv6.toNat = [0x86, 0xdd] := by
    decide
  have sameProto : ipv4Proto (before.writeBe16 12 etherTypeIpv6) = ipv4Proto before :=
    typed_byteAt _ _ (by decide)
  rw [shown, headerEq, length_typed, payloadLength, typed_front, etherBytes,
    typed_byteAt _ _ (by decide), typed_byteAt _ _ (by decide), sameProto,
    toBytes_dpSetIpv6Nat64, typed_bytesAt _ _ (by decide)]
  simp [ipv6Front]

variable {df translated : DpFlow} {after : Frame} {dpdk : Dpdk}
    (carried : df.l4Type = ipv4Proto before)
    (succeeded : dpNatChgIpv4ToIpv6Hdr dpdk df before dst = (translated, after, true))

include carried succeeded

theorem dpNatChgIpv4ToIpv6Hdr_upper : ∃ grown,
      grownToIpv6 (before.writeBe16 12 etherTypeIpv6) dst = some grown ∧
        grown.byteAt 20 = ipv4Proto before ∧
        UpperTranslated ipprotoIcmp ipprotoIcmpv6 echoTo6 l4Of6 20 grown
          after := by
  unfold dpNatChgIpv4ToIpv6Hdr at succeeded
  dsimp only at succeeded
  split at succeeded
  · cases succeeded
  next grown room =>
  have front := grown_ipv6Front long fits room
  rw [ipv6Front] at front
  have proto : grown.byteAt 20 = ipv4Proto before :=
    (bytesAt_of_exchanged (by simp) (by simp [l4Of6, etherHdrLen, ipv6HdrLen])
      front fun _ _ _ => rfl).1
  refine ⟨grown, room, proto, ?_⟩
  rw [← carried] at proto
  split at succeeded
  · next isTcp =>
    rw [isTcp] at proto
    rw [← (Prod.mk.inj (Prod.mk.inj succeeded).2).1]
    apply upperTranslated_of_transport
    · rw [proto]
      decide
    · decide
    · rw [proto]
      rfl
  split at succeeded
  · next isUdp =>
    rw [isUdp] at proto
    rw [← (Prod.mk.inj (Prod.mk.inj succeeded).2).1]
    apply upperTranslated_of_transport
    · rw [proto]
      decide
    · decide
    · rw [proto]
      rfl
  split at succeeded
  · next isIcmp =>
    rw [isIcmp] at proto
    obtain ⟨sameFrame, sameOk⟩ :=
      Prod.mk.inj (Prod.mk.inj succeeded).2
    exact icmpToIcmpv6_upper dpdk proto (Prod.ext sameFrame sameOk)
  cases succeeded

theorem translatedTo6_of_success : TranslatedTo6 dst before after := by
  obtain ⟨grown, room, proto, upper⟩ := dpNatChgIpv4ToIpv6Hdr_upper long fits carried succeeded
  obtain ⟨-, -, -, longer, -, moved⟩ := grownToIpv6_cases room
  rw [length_typed] at longer
  have front := grown_ipv6Front long fits room
  rw [ipv6Front] at front
  have shown :=
    (bytesAt_of_exchanged (by simp) (by simp [l4Of6, etherHdrLen, ipv6HdrLen]) front upper.header).2
  have remaining : after.data.length - l4Of6 = before.data.length - l4Of4 := by
    rw [upper.length, longer]
    change before.data.length + 20 - 54 = before.data.length - 34
    omega
  refine ⟨upper.length.trans longer, ?_, ?_⟩
  · rw [shown, upper.proto, proto, remaining, ipv6Front]
  have same := upper.upper
  rw [proto] at same
  apply same.of_moved
  intro index
  rw [moved]
  exact typed_byteAt _ _ (Or.inr (by
    change 14 ≤ 34 + index
    omega))

end To6

/-! ## Both directions -/

/-- For frames whose upper-layer header is where the code takes it to be. -/
theorem nat64Headers_iff {df : DpFlow} {before : Frame}
    (fits : before.headroom + before.data.length < 2 ^ 16) :
    (∀ natIp translated after, df.l4Type = ipv6Proto before → l4Of6 ≤ before.data.length →
      dpNatChgIpv6ToIpv4Hdr df before natIp = some (translated, after, true) →
      (TranslatedTo4 natIp before after ↔ before.byteAt 21 = before.byteAt 1)) ∧
    (∀ dpdk dst translated after, df.l4Type = ipv4Proto before → l4Of4 ≤ before.data.length →
      dpNatChgIpv4ToIpv6Hdr dpdk df before dst = (translated, after, true) →
      TranslatedTo6 dst before after) := by
  constructor
  · intro natIp translated after carried long succeeded
    exact translatedTo4_iff long fits carried succeeded
  · intro dpdk dst translated after carried long succeeded
    exact translatedTo6_of_success long fits carried succeeded

def nat64Datagram (mac hopLimits : UInt8) : Frame where
  data :=
    [0x02, mac, 0, 0, 0, 1, 0x02, 0, 0, 0, 0, 2, 0x86, 0xdd] ++
      [0x60, 0, 0, 0, 0, 8, ipprotoUdp, hopLimits] ++ (⟨0xfd00000000000000, 1⟩ : Ipv6).toBytes ++
      (dpSetIpv6Nat64 0x08080808).toBytes ++ [0x0f, 0xa0, 0, 53, 0, 8, 0, 0]
  stale := fun _ => 0
  headroom := 128
  packetType := ptypeL2Ether ||| ptypeL3Ipv6
  olFlags := 0
  txOffload := ⟨0, 0, 0, 0, 0⟩

def nat64DatagramFlow : DpFlow :=
  { DpFlow.zeroed with l3Type := etherTypeIpv6, l4Type := ipprotoUdp }

theorem nat64Datagram_translated : ∃ translated after,
      dpNatChgIpv6ToIpv4Hdr nat64DatagramFlow (nat64Datagram 64 64) 0xac100009 =
        some (translated, after, true) ∧
      TranslatedTo4 0xac100009 (nat64Datagram 64 64) after := by
  have succeeds :
      (dpNatChgIpv6ToIpv4Hdr nat64DatagramFlow (nat64Datagram 64 64)
        0xac100009).map (·.2.2) = some true := by
    decide +kernel
  obtain ⟨⟨translated, after, ok⟩, succeeded, rfl⟩ := Option.map_eq_some_iff.mp succeeds
  refine ⟨translated, after, succeeded, ?_⟩
  exact
    ((@nat64Headers_iff nat64DatagramFlow (nat64Datagram 64 64)
      (by decide)).1 _ _ _ (by decide) (by decide) succeeded).mpr (by decide)

/-- A hop limit of 64 becomes a time to live of 0. -/
theorem nat64Datagram_expired : ∃ translated after,
      dpNatChgIpv6ToIpv4Hdr nat64DatagramFlow (nat64Datagram 0 64) 0xac100009 =
        some (translated, after, true) ∧
      after.byteAt 22 = 0 ∧ ¬ TranslatedTo4 0xac100009 (nat64Datagram 0 64) after := by
  have succeeds :
      (dpNatChgIpv6ToIpv4Hdr nat64DatagramFlow (nat64Datagram 0 64)
        0xac100009).map (fun result => (result.2.1.byteAt 22, result.2.2)) =
        some (0, true) := by
    decide +kernel
  obtain ⟨⟨translated, after, ok⟩, succeeded, shown⟩ := Option.map_eq_some_iff.mp succeeds
  obtain ⟨expired, isOk⟩ := Prod.mk.inj shown
  rw [show ok = true from isOk] at succeeded
  refine ⟨translated, after, succeeded, expired, ?_⟩
  rw [translatedTo4_iff (by decide) (by decide) (by decide) succeeded]
  decide

end DpService.Nodes

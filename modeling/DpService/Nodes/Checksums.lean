import DpService.Foundations.OnesComplement
import DpService.Nodes.Forwarding
import DpService.Nodes.Nat64
import DpService.Nodes.TcpState

/-!
# Checksums of ICMP messages

An ICMP checksum is updated for the half word that changes, and computed anew
where NAT64 makes an ICMP message.  A little-endian host adds the words of the
message with their bytes exchanged, which is 256 times the sum that is asked
for, modulo 65535.
-/

namespace DpService.Nodes

open Foundations Packet Dataplane Flow

/-! ## Half words -/

theorem foldCarries_spec {sum : Nat} (small : sum < 2 ^ 32) :
    foldCarries sum ≤ 65535 ∧ foldCarries sum % 65535 = sum % 65535 ∧
      (foldCarries sum = 0 ↔ sum = 0) := by
  unfold foldCarries foldCarry
  omega

theorem writeLe16_bytes (frame : Frame) (offset value : Nat) :
    ((writeLe16 frame offset value).byteAt offset).toNat = value % 256 ∧
      ((writeLe16 frame offset value).byteAt (offset + 1)).toNat = value / 256 % 256 := by
  have written := Frame.bytesAt_write_self frame [value.toUInt8, (value / 256).toUInt8] offset
  obtain ⟨low, high⟩ := List.cons.inj written
  constructor
  · exact (congrArg UInt8.toNat low).trans (by simp)
  · exact (congrArg UInt8.toNat (List.cons.inj high).1).trans (by simp)

theorem le16At_lt (frame : Frame) (offset : Nat) : le16At frame offset < 65536 := by
  have low := (frame.byteAt offset).toNat_lt
  have high := (frame.byteAt (offset + 1)).toNat_lt
  unfold le16At
  omega

theorem onesComplement_lt (value : Nat) : onesComplement value < 65536 := by
  unfold onesComplement
  omega

theorem le16At_writeLe16_self (frame : Frame) (offset value : Nat) :
    le16At (writeLe16 frame offset value) offset = value % 65536 := by
  have written := writeLe16_bytes frame offset value
  rw [le16At, written.1, written.2]
  omega

theorem le16At_of_bytesAt {first second : Frame} {offset : Nat}
    (same : first.bytesAt offset 2 = second.bytesAt offset 2) :
    le16At first offset = le16At second offset := by
  obtain ⟨low, high⟩ := List.cons.inj same
  have high : first.byteAt (offset + 1) = second.byteAt (offset + 1) := (List.cons.inj high).1
  have low : first.byteAt offset = second.byteAt offset := low
  rw [le16At, le16At, low, high]

theorem updated_residue {cksum old new : Nat} (cksumSmall : cksum < 65536)
    (oldSmall : old < 65536) (newSmall : new < 65536) :
    (onesComplement (foldCarries (onesComplement cksum + onesComplement old + new)) + new) % 65535 =
      (cksum + old) % 65535 := by
  have sums : onesComplement cksum + onesComplement old + new =
      65535 - cksum + (65535 - old) + new := by
    rw [onesComplement, onesComplement, Nat.mod_eq_of_lt cksumSmall, Nat.mod_eq_of_lt oldSmall]
  have folded := @foldCarries_spec (onesComplement cksum + onesComplement old + new) (by omega)
  rw [onesComplement]
  omega

/-! ## Updated checksums -/

section Updated

variable {before after : Frame} {payload : Nat}

theorem sum_icmpWords (frame : Frame) (payload : Nat) :
    (beWords (frame.bytesAt l4Of4 (icmpHdrLen + payload))).sum % 65535 =
      (256 * (le16At frame l4Of4 + le16At frame (l4Of4 + 2) + le16At frame (l4Of4 + 4)) +
        (beWords (frame.bytesAt (l4Of4 + 6) (2 + payload))).sum) % 65535 := by
  have header : frame.bytesAt l4Of4 6 =
      [frame.byteAt l4Of4, frame.byteAt (l4Of4 + 1), frame.byteAt (l4Of4 + 2),
        frame.byteAt (l4Of4 + 2 + 1), frame.byteAt (l4Of4 + 4), frame.byteAt (l4Of4 + 4 + 1)] :=
    rfl
  have split : icmpHdrLen + payload = 6 + (2 + payload) := by
    rw [icmpHdrLen]
    omega
  rw [split, Frame.bytesAt_add, header]
  simp only [List.cons_append, List.nil_append, beWords, List.sum_cons, le16At]
  omega

/-- One of the other half words was `old` in parts and has `new` in their
place. -/
theorem writeLe16_onesValid {changed : Frame} {old new : Nat} (oldSmall : old < 65536)
    (newSmall : new < 65536)
    (words : le16At changed l4Of4 + le16At changed (l4Of4 + 4) + old =
      le16At before l4Of4 + le16At before (l4Of4 + 4) + new)
    (rest : changed.bytesAt (l4Of4 + 6) (2 + payload) = before.bytesAt (l4Of4 + 6) (2 + payload))
    (valid : OnesValid (before.bytesAt l4Of4 (icmpHdrLen + payload))) :
    OnesValid ((writeLe16 changed (l4Of4 + 2) (onesComplement (foldCarries
      (onesComplement (le16At before (l4Of4 + 2)) + onesComplement old + new)))).bytesAt l4Of4
      (icmpHdrLen + payload)) := by
  have updated := updated_residue (le16At_lt before (l4Of4 + 2)) oldSmall newSmall
  rw [onesValid_iff, sum_icmpWords] at valid ⊢
  rw [writeLe16_bytesAt _ (Or.inr (by omega)), rest, le16At_writeLe16_self,
    le16At_of_bytesAt (writeLe16_bytesAt _ (by decide)),
    le16At_of_bytesAt (writeLe16_bytesAt _ (by decide)),
    Nat.mod_eq_of_lt (onesComplement_lt _)]
  omega

theorem dpChangeIcmpIdentifier_onesValid (identifier : UInt16)
    (valid : OnesValid (before.bytesAt l4Of4 (icmpHdrLen + payload))) :
    OnesValid ((dpChangeIcmpIdentifier before identifier).bytesAt l4Of4 (icmpHdrLen + payload)) := by
  refine writeLe16_onesValid (le16At_lt _ _) (le16At_lt _ _) ?_ ?_ valid
  · rw [le16At_of_bytesAt
      (@writeBe16_bytesAt before l4Of4 2 (l4Of4 + 4) identifier (Or.inl (by decide)))]
    omega
  · exact writeBe16_bytesAt _ (Or.inr (Nat.le_refl _))

theorem lbNnatIcmpReply_onesValid (env : NodeEnv) {m : Mbuf} (icmp : m.df.l4Type = ipprotoIcmp)
    (valid : OnesValid (m.frame.bytesAt l4Of4 (icmpHdrLen + payload))) :
    OnesValid ((lbNnatIcmpReply env m).1.frame.bytesAt l4Of4 (icmpHdrLen + payload)) := by
  unfold lbNnatIcmpReply
  split
  · exact valid
  next request =>
  have cksum : le16At (m.frame.setByte l4Of4 icmpEchoReply) (l4Of4 + 2) =
      le16At m.frame (l4Of4 + 2) := by
    rw [le16At, le16At, Frame.byteAt_setByte_of_ne _ _ (by decide),
      Frame.byteAt_setByte_of_ne _ _ (by decide)]
  dsimp only
  rw [dpNatChgIp_bytesAt _ _ (by decide) (Or.inr icmp), setIpv4Src, Frame.writeBe32,
    Frame.bytesAt_write_of_disjoint _ _ (Or.inr (by rw [length_beBytes]; decide)), setIpv4Dst, Frame.writeBe32,
    Frame.bytesAt_write_of_disjoint _ _ (Or.inr (by rw [length_beBytes]; decide)), cksum]
  refine writeLe16_onesValid (by decide) (by decide) ?_ ?_ valid
  · rw [le16At, le16At, le16At, le16At, Frame.byteAt_setByte_self,
      Frame.byteAt_setByte_of_ne _ _ (by decide), Frame.byteAt_setByte_of_ne _ _ (by decide),
      Frame.byteAt_setByte_of_ne _ _ (by decide), Decidable.of_not_not request]
    simp only [icmpEchoReply, icmpEchoRequest, UInt8.toNat_ofNat]
    omega
  · apply Frame.bytesAt_ext
    intro index _
    exact Frame.byteAt_setByte_of_ne _ _ (by omega)

/-- The code takes the ICMP header to start right behind an IPv4 header without
options. -/
theorem icmpUpdates_valid (env : NodeEnv) {m : Mbuf} (identifier : UInt16)
    (icmp : m.df.l4Type = ipprotoIcmp)
    (valid : OnesValid (m.frame.bytesAt l4Of4 (icmpHdrLen + payload))) :
    OnesValid
        ((dpChangeIcmpIdentifier m.frame identifier).bytesAt l4Of4 (icmpHdrLen + payload)) ∧
      OnesValid ((lbNnatIcmpReply env m).1.frame.bytesAt l4Of4 (icmpHdrLen + payload)) :=
  ⟨dpChangeIcmpIdentifier_onesValid identifier valid, lbNnatIcmpReply_onesValid env icmp valid⟩

def pingMbuf : Mbuf where
  frame :=
    { nat64Datagram 64 64 with data := List.replicate l4Of4 0 ++ [8, 0, 0xf7, 0xfd, 0, 1, 0, 1] }
  port := 0
  df := { DpFlow.zeroed with l4Type := ipprotoIcmp }
  mark := ⟨false, false⟩

theorem pingMbuf_valid :
    OnesValid ((dpChangeIcmpIdentifier pingMbuf.frame 7).bytesAt l4Of4 icmpHdrLen) ∧
      OnesValid ((lbNnatIcmpReply bareEnv pingMbuf).1.frame.bytesAt l4Of4 icmpHdrLen) := by
  have valid : OnesValid (pingMbuf.frame.bytesAt l4Of4 (icmpHdrLen + 0)) :=
    Or.inr (by decide +kernel)
  exact icmpUpdates_valid bareEnv 7 rfl valid

end Updated

/-! ## Computed checksums -/

theorem sum_leWords (frame : Frame) (start words : Nat) :
    256 * ((List.range words).map fun index => le16At frame (start + 2 * index)).sum % 65535 =
        (beWords (frame.bytesAt start (2 * words))).sum % 65535 ∧
      (((List.range words).map fun index => le16At frame (start + 2 * index)).sum = 0 ↔
        (beWords (frame.bytesAt start (2 * words))).sum = 0) ∧
      ((List.range words).map fun index => le16At frame (start + 2 * index)).sum ≤
        65535 * words := by
  induction words generalizing start with
  | zero => simp [Frame.bytesAt, beWords]
  | succ words ih =>
    have bytes : frame.bytesAt start (2 * (words + 1)) =
        frame.byteAt start :: frame.byteAt (start + 1) :: frame.bytesAt (start + 2) (2 * words) := by
      rw [Nat.mul_succ, Frame.bytesAt_cons, Frame.bytesAt_cons]
    have later : ((fun index => le16At frame (start + 2 * index)) ∘ Nat.succ) =
        fun index => le16At frame (start + 2 + 2 * index) := by
      funext index
      exact congrArg (le16At frame) (by rw [Nat.succ_eq_add_one]; omega)
    have small := le16At_lt frame (start + 2 * 0)
    have first : le16At frame (start + 2 * 0) =
        (frame.byteAt start).toNat + 256 * (frame.byteAt (start + 1)).toNat :=
      rfl
    obtain ⟨residue, zero, bound⟩ := ih (start + 2)
    rw [bytes, List.range_succ_eq_map, List.map_cons, List.map_map, later, List.sum_cons, beWords,
      List.sum_cons]
    omega

def withoutCksum (message : List UInt8) : List UInt8 :=
  message.take 2 ++ [0, 0] ++ message.drop 4

/-- The bytes of a message that the loop of `dpCalculateIcmpChecksum` loads. -/
def summedOffsets (icmpLen : Nat) : List Nat :=
  (List.range ((icmpLen + 1) / 2)).flatMap fun index => [2 * index, 2 * index + 1]

/-- The checksum of exactly `icmpLen` bytes, from nothing but those bytes. -/
structure IcmpSummed (frame : Frame) (icmpLen : Nat) : Prop where
  stored : beNat (frame.bytesAt (l4Of4 + 2) 2) =
    onesChecksum (withoutCksum (frame.bytesAt l4Of4 icmpLen))
  inside : ∀ offset ∈ summedOffsets icmpLen, offset < icmpLen

theorem withoutCksum_dpCalculateIcmpChecksum (frame : Frame) (icmpLen rest : Nat) :
    withoutCksum ((dpCalculateIcmpChecksum frame icmpLen).bytesAt l4Of4 (2 + (2 + rest))) =
      (frame.writeBe16 (l4Of4 + 2) 0).bytesAt l4Of4 (2 + (2 + rest)) := by
  have cleared : (frame.writeBe16 (l4Of4 + 2) 0).bytesAt (l4Of4 + 2) 2 = [0, 0] :=
    Frame.bytesAt_write_self frame [0, 0] (l4Of4 + 2)
  have ahead : (dpCalculateIcmpChecksum frame icmpLen).bytesAt l4Of4 2 =
      (frame.writeBe16 (l4Of4 + 2) 0).bytesAt l4Of4 2 :=
    writeLe16_bytesAt _ (by decide)
  have behind : (dpCalculateIcmpChecksum frame icmpLen).bytesAt (l4Of4 + 2 + 2) rest =
      (frame.writeBe16 (l4Of4 + 2) 0).bytesAt (l4Of4 + 2 + 2) rest :=
    writeLe16_bytesAt _ (Or.inr (Nat.le_refl _))
  simp only [withoutCksum, Frame.bytesAt_add, ahead, behind, cleared]
  rw [List.take_left' (by simp), ← List.append_assoc _ _ (Frame.bytesAt _ _ rest),
    List.drop_left' (by simp), List.append_assoc]

theorem icmpSummed_of_even (frame : Frame) {words : Nat} (header : 2 ≤ words)
    (fits : words < 2 ^ 16) :
    IcmpSummed (dpCalculateIcmpChecksum frame (2 * words)) (2 * words) := by
  constructor
  · have rest : 2 * words = 2 + (2 + (2 * words - 4)) := by omega
    have shown := withoutCksum_dpCalculateIcmpChecksum frame (2 * words) (2 * words - 4)
    have half : (2 * words + 1) / 2 = words := by omega
    rw [← rest] at shown
    rw [shown, onesChecksum, dpCalculateIcmpChecksum, half]
    generalize frame.writeBe16 (l4Of4 + 2) 0 = cleared
    obtain ⟨residue, zero, bound⟩ := sum_leWords cleared l4Of4 words
    generalize ((List.range words).map fun index =>
      le16At cleared (l4Of4 + 2 * index)).sum = sum at residue zero bound ⊢
    rw [Nat.mod_eq_of_lt (by omega)]
    obtain ⟨small, folded, foldedZero⟩ := @foldCarries_spec sum (by omega)
    rw [onesSum_eq_swapped (beWords_le _) small (by omega) (by omega)]
    have bytes := writeLe16_bytes cleared (l4Of4 + 2) (onesComplement (foldCarries sum))
    change beNat [_, _] = _
    simp only [beNat, List.foldl_cons, List.foldl_nil]
    rw [Nat.add_zero, bytes.1, bytes.2, onesComplement]
    omega
  intro offset member
  simp only [summedOffsets, List.mem_flatMap, List.mem_range, List.mem_cons,
    List.not_mem_nil, or_false] at member
  omega

theorem icmpv6ToIcmp_summed {frame after : Frame}
    (translated : icmpv6ToIcmp frame = some (after, true)) :
    ∃ echo, after =
      dpCalculateIcmpChecksum echo ((ipv4TotalLength after).toNat - ipv4HdrLen) := by
  unfold icmpv6ToIcmp at translated
  dsimp only at translated
  split at translated
  · cases translated
  split at translated
  · obtain ⟨rfl, -⟩ := Prod.mk.inj (Option.some.inj translated)
    refine ⟨_, congrArg (fun length => dpCalculateIcmpChecksum _ (length - ipv4HdrLen)) ?_⟩
    refine congrArg (fun bytes => (beNat bytes).toUInt16.toNat) ?_
    apply Frame.bytesAt_ext
    intro index small
    refine (dpCalculateIcmpChecksum_byteAt _ _ (Or.inl ?_)).symm
    change 16 + index < 36
    omega
  · cases translated

section Nat64

variable {df translated : DpFlow} {before after : Frame} {natIp : Ipv4}
    (succeeded : dpNatChgIpv6ToIpv4Hdr df before natIp = some (translated, after, true))

include succeeded

theorem dpNatChgIpv6ToIpv4Hdr_summed (icmp : df.l4Type = ipprotoIcmpv6) :
    ∃ echo, after =
      dpCalculateIcmpChecksum echo ((ipv4TotalLength after).toNat - ipv4HdrLen) := by
  unfold dpNatChgIpv6ToIpv4Hdr at succeeded
  dsimp only at succeeded
  split at succeeded
  · cases succeeded
  have notTcp : df.l4Type ≠ ipprotoTcp := by
    rw [icmp]
    decide
  have notUdp : df.l4Type ≠ ipprotoUdp := by
    rw [icmp]
    decide
  rw [if_neg notTcp, if_neg notUdp] at succeeded
  obtain ⟨⟨frame, ok⟩, mapped, same⟩ := Option.map_eq_some_iff.mp succeeded
  obtain ⟨sameFrame, sameOk⟩ := Prod.mk.inj (Prod.mk.inj same).2
  rw [show frame = after from sameFrame, show ok = true from sameOk] at mapped
  exact icmpv6ToIcmp_summed mapped

variable (long : l4Of6 + icmpHdrLen ≤ before.data.length)
    (fits : before.headroom + before.data.length < 2 ^ 16) (carried : df.l4Type = ipv6Proto before)

include long fits carried

theorem totalLength_dpNatChgIpv6ToIpv4Hdr :
    (ipv4TotalLength after).toNat - ipv4HdrLen = before.data.length - l4Of6 := by
  have covered : 62 ≤ before.data.length := long
  have front :=
    dpNatChgIpv6ToIpv4Hdr_front (le_trans (Nat.le_add_right _ _) long) fits carried succeeded
  rw [show l4Of4 = 16 + (2 + 16) from rfl, Frame.bytesAt_add, Frame.bytesAt_add, ipv4Front,
    List.append_assoc _ (beBytes 2 _), List.append_assoc, List.append_assoc, List.append_assoc] at front
  have behind := (List.append_inj front (by simp)).2
  rw [List.append_assoc] at behind
  have bytes := (List.append_inj behind (by simp)).1
  have small : (before.data.length - (16 + (2 + 16))) % 256 ^ 2 = before.data.length - 34 := by
    omega
  rw [ipv4TotalLength, Frame.be16At, bytes, beNat_beBytes, small]
  change (before.data.length - 34).toUInt16.toNat - 20 = before.data.length - 54
  have fitting : before.data.length - 34 < UInt16.size := by
    change _ < 65536
    omega
  rw [show (before.data.length - 34).toUInt16.toNat = before.data.length - 34 from
    UInt16.toNat_ofNat_of_lt' fitting]
  omega

/-- For an odd length the loop loads the byte behind the message. -/
theorem nat64Checksum_iff (icmp : df.l4Type = ipprotoIcmpv6) :
    IcmpSummed after (after.data.length - l4Of4) ↔ (after.data.length - l4Of4) % 2 = 0 := by
  have covered : 62 ≤ before.data.length := long
  have ahead : l4Of6 ≤ before.data.length := le_trans (Nat.le_add_right _ _) long
  have shorter : after.data.length + 20 = before.data.length :=
    length_dpNatChgIpv6ToIpv4Hdr ahead fits carried succeeded
  have same : after.data.length - l4Of4 = before.data.length - l4Of6 := by
    change after.data.length - 34 = before.data.length - 54
    omega
  have length : before.data.length - l4Of6 = before.data.length - 54 := rfl
  rw [same]
  constructor
  · intro summed
    by_contra odd
    have beyond := summed.inside (before.data.length - l4Of6) (by
      simp only [summedOffsets, List.mem_flatMap, List.mem_range, List.mem_cons, List.not_mem_nil,
        or_false]
      exact ⟨(before.data.length - l4Of6) / 2, by omega, by omega⟩)
    exact absurd beyond (Nat.lt_irrefl _)
  intro even
  obtain ⟨echo, summed⟩ := dpNatChgIpv6ToIpv4Hdr_summed succeeded icmp
  have halves : before.data.length - l4Of6 = 2 * ((before.data.length - l4Of6) / 2) := by omega
  rw [totalLength_dpNatChgIpv6ToIpv4Hdr succeeded long fits carried, halves] at summed
  rw [halves, summed]
  exact icmpSummed_of_even echo (by omega) (by omega)

end Nat64

/-- An echo request from `fd00::1` to 8.8.8.8 behind the NAT64 prefix.  Behind
it the buffer holds what an earlier packet left there. -/
def nat64Echo (payload : List UInt8) : Frame :=
  { nat64Datagram 64 64 with
    data :=
      [0x02, 64, 0, 0, 0, 1, 0x02, 0, 0, 0, 0, 2, 0x86, 0xdd] ++
        [0x60, 0, 0, 0, 0, 8 + payload.length.toUInt8, ipprotoIcmpv6, 64] ++
        (⟨0xfd00000000000000, 1⟩ : Ipv6).toBytes ++ (dpSetIpv6Nat64 0x08080808).toBytes ++
        [icmpv6EchoRequest, 0, 0, 0, 0, 1, 0, 1] ++ payload
    stale := fun _ => 0xcd }

def nat64EchoFlow : DpFlow :=
  { nat64DatagramFlow with l4Type := ipprotoIcmpv6 }

theorem nat64Echo_summed : ∃ translated after,
    dpNatChgIpv6ToIpv4Hdr nat64EchoFlow (nat64Echo [0xab, 0xcd]) 0xac100009 =
        some (translated, after, true) ∧
      IcmpSummed after (after.data.length - l4Of4) := by
  have succeeds : (dpNatChgIpv6ToIpv4Hdr nat64EchoFlow (nat64Echo [0xab, 0xcd]) 0xac100009).map
      (fun result => (result.2.2, (result.2.1.data.length - l4Of4) % 2)) = some (true, 0) := by
    decide +kernel
  obtain ⟨⟨translated, after, ok⟩, succeeded, same⟩ := Option.map_eq_some_iff.mp succeeds
  obtain ⟨rfl, even⟩ := Prod.mk.inj same
  refine ⟨translated, after, succeeded, ?_⟩
  exact (nat64Checksum_iff succeeded (by decide +kernel) (by decide +kernel) (by decide +kernel)
    rfl).mpr even

/-- Nine bytes: the stored checksum counts a tenth. -/
theorem nat64Echo_missummed : (dpNatChgIpv6ToIpv4Hdr nat64EchoFlow (nat64Echo [0xab]) 0xac100009).map
      (fun result => (result.2.2, result.2.1.data.length - l4Of4,
        beNat (result.2.1.bytesAt (l4Of4 + 2) 2),
        onesChecksum (withoutCksum (result.2.1.bytesAt l4Of4 9)))) =
      some (true, 9, 0x4c30, 0x4cfd) ∧
    9 ∈ summedOffsets 9 := by
  decide +kernel

end DpService.Nodes

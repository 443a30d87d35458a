import DpService.Nodes.Snat

/-!
# The fields of a rewritten frame

Which bytes of a frame the rewrites of NAT touch, and what the fields are that
they leave behind.
-/

namespace DpService.Nodes

open Foundations Packet Dataplane Flow

variable {frame : Frame} {start count : Nat}

/-! ## Bytes that stay -/

theorem writeBe16_bytesAt {offset : Nat} (value : UInt16)
    (apart : start + count ≤ offset ∨ offset + 2 ≤ start) :
    (frame.writeBe16 offset value).bytesAt start count = frame.bytesAt start count := by
  apply Frame.bytesAt_write_of_disjoint
  rw [length_beBytes]
  exact apart

theorem writeLe16_bytesAt {offset : Nat} (value : Nat)
    (apart : start + count ≤ offset ∨ offset + 2 ≤ start) :
    (writeLe16 frame offset value).bytesAt start count = frame.bytesAt start count :=
  Frame.bytesAt_write_of_disjoint frame _ apart

theorem natTransportCksum_bytesAt (compute : Bool) (cksum : Frame → UInt16) {offset : Nat}
    (l4Len : Nat) (flag : UInt64) (apart : start + count ≤ offset ∨ offset + 2 ≤ start) :
    (natTransportCksum compute cksum offset l4Len flag frame).bytesAt start count =
      frame.bytesAt start count := by
  have cleared : (setL4Len (frame.writeBe16 offset 0) l4Len).bytesAt start count =
        frame.bytesAt start count :=
    writeBe16_bytesAt 0 apart
  unfold natTransportCksum
  dsimp only
  split
  · exact (writeBe16_bytesAt _ apart).trans cleared
  · exact cleared

/-- Behind the checksum of the header, a rewrite within IPv4 only changes the
transport checksums. -/
theorem dpNatChgIp_bytesAt (conf : DpConf) (dpdk : Dpdk) {df : DpFlow} (behind : 26 ≤ start)
    (apart : start + count ≤ 40 ∨ df.l4Type = ipprotoIcmp) :
    (dpNatChgIp conf dpdk df frame).bytesAt start count = frame.bytesAt start count := by
  have header : start + count ≤ 24 ∨ 24 + 2 ≤ start := Or.inr behind
  have cleared : ∀ flags lengths,
      Frame.bytesAt { setIpv4HdrChecksum frame 0 with olFlags := flags, txOffload := lengths }
        start count = frame.bytesAt start count :=
    fun _ _ => writeBe16_bytesAt 0 header
  have ahead : df.l4Type ≠ ipprotoIcmp → ∀ cksum, 6 ≤ cksum →
      start + count ≤ l4Of4 + cksum ∨ l4Of4 + cksum + 2 ≤ start := by
    intro other cksum late
    have before := apart.resolve_right other
    change start + count ≤ 34 + cksum ∨ _
    omega
  unfold dpNatChgIp
  dsimp only
  generalize summedEq : (if df.l4Type = ipprotoTcp then _ else _ : Frame) = summed
  have kept : summed.bytesAt start count = frame.bytesAt start count := by
    rw [← summedEq]
    split
    · next isTcp =>
      have before := ahead (by rw [isTcp]; decide) 16 (by decide)
      exact (natTransportCksum_bytesAt _ _ _ _ before).trans (cleared _ _)
    split
    · next isUdp =>
      have before := ahead (by rw [isUdp]; decide) 6 (Nat.le_refl 6)
      exact (natTransportCksum_bytesAt _ _ _ _ before).trans (cleared _ _)
    split
    · exact cleared _ _
    · exact cleared _ _
  split
  · exact (writeBe16_bytesAt _ header).trans kept
  · exact kept

theorem changeSource_bytesAt (df : DpFlow) (natPort : UInt16) (before : start + count ≤ 34) :
    (changeSource df frame natPort).bytesAt start count = frame.bytesAt start count := by
  have identifier : start + count ≤ l4Of4 + 4 ∨ l4Of4 + 4 + 2 ≤ start := by
    change start + count ≤ 38 ∨ _
    omega
  have cksum : start + count ≤ l4Of4 + 2 ∨ l4Of4 + 2 + 2 ≤ start := by
    change start + count ≤ 36 ∨ _
    omega
  unfold changeSource
  split
  · exact (writeLe16_bytesAt _ cksum).trans (writeBe16_bytesAt _ identifier)
  · exact writeBe16_bytesAt _ (Or.inl before)

theorem ipv4Src_setIpv4Src (frame : Frame) (address : Ipv4) :
    ipv4Src (setIpv4Src frame address) = address :=
  Frame.be32At_writeBe32 frame 26 address

theorem ipv4Src_changeSource (df : DpFlow) (frame : Frame) (natPort : UInt16) :
    ipv4Src (changeSource df frame natPort) = ipv4Src frame := by
  rw [ipv4Src, Frame.be32At, changeSource_bytesAt df natPort (by decide)]
  rfl

theorem ipv4Src_changeSrcIp (env : NodeEnv) (m : Mbuf) (frame : Frame) :
    ipv4Src (changeSrcIp env m frame).frame = ipv4Src frame := by
  unfold changeSrcIp
  dsimp only
  rw [ipv4Src, Frame.be32At, dpNatChgIp_bytesAt _ _ (Nat.le_refl 26) (Or.inl (by decide))]
  rfl

end DpService.Nodes

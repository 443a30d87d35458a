import DpService.Packet.Mbuf

/-!
# Bytes of a changed frame

Where the bytes of a frame are found after headers were written into it, cut
off its front or put before it.
-/

namespace DpService.Packet.Frame

open Foundations

variable (frame : Frame)

theorem bytesAt_add (offset first second : Nat) : frame.bytesAt offset (first + second) =
      frame.bytesAt offset first ++ frame.bytesAt (offset + first) second := by
  rw [bytesAt, List.range_add, List.map_append, List.map_map]
  refine congrArg (frame.bytesAt offset first ++ ·) (List.map_congr_left ?_)
  intro index _
  exact congrArg frame.byteAt (Nat.add_assoc offset first index).symm

theorem bytesAt_one (offset : Nat) : frame.bytesAt offset 1 = [frame.byteAt offset] :=
  rfl

@[simp]
theorem length_bytesAt (offset count : Nat) : (frame.bytesAt offset count).length = count := by
  simp [bytesAt]

theorem byteAt_attributes (packetType : UInt32) (olFlags : UInt64) (txOffload : TxOffload) :
    Frame.byteAt { frame with packetType, olFlags, txOffload } = frame.byteAt :=
  rfl

theorem bytesAt_attributes (packetType : UInt32) (olFlags : UInt64) (txOffload : TxOffload) :
    Frame.bytesAt { frame with packetType, olFlags, txOffload } = frame.bytesAt :=
  rfl

theorem bytesAt_ext {first second : Frame} {firstOffset secondOffset count : Nat}
    (same : ∀ index < count,
      first.byteAt (firstOffset + index) = second.byteAt (secondOffset + index)) :
    first.bytesAt firstOffset count = second.bytesAt secondOffset count := by
  apply List.map_congr_left
  intro index member
  exact same index (List.mem_range.mp member)

theorem toNat_be32At (offset : Nat) :
    (frame.be32At offset).toNat = beNat (frame.bytesAt offset 4) := by
  have bound := beNat_lt (frame.bytesAt offset 4)
  rw [length_bytesAt] at bound
  exact UInt32.toNat_ofNat_of_lt' bound

theorem beBytes_be32At (offset : Nat) :
    beBytes 4 (frame.be32At offset).toNat = frame.bytesAt offset 4 := by
  have written := beBytes_beNat (frame.bytesAt offset 4)
  rw [length_bytesAt] at written
  rw [toNat_be32At, written]

/-! ## Written bytes -/

@[simp]
theorem length_data_setByte (offset : Nat) (value : UInt8) :
    (frame.setByte offset value).data.length = frame.data.length := by
  rw [setByte]
  split
  · exact List.length_set
  · rfl

@[simp]
theorem length_data_write (offset : Nat) (values : List UInt8) :
    (frame.write offset values).data.length = frame.data.length := by
  induction values generalizing frame offset with
  | nil => rfl
  | cons value values induction =>
    rw [write, induction, length_data_setByte]

@[simp]
theorem headroom_write (offset : Nat) (values : List UInt8) :
    (frame.write offset values).headroom = frame.headroom := by
  induction values generalizing frame offset with
  | nil => rfl
  | cons value values induction =>
    rw [write, induction, setByte]
    split
    · rfl
    · rfl

theorem byteAt_setByte (offset : Nat) (value : UInt8) (index : Nat) :
    (frame.setByte offset value).byteAt index =
      if index = offset then value else frame.byteAt index := by
  by_cases same : index = offset
  · rw [if_pos same, same, byteAt_setByte_self]
  · rw [if_neg same, byteAt_setByte_of_ne frame value same]

theorem write_append (offset : Nat) (front back : List UInt8) : frame.write offset (front ++ back) =
      (frame.write offset front).write (offset + front.length) back := by
  induction front generalizing frame offset with
  | nil => rfl
  | cons value front induction =>
    have shifted : offset + 1 + front.length = offset + (value :: front).length := by
      rw [List.length_cons]
      omega
    rw [List.cons_append, write, write, induction, shifted]

/-! ## Shorter and longer frames -/

section Adj

variable {frame} {count : Nat} (covers : count ≤ frame.data.length)

include covers

theorem length_data_adj : (frame.adj count).data.length = frame.data.length - count := by
  rw [adj, if_pos covers]
  exact List.length_drop

theorem byteAt_adj (index : Nat) :
    (frame.adj count).byteAt index = frame.byteAt (count + index) := by
  have shorter := length_data_adj covers
  by_cases inside : count + index < frame.data.length
  · have insideShorter : index < (frame.adj count).data.length := by omega
    rw [byteAt, byteAt, dif_pos inside, dif_pos insideShorter]
    simp [adj, covers]
  have behindShorter : ¬ index < (frame.adj count).data.length := by omega
  have place : index - (frame.adj count).data.length = count + index - frame.data.length := by
    omega
  rw [byteAt, byteAt, dif_neg inside, dif_neg behindShorter, place, adj, if_pos covers]

end Adj

section Prepend

variable {frame} {lengthened : Frame} {header : List UInt8}
    (room : frame.prepend header = some lengthened)

include room

theorem headroom_of_prepend : header.length ≤ frame.headroom := by
  unfold prepend at room
  split at room
  · assumption
  cases room

theorem length_data_prepend : lengthened.data.length = header.length + frame.data.length := by
  unfold prepend at room
  split at room
  · rw [← Option.some.inj room]
    exact List.length_append
  cases room

theorem byteAt_prepend (index : Nat) :
    lengthened.byteAt (header.length + index) = frame.byteAt index := by
  have longer := length_data_prepend room
  unfold prepend at room
  split at room
  · by_cases inside : index < frame.data.length
    · have insideLonger : header.length + index < lengthened.data.length := by
        omega
      rw [byteAt, byteAt, dif_pos inside, dif_pos insideLonger]
      simp [← Option.some.inj room]
    have behindLonger : ¬ header.length + index < lengthened.data.length := by
      omega
    have place : header.length + index - lengthened.data.length = index - frame.data.length := by
      omega
    rw [byteAt, byteAt, dif_neg inside, dif_neg behindLonger, place, ← Option.some.inj room]
  cases room

end Prepend

end DpService.Packet.Frame

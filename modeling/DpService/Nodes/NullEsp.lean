import DpService.Nodes.Burst

/-!
# ESP with the null cipher

An implementation of the crypto device and of librte_ipsec in transport mode
that encrypts nothing: the headers are rearranged, the payload is kept.  It
completes everything in order.  What is proved for every lawful environment
can be evaluated with it.
-/

namespace DpService.Nodes

open Foundations Packet Dataplane Ipsec

def espTrailerLen : Nat := 2

def espOverhead : UInt16 := (espHdrLen + espTrailerLen).toUInt16

/-- The frame with an ESP header behind its IPv6 header.  The next header
moves to the last byte. -/
def espEncapsulate (spi : UInt32) (frame : Frame) : Frame :=
  { frame with
    data :=
      frame.data.take 18 ++ beBytes 2 (ipv6PayloadLen frame + espOverhead).toNat ++
        [ipprotoEsp] ++ (frame.data.drop 21).take 33 ++
        (beBytes 4 spi.toNat ++ beBytes 4 1) ++ frame.data.drop 54 ++ [0, ipv6Proto frame] }

def espDecapsulate (frame : Frame) : Frame :=
  { frame with
    data :=
      frame.data.take 18 ++ beBytes 2 (ipv6PayloadLen frame - espOverhead).toNat ++
        [frame.byteAt (frame.data.length - 1)] ++ (frame.data.drop 21).take 33 ++
        (frame.data.drop 62).take (frame.data.length - 64) }

def nullEsp : CryptoEnv where
  prepare := fun _ sa frame =>
    match sa.dir with
    | .egress => (espEncapsulate sa.spi frame, 54 ≤ frame.data.length)
    | .ingress => (frame, 64 ≤ frame.data.length)
  execute := fun _ _ frame => (frame, true)
  process := fun _ sa frame =>
    let succeeded := frame.olFlags &&& rxSecOffloadFailed == 0
    match sa.dir with
    | .egress => (frame, succeeded)
    | .ingress => (espDecapsulate frame, succeeded)
  accept := List.length
  dequeue := fun _ missing queue => (queue.take missing, queue.drop missing)
  group := fun ops => ops.map fun op => IpsecGroup.mk op.sa [op.mSrc]

theorem nullEsp_lawful : nullEsp.Lawful where
  accept_le := fun ops => Nat.le_refl ops.length
  dequeue_perm := by
    intro _ missing queue
    exact List.Perm.of_eq (List.take_append_drop missing queue)
  dequeue_le := by
    intro _ missing queue
    exact List.length_take_le missing queue
  group_perm := by
    intro ops
    have packets : (nullEsp.group ops).flatMap IpsecGroup.packets = ops.map CryptoOp.mSrc := by
      simp only [nullEsp, List.flatMap_map]
      exact List.map_eq_flatMap.symm
    exact List.Perm.of_eq packets
  group_sa := by
    intro ops group held id member
    obtain ⟨op, submitted, same⟩ := List.mem_map.mp held
    subst same
    exact ⟨op, submitted, (List.mem_singleton.mp member).symm, rfl⟩
  group_nonempty := by
    intro ops group held
    obtain ⟨op, _, same⟩ := List.mem_map.mp held
    subst same
    exact List.cons_ne_nil op.mSrc []
  process_failed := by
    intro _ sa frame ok
    cases direction : sa.dir with
    | ingress =>
      simp only [nullEsp, direction] at ok
      exact beq_iff_eq.mp ok
    | egress =>
      simp only [nullEsp, direction] at ok
      exact beq_iff_eq.mp ok

/-! ## Decapsulation inverts encapsulation -/

section Inverse

variable {frame sent : Frame} {spi : UInt32}

theorem beBytes_be16At (frame : Frame) (offset : Nat) :
    beBytes 2 (frame.be16At offset).toNat = frame.bytesAt offset 2 := by
  have length : (frame.bytesAt offset 2).length = 2 := by
    simp [Frame.bytesAt]
  have bytes := beBytes_beNat (frame.bytesAt offset 2)
  have bound := beNat_lt (frame.bytesAt offset 2)
  rw [length] at bytes bound
  have whole : (frame.be16At offset).toNat = beNat (frame.bytesAt offset 2) := by
    rw [Frame.be16At, Nat.toUInt16, UInt16.toNat_ofNat']
    exact Nat.mod_eq_of_lt bound
  rw [whole, bytes]

theorem data_eq_pieces (long : 54 ≤ frame.data.length) : frame.data =
      frame.data.take 18 ++ beBytes 2 (ipv6PayloadLen frame).toNat ++
        [ipv6Proto frame] ++ (frame.data.drop 21).take 33 ++ frame.data.drop 54 := by
  have lengthField : beBytes 2 (ipv6PayloadLen frame).toNat = (frame.data.drop 18).take 2 := by
    rw [ipv6PayloadLen, beBytes_be16At, Frame.bytesAt_eq (by omega)]
  have protoField : [ipv6Proto frame] = (frame.data.drop 20).take 1 := by
    have inside : 20 < frame.data.length := by omega
    rw [ipv6Proto, Frame.byteAt, dif_pos inside,
      List.drop_eq_getElem_cons inside, List.take_succ_cons, List.take_zero]
    rfl
  have split : ∀ start count, frame.data.drop start = (frame.data.drop start).take count ++
          frame.data.drop (start + count) := by
    intro start count
    rw [← List.drop_drop, List.take_append_drop]
  rw [lengthField, protoField]
  simp only [List.append_assoc]
  rw [← split 21 33, ← split 20 1, ← split 18 2, List.take_append_drop]

theorem espDecapsulate_espEncapsulate (long : 54 ≤ frame.data.length)
    (arrived : sent.data = (espEncapsulate spi frame).data) :
    (espDecapsulate sent).data = frame.data := by
  have frontLength : (frame.data.take 18).length = 18 := by
    rw [List.length_take]
    omega
  have middleLength : ((frame.data.drop 21).take 33).length = 33 := by
    rw [List.length_take, List.length_drop]
    omega
  have pieces := data_eq_pieces long
  unfold espEncapsulate at arrived
  generalize frame.data.take 18 = front at *
  generalize (frame.data.drop 21).take 33 = middle at *
  generalize frame.data.drop 54 = payload at *
  have sentLength : sent.data.length = 64 + payload.length := by
    rw [arrived]
    simp [frontLength, middleLength]
    omega
  have lengthField : ipv6PayloadLen sent = ipv6PayloadLen frame + espOverhead := by
    have field :=
      Frame.bytesAt_append front (beBytes 2 (ipv6PayloadLen frame + espOverhead).toNat) _
        (by rw [arrived]; simp only [List.append_assoc]; rfl)
        frontLength (length_beBytes 2 _)
    rw [ipv6PayloadLen, Frame.be16At, field, beNat_beBytes_of_lt (UInt16.toNat_lt _)]
    exact UInt16.ofNat_toNat
  have front18 : sent.data.take 18 = front := by
    rw [arrived]
    simp only [List.append_assoc]
    exact List.take_left' frontLength
  have middle33 : (sent.data.drop 21).take 33 = middle := by
    rw [← Frame.bytesAt_eq (by omega)]
    refine
      Frame.bytesAt_append
        (front ++ beBytes 2 (ipv6PayloadLen frame + espOverhead).toNat ++ [ipprotoEsp])
        middle _ (by rw [arrived]; simp only [List.append_assoc]; rfl) ?_
        middleLength
    simp [frontLength]
  have payloadField : (sent.data.drop 62).take (sent.data.length - 64) = payload := by
    rw [← Frame.bytesAt_eq (by omega)]
    refine
      Frame.bytesAt_append
        (front ++ beBytes 2 (ipv6PayloadLen frame + espOverhead).toNat ++
          [ipprotoEsp] ++ middle ++ (beBytes 4 spi.toNat ++ beBytes 4 1))
        payload [0, ipv6Proto frame] arrived ?_ (by omega)
    simp [frontLength, middleLength]
  have nextHeader : sent.byteAt (sent.data.length - 1) = ipv6Proto frame := by
    have field : sent.bytesAt (sent.data.length - 1) 1 = [ipv6Proto frame] := by
      refine
        Frame.bytesAt_append
          (front ++ beBytes 2 (ipv6PayloadLen frame + espOverhead).toNat ++
            [ipprotoEsp] ++ middle ++ (beBytes 4 spi.toNat ++ beBytes 4 1) ++ payload ++ [0])
          [ipv6Proto frame] [] ?_ ?_ rfl
      · rw [arrived, List.append_nil, List.append_assoc _ [0]]
        rfl
      · rw [sentLength]
        simp [frontLength, middleLength]
        omega
    exact List.head_eq_of_cons_eq field
  rw [espDecapsulate, front18, middle33, payloadField, nextHeader,
    lengthField, UInt16.add_sub_cancel]
  exact pieces.symm

/-! ## What can be seen of an encapsulated frame -/

theorem getElem?_espEncapsulate (long : 54 ≤ frame.data.length) {index : Nat}
    (kept : index < 18 ∨ 21 ≤ index ∧ index < 54) :
    (espEncapsulate spi frame).data[index]? = frame.data[index]? := by
  have frontLength : (frame.data.take 18).length = 18 := by
    rw [List.length_take]
    omega
  have middleLength : ((frame.data.drop 21).take 33).length = 33 := by
    rw [List.length_take, List.length_drop]
    omega
  rw [espEncapsulate]
  rcases kept with front | ⟨behind, before⟩
  · simp only [List.append_assoc]
    rw [List.getElem?_append_left (by omega), List.getElem?_take_of_lt front]
  have headLength :
      (frame.data.take 18 ++
        beBytes 2 (ipv6PayloadLen frame + espOverhead).toNat ++ [ipprotoEsp]).length = 21 := by
    simp [frontLength]
  rw [List.append_assoc (frame.data.take 18 ++ _ ++ [ipprotoEsp] ++ _),
    List.append_assoc (frame.data.take 18 ++ _ ++ [ipprotoEsp] ++ _),
    List.append_assoc (frame.data.take 18 ++ _ ++ [ipprotoEsp]),
    List.getElem?_append_right (by omega), headLength, List.getElem?_append_left (by omega),
    List.getElem?_take_of_lt (by omega), List.getElem?_drop]
  congr 1
  omega

theorem bytesAt_espEncapsulate (long : 54 ≤ frame.data.length) {offset count : Nat}
    (kept : offset + count ≤ 18 ∨ 21 ≤ offset ∧ offset + count ≤ 54) :
    (espEncapsulate spi frame).bytesAt offset count = frame.bytesAt offset count := by
  apply Frame.bytesAt_congr (by omega)
  intro index behind before
  exact getElem?_espEncapsulate long (by omega)

theorem espSpi_espEncapsulate (long : 54 ≤ frame.data.length) :
    espSpi (espEncapsulate spi frame) = spi := by
  have field : (espEncapsulate spi frame).bytesAt 54 4 = beBytes 4 spi.toNat := by
    refine
      Frame.bytesAt_append
        (frame.data.take 18 ++ beBytes 2 (ipv6PayloadLen frame + espOverhead).toNat ++
          [ipprotoEsp] ++ (frame.data.drop 21).take 33)
        (beBytes 4 spi.toNat) _
        (by rw [espEncapsulate]; simp only [List.append_assoc]; rfl) ?_
        (length_beBytes 4 _)
    simp only [List.length_append, List.length_take, List.length_drop,
      length_beBytes, List.length_singleton]
    omega
  rw [espSpi, Frame.be32At, field, beNat_beBytes_of_lt (UInt32.toNat_lt spi)]
  exact UInt32.ofNat_toNat

theorem ipv6Proto_espEncapsulate (long : 54 ≤ frame.data.length) :
    ipv6Proto (espEncapsulate spi frame) = ipprotoEsp := by
  have field : (espEncapsulate spi frame).bytesAt 20 1 = [ipprotoEsp] := by
    refine
      Frame.bytesAt_append
        (frame.data.take 18 ++ beBytes 2 (ipv6PayloadLen frame + espOverhead).toNat)
        [ipprotoEsp] _
        (by rw [espEncapsulate]; simp only [List.append_assoc]; rfl) ?_ rfl
    simp only [List.length_append, List.length_take, length_beBytes]
    omega
  exact List.head_eq_of_cons_eq field

theorem length_espEncapsulate (long : 54 ≤ frame.data.length) :
    (espEncapsulate spi frame).data.length = frame.data.length + 10 := by
  rw [espEncapsulate]
  simp only [List.length_append, List.length_take, List.length_drop,
    length_beBytes, List.length_cons, List.length_nil]
  omega

end Inverse

end DpService.Nodes

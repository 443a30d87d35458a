import Mathlib.Data.UInt
import Mathlib.Data.List.Pairwise
import Mathlib.Data.List.TakeWhile
import DpService.Foundations.Machine

/-!
# The receive node

A service that takes over from another one starts to process packets at some
moment and flushes what the receive queues still hold from before.  Each
receive node flushes burst after burst until it finds a packet that is not
older than that moment.
-/

namespace DpService.Nodes

open Foundations

variable {node : RxNode} {call : RxCall}

/-! ## The node -/

/-- A received mbuf and the timestamp that the NIC has put on it. -/
structure RxPacket where
  mbuf : Nat
  timestamp : UInt64
  deriving DecidableEq, Repr

/-- What `rte_eth_read_clock` is asked of: whether a port is allocated, and
the clock if it can be read. -/
structure PortClock where
  allocated : Bool
  clock : Option UInt64
  deriving DecidableEq, Repr

/-- `get_current_timestamp`: the clock of the first port that has one. -/
def getCurrentTimestamp (rxTimestampOffset : Int) (ports : List PortClock) :
    UInt64 :=
  if rxTimestampOffset ≤ 0 then 0
  else
    (ports.findSome? fun port =>
      if port.allocated then port.clock else none).getD 0

/-- The context of a receive node with the globals it reads, and what has
become of the packets so far.  A packet handed to `cls` is noted together with
whether its mark has been initialised. -/
structure RxNode where
  standingBy : Bool
  flushTimestamp : UInt64
  flushOldPackets : Bool
  received : List RxPacket
  freed : List RxPacket
  handed : List (RxPacket × Bool)
  deriving DecidableEq, Repr

def RxNode.initial : RxNode where
  standingBy := true
  flushTimestamp := 0
  flushOldPackets := false
  received := []
  freed := []
  handed := []

def rxNodeStartProcessing (rxTimestampOffset : Int) (ports : List PortClock)
    (node : RxNode) : RxNode :=
  let timestamp := getCurrentTimestamp rxTimestampOffset ports
  { node with
    flushTimestamp := timestamp
    flushOldPackets := node.flushOldPackets || decide (0 < timestamp)
    standingBy := false }

/-- One call of the node: whether its port is allocated, and the burst that
`rte_eth_rx_burst` has ready. -/
structure RxCall where
  allocated : Bool
  burst : List RxPacket
  deriving DecidableEq, Repr

def rxFindOldPackets (objs : List RxPacket) (timestamp : UInt64) : Nat :=
  (objs.takeWhile fun packet => packet.timestamp < timestamp).length

/-- The end of `rx_node_process`.  The marks are initialised from the `old`-th
pointer on, and `rte_node_next_stream_move` forwards the first `node->idx`
pointers of the array of the node. -/
def RxNode.forward (node : RxNode) (objs : List RxPacket) (old : Nat) :
    RxNode :=
  let idx := objs.length - old
  let marked := (objs.take old).map (·, false) ++ (objs.drop old).map (·, true)
  { node with handed := node.handed ++ marked.take idx }

def rxNodeProcess (node : RxNode) (call : RxCall) : RxNode :=
  if !call.allocated then node
  else if node.standingBy then node
  else
    let objs := call.burst
    let node := { node with received := node.received ++ objs }
    if objs.length = 0 then node
    else if node.flushOldPackets then
      let old := rxFindOldPackets objs node.flushTimestamp
      if 0 < old then
        let node := { node with freed := node.freed ++ objs.take old }
        if old = objs.length then node
        else { node with flushOldPackets := false }.forward objs old
      else { node with flushOldPackets := false }.forward objs 0
    else node.forward objs 0

def rxMachine (rxTimestampOffset : Int) (ports : List PortClock) : Machine RxNode RxCall where
  init := rxNodeStartProcessing rxTimestampOffset ports .initial
  step := rxNodeProcess

/-! ## Bursts -/

section

variable (timestamp : UInt64)

def IsOld (packet : RxPacket) : Prop :=
  packet.timestamp < timestamp

instance (packet : RxPacket) : Decidable (IsOld timestamp packet) :=
  inferInstanceAs (Decidable (_ < _))

def Ordered (packets : List RxPacket) : Prop :=
  packets.Pairwise fun earlier later => earlier.timestamp ≤ later.timestamp

/-- A burst with packets from before and from after the start. -/
def Mixed (burst : List RxPacket) : Prop :=
  (∃ packet ∈ burst, IsOld timestamp packet) ∧ ∃ packet ∈ burst, ¬IsOld timestamp packet

/-- Everything old is freed, and everything else is handed on with a mark. -/
structure Flushed (node : RxNode) : Prop where
  freed : node.freed = node.received.filter (IsOld timestamp ·)
  handed : node.handed = (node.received.filter fun packet => ¬IsOld timestamp packet).map (·, true)

def receivedBy (calls : List RxCall) : List RxPacket :=
  calls.flatMap fun call => if call.allocated then call.burst else []

variable {timestamp : UInt64}

/-- A node that has treated everything so far as it should: it flushes as long
as it has seen nothing but old packets. -/
structure Progress (timestamp : UInt64) (node : RxNode) : Prop where
  running : node.standingBy = false
  started : node.flushTimestamp = timestamp
  flushed : Flushed timestamp node
  flushing : node.flushOldPackets = true → ∀ packet ∈ node.received, IsOld timestamp packet
  settled :
    node.flushOldPackets = false → timestamp = 0 ∨ ∃ packet ∈ node.received, ¬IsOld timestamp packet

theorem progress_start (rxTimestampOffset : Int) (ports : List PortClock) :
    Progress (getCurrentTimestamp rxTimestampOffset ports)
      (rxMachine rxTimestampOffset ports).init where
  running := rfl
  started := rfl
  flushed := ⟨rfl, rfl⟩
  flushing := by simp [rxMachine, rxNodeStartProcessing, RxNode.initial]
  settled := by
    intro settled
    have notLater : ¬0 < getCurrentTimestamp rxTimestampOffset ports := by
      simpa [rxMachine, rxNodeStartProcessing, RxNode.initial] using settled
    exact Or.inl (UInt64.le_zero_iff.mp (UInt64.not_lt.mp notLater))

theorem rxFindOldPackets_of_all {objs : List RxPacket}
    (old : ∀ packet ∈ objs, IsOld timestamp packet) :
    rxFindOldPackets objs timestamp = objs.length := by
  rw [rxFindOldPackets, List.takeWhile_eq_self_iff.mpr]
  simpa [IsOld] using old

theorem rxFindOldPackets_cons_of_not {first : RxPacket} {rest : List RxPacket}
    (new : ¬IsOld timestamp first) :
    rxFindOldPackets (first :: rest) timestamp = 0 := by
  have stops : decide (first.timestamp < timestamp) = false := by
    simpa [IsOld] using new
  simp [rxFindOldPackets, stops]

theorem RxNode.forward_zero (node : RxNode) (objs : List RxPacket) : node.forward objs 0 =
      { node with handed := node.handed ++ objs.map (·, true) } := by
  simp [RxNode.forward]

theorem not_isOld_of_ordered {received burst : List RxPacket}
    (ordered : Ordered (received ++ burst))
    (seen : timestamp = 0 ∨ ∃ packet ∈ received, ¬IsOld timestamp packet) :
    ∀ packet ∈ burst, ¬IsOld timestamp packet := by
  intro packet listed
  rcases seen with rfl | ⟨earlier, before, new⟩
  · simp [IsOld]
  have later : earlier.timestamp ≤ packet.timestamp :=
    (List.pairwise_append.mp ordered).2.2 earlier before packet listed
  rw [IsOld, UInt64.not_lt] at new ⊢
  exact UInt64.le_trans new later

theorem rxNodeProcess_received (progress : Progress timestamp node)
    (allocated : call.allocated = true) (nonempty : call.burst ≠ []) :
    rxNodeProcess node call =
      let received := { node with received := node.received ++ call.burst }
      if node.flushOldPackets then
        let old := rxFindOldPackets call.burst timestamp
        if 0 < old then
          if old = call.burst.length then
            { received with freed := node.freed ++ call.burst.take old }
          else
            { received with
              freed := node.freed ++ call.burst.take old
              flushOldPackets := false }.forward call.burst old
        else { received with flushOldPackets := false }.forward call.burst 0
      else received.forward call.burst 0 := by
  simp [rxNodeProcess, allocated, progress.running, progress.started, nonempty]

theorem Progress.process_old (progress : Progress timestamp node)
    (allocated : call.allocated = true) (nonempty : call.burst ≠ [])
    (ordered : Ordered (node.received ++ call.burst))
    (old : ∀ packet ∈ call.burst, IsOld timestamp packet) :
    Progress timestamp (rxNodeProcess node call) := by
  have flushing : node.flushOldPackets = true := by
    cases settled : node.flushOldPackets with
    | true => rfl
    | false =>
      obtain ⟨packet, listed⟩ := List.exists_mem_of_ne_nil _ nonempty
      exact absurd (old packet listed)
        (not_isOld_of_ordered ordered (progress.settled settled) packet listed)
  have positive : 0 < call.burst.length := List.length_pos_of_ne_nil nonempty
  have kept : call.burst.filter (fun packet => IsOld timestamp packet) = call.burst := by
    simpa [List.filter_eq_self] using old
  have dropped : call.burst.filter (fun packet => ¬IsOld timestamp packet) = [] := by
    simpa [List.filter_eq_nil_iff] using old
  rw [rxNodeProcess_received progress allocated nonempty]
  simp only [flushing, if_true, rxFindOldPackets_of_all old, positive, List.take_length]
  refine ⟨progress.running, progress.started, ⟨?_, ?_⟩, ?_, nofun⟩
  · rw [List.filter_append, kept, progress.flushed.freed]
  · rw [List.filter_append, dropped, List.append_nil, progress.flushed.handed]
  intro _ packet listed
  rcases List.mem_append.mp listed with before | current
  · exact progress.flushing flushing packet before
  · exact old packet current

theorem Progress.process_new (progress : Progress timestamp node)
    (allocated : call.allocated = true) (nonempty : call.burst ≠ [])
    (new : ∀ packet ∈ call.burst, ¬IsOld timestamp packet) :
    Progress timestamp (rxNodeProcess node call) := by
  obtain ⟨first, rest, burst⟩ := List.exists_cons_of_ne_nil nonempty
  have none : rxFindOldPackets call.burst timestamp = 0 := by
    rw [burst]
    exact rxFindOldPackets_cons_of_not (new first (by simp [burst]))
  have processed : rxNodeProcess node call =
        { node with
          received := node.received ++ call.burst
          flushOldPackets := false
          handed := node.handed ++ call.burst.map (·, true) } := by
    rw [rxNodeProcess_received progress allocated nonempty]
    cases flushing : node.flushOldPackets with
    | true => simp [none, RxNode.forward_zero]
    | false => simp [← flushing, RxNode.forward_zero]
  have kept : call.burst.filter (fun packet => ¬IsOld timestamp packet) = call.burst := by
    simpa [List.filter_eq_self] using new
  have dropped : call.burst.filter (fun packet => IsOld timestamp packet) = [] := by
    simpa [List.filter_eq_nil_iff] using new
  rw [processed]
  refine ⟨progress.running, progress.started, ⟨?_, ?_⟩, nofun, ?_⟩
  · rw [List.filter_append, dropped, List.append_nil, progress.flushed.freed]
  · rw [List.filter_append, kept, List.map_append, progress.flushed.handed]
  · intro _
    exact Or.inr ⟨first, by simp [burst], new first (by simp [burst])⟩

theorem Progress.process_mixed (progress : Progress timestamp node)
    (allocated : call.allocated = true) (ordered : Ordered (node.received ++ call.burst))
    (mixed : Mixed timestamp call.burst) :
    ∃ packet ∈ call.burst, (packet, false) ∈ (rxNodeProcess node call).handed := by
  obtain ⟨⟨older, olderIn, isOld⟩, newer, newerIn, isNew⟩ := mixed
  have nonempty : call.burst ≠ [] := List.ne_nil_of_mem olderIn
  have flushing : node.flushOldPackets = true := by
    cases settled : node.flushOldPackets with
    | true => rfl
    | false =>
      exact absurd isOld (not_isOld_of_ordered ordered (progress.settled settled) older olderIn)
  obtain ⟨first, rest, burst⟩ := List.exists_cons_of_ne_nil nonempty
  have firstOld : IsOld timestamp first := by
    have burstOrdered : Ordered call.burst := (List.pairwise_append.mp ordered).2.1
    rw [burst] at burstOrdered olderIn
    rcases List.mem_cons.mp olderIn with rfl | later
    · exact isOld
    · exact
        UInt64.lt_of_le_of_lt (List.rel_of_pairwise_cons burstOrdered later)
          (show older.timestamp < timestamp from isOld)
  have positive : 0 < rxFindOldPackets call.burst timestamp := by
    have goes : decide (first.timestamp < timestamp) = true := by
      simpa [IsOld] using firstOld
    simp [rxFindOldPackets, burst, goes]
  have below : rxFindOldPackets call.burst timestamp < call.burst.length := by
    apply lt_of_le_of_ne
    · exact (List.takeWhile_prefix _).length_le
    intro whole
    have all :=
      List.takeWhile_eq_self_iff.mp ((List.takeWhile_prefix _).eq_of_length whole) newer newerIn
    exact isNew (by simpa [IsOld] using all)
  rw [rxNodeProcess_received progress allocated nonempty]
  simp only [flushing, if_true, positive, below.ne, if_false]
  refine ⟨first, by simp [burst], ?_⟩
  -- The first pointer of the array is among those that are moved.
  obtain ⟨before, split⟩ : ∃ before, rxFindOldPackets call.burst timestamp = before + 1 :=
    ⟨_, (Nat.succ_pred_eq_of_pos positive).symm⟩
  obtain ⟨moved, room⟩ : ∃ moved, call.burst.length - rxFindOldPackets call.burst timestamp =
          moved + 1 :=
    ⟨_, (Nat.succ_pred_eq_of_pos (Nat.sub_pos_of_lt below)).symm⟩
  rw [RxNode.forward]
  apply List.mem_append_right
  rw [room, split, burst]
  simp

theorem rxNodeProcess_handed_subset (node : RxNode) (call : RxCall) :
    node.handed ⊆ (rxNodeProcess node call).handed := by
  intro entry listed
  unfold rxNodeProcess
  dsimp only
  split_ifs <;> simp [RxNode.forward, listed]

theorem handed_subset_runFrom (rxTimestampOffset : Int) (ports : List PortClock)
    (node : RxNode) (calls : List RxCall) :
    node.handed ⊆ ((rxMachine rxTimestampOffset ports).runFrom node calls).handed := by
  induction calls generalizing node with
  | nil => exact List.Subset.refl _
  | cons call calls ih =>
    exact List.Subset.trans (rxNodeProcess_handed_subset node call) (ih _)

theorem receivedBy_cons (call : RxCall) (calls : List RxCall) : receivedBy (call :: calls) =
      (if call.allocated then call.burst else []) ++ receivedBy calls :=
  rfl

theorem rxNodeProcess_nothing (nothing : call.allocated = false ∨ call.burst = []) :
    rxNodeProcess node call = node := by
  rcases nothing with unallocated | empty
  · simp [rxNodeProcess, unallocated]
  · simp only [rxNodeProcess, empty, List.append_nil, List.length_nil, if_true, ite_self]

theorem rxNodeProcess_received_eq (progress : Progress timestamp node) :
    (rxNodeProcess node call).received =
      node.received ++ if call.allocated then call.burst else [] := by
  by_cases nothing : call.allocated = false ∨ call.burst = []
  · rw [rxNodeProcess_nothing nothing]
    rcases nothing with unallocated | empty
    · simp [unallocated]
    · simp [empty]
  obtain ⟨allocated, nonempty⟩ := not_or.mp nothing
  rw [Bool.not_eq_false] at allocated
  rw [rxNodeProcess_received progress allocated nonempty, if_pos allocated]
  dsimp only
  split_ifs <;> rfl

theorem Progress.process (progress : Progress timestamp node)
    (ordered : Ordered (node.received ++ call.burst)) (unmixed : ¬Mixed timestamp call.burst)
    (allocated : call.allocated = true) (nonempty : call.burst ≠ []) :
    Progress timestamp (rxNodeProcess node call) := by
  by_cases old : ∃ packet ∈ call.burst, IsOld timestamp packet
  · apply progress.process_old allocated nonempty ordered
    intro packet listed
    by_contra new
    exact unmixed ⟨old, packet, listed, new⟩
  · apply progress.process_new allocated nonempty
    intro packet listed isOld
    exact old ⟨packet, listed, isOld⟩

theorem runFrom_flushed_iff (rxTimestampOffset : Int) (ports : List PortClock)
    (progress : Progress timestamp node) (calls : List RxCall)
    (ordered : Ordered (node.received ++ receivedBy calls)) :
    Flushed timestamp ((rxMachine rxTimestampOffset ports).runFrom node calls) ↔
      ∀ call ∈ calls, call.allocated = true → ¬Mixed timestamp call.burst := by
  induction calls generalizing node with
  | nil => simp [progress.flushed]
  | cons call calls ih =>
    have rest : Ordered ((rxNodeProcess node call).received ++ receivedBy calls) := by
      rw [rxNodeProcess_received_eq progress, List.append_assoc]
      exact ordered
    rw [Machine.runFrom_cons, List.forall_mem_cons]
    by_cases nothing : call.allocated = false ∨ call.burst = []
    · have unmixed : call.allocated = true → ¬Mixed timestamp call.burst := by
        rintro allocated ⟨⟨packet, listed, -⟩, -⟩
        rcases nothing with unallocated | empty
        · rw [unallocated] at allocated
          cases allocated
        · simp [empty] at listed
      have next := ih progress (by
        rwa [rxNodeProcess_nothing nothing] at rest)
      change Flushed timestamp
        ((rxMachine rxTimestampOffset ports).runFrom (rxNodeProcess node call) calls) ↔ _
      rw [rxNodeProcess_nothing nothing, next]
      exact ⟨fun later => ⟨unmixed, later⟩, fun both => both.2⟩
    obtain ⟨allocated, nonempty⟩ := not_or.mp nothing
    rw [Bool.not_eq_false] at allocated
    have burst : Ordered (node.received ++ call.burst) := by
      rw [receivedBy_cons, if_pos allocated, ← List.append_assoc] at ordered
      exact (List.pairwise_append.mp ordered).1
    by_cases mixed : Mixed timestamp call.burst
    · obtain ⟨packet, -, unmarked⟩ :=
        progress.process_mixed allocated burst mixed
      have kept :=
        handed_subset_runFrom rxTimestampOffset ports (rxNodeProcess node call) calls unmarked
      constructor
      · intro flushed
        have marked := flushed.handed
        change ((rxMachine rxTimestampOffset ports).runFrom
          (rxNodeProcess node call) calls).handed = _ at marked
        rw [marked] at kept
        simp at kept
      · intro unmixed
        exact absurd mixed (unmixed.1 allocated)
    · have next := ih (progress.process burst mixed allocated nonempty) rest
      exact next.trans ⟨fun later => ⟨fun _ => mixed, later⟩, fun both => both.2⟩

end

/-- From the start of processing on, a node frees exactly the old packets and
hands the others to `cls` in order and with their marks, exactly when no burst
it receives is mixed. -/
theorem rxMachine_flushed_iff (rxTimestampOffset : Int) (ports : List PortClock)
    (calls : List RxCall) (ordered : Ordered (receivedBy calls)) :
    Flushed (getCurrentTimestamp rxTimestampOffset ports)
        ((rxMachine rxTimestampOffset ports).run calls) ↔
      ∀ call ∈ calls, call.allocated = true →
        ¬Mixed (getCurrentTimestamp rxTimestampOffset ports) call.burst :=
  runFrom_flushed_iff rxTimestampOffset ports (progress_start rxTimestampOffset ports) calls ordered

def rxBursts (bursts : List (List RxPacket)) : List RxCall :=
  bursts.map fun burst => ⟨true, burst⟩

theorem separateBursts_flushed :
    Flushed 100
      ((rxMachine 8 [⟨true, some 100⟩]).run
        (rxBursts [[⟨1, 90⟩, ⟨2, 95⟩], [⟨3, 100⟩, ⟨4, 110⟩]])) := by
  refine
    (rxMachine_flushed_iff 8 [⟨true, some 100⟩]
      (rxBursts [[⟨1, 90⟩, ⟨2, 95⟩], [⟨3, 100⟩, ⟨4, 110⟩]]) ?_).mpr ?_
  · unfold Ordered
    decide +kernel
  have unmixed : ∀ call ∈ rxBursts [[⟨1, 90⟩, ⟨2, 95⟩], [⟨3, 100⟩, ⟨4, 110⟩]],
        call.allocated = true →
          ¬((∃ packet ∈ call.burst, packet.timestamp < 100) ∧
            ∃ packet ∈ call.burst, ¬packet.timestamp < 100) := by
    decide +kernel
  exact unmixed

/-- The same packets in one burst: the two freed mbufs are handed to `cls`, and
the two new packets are lost. -/
theorem mixedBurst_hands_freed :
    ((rxMachine 8 [⟨true, some 100⟩]).run
        (rxBursts [[⟨1, 90⟩, ⟨2, 95⟩, ⟨3, 100⟩, ⟨4, 110⟩]])).freed =
      [⟨1, 90⟩, ⟨2, 95⟩] ∧
    ((rxMachine 8 [⟨true, some 100⟩]).run
        (rxBursts [[⟨1, 90⟩, ⟨2, 95⟩, ⟨3, 100⟩, ⟨4, 110⟩]])).handed =
      [(⟨1, 90⟩, false), (⟨2, 95⟩, false)] := by
  decide +kernel

end DpService.Nodes

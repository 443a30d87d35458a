import Mathlib.Logic.Function.Basic
import Mathlib.Data.List.Induction
import Mathlib.Data.List.TakeDrop

/-!
# Forwarding of a burst

A node hands the packets of its burst to the streams of its edges.  When most
of them are expected to take one edge, the stream of that edge is asked for
room first and whole runs of packets are copied into it.
-/

namespace DpService.Nodes

variable {Pkt : Type}

abbrev Edge := UInt16

abbrev Streams (Pkt : Type) := Edge → List Pkt

def streamAppend (streams : Streams Pkt) (edge : Edge) (pkts : List Pkt) : Streams Pkt :=
  Function.update streams edge (streams edge ++ pkts)

def rteNodeEnqueueX1 (streams : Streams Pkt) (next : Edge) (pkt : Pkt) : Streams Pkt :=
  streamAppend streams next [pkt]

/-- There is no result if the copy leaves one of the two arrays. -/
def rteMemcpy (dst : List Pkt) (offset : Nat) (src : List Pkt) (start count : Nat) :
    Option (List Pkt) :=
  if offset + count ≤ dst.length ∧ start + count ≤ src.length then
    some (dst.take offset ++ (src.drop start).take count ++ dst.drop (offset + count))
  else none

/-- The variables of the loop.  `room` is what `rte_node_next_stream_get`
returned, and the two pointers are offsets into `objs` and `room`.  Nothing
here passes `nb_objs`, so that the 16 bits of the counters suffice. -/
structure Speculation (Pkt : Type) where
  fromObjs : Nat := 0
  toNext : Nat := 0
  lastSpec : Nat := 0
  held : Nat := 0
  room : List Pkt
  streams : Streams Pkt

def speculate (objs : List Pkt) (speculated : Edge) (s : Speculation Pkt) (next : Edge) :
    Option (Speculation Pkt) :=
  if next ≠ speculated then do
    let room ← rteMemcpy s.room s.toNext objs s.fromObjs s.lastSpec
    let first ← objs[s.fromObjs + s.lastSpec]?
    some
      { fromObjs := s.fromObjs + s.lastSpec + 1
        toNext := s.toNext + s.lastSpec
        held := s.held + s.lastSpec
        lastSpec := 0
        room
        streams := rteNodeEnqueueX1 s.streams next first }
  else some { s with lastSpec := s.lastSpec + 1 }

def dpGraphNoSpeculatedNode : Int := -1

/-- `burst` is what the node was given, with the answers of `get_next_index`. -/
def dpForeachGraphPacket (speculatedNode : Int) (room : List Pkt) (burst : List (Pkt × Edge))
    (streams : Streams Pkt) : Option (Streams Pkt) :=
  if 0 ≤ speculatedNode then do
    let speculated : Edge := speculatedNode.toNat.toUInt16
    let objs := burst.map (·.1)
    let s ← (burst.map (·.2)).foldlM (speculate objs speculated) { room, streams }
    if s.lastSpec = objs.length then
      -- rte_node_next_stream_move takes the objects of the node itself
      some (streamAppend s.streams speculated objs)
    else do
      let room ← rteMemcpy s.room s.toNext objs s.fromObjs s.lastSpec
      some (streamAppend s.streams speculated (room.take (s.held + s.lastSpec)))
  else
    some (burst.foldl (fun streams (pkt, next) => rteNodeEnqueueX1 streams next pkt) streams)

def chosenFor (edge : Edge) (burst : List (Pkt × Edge)) : List Pkt :=
  (burst.filter (·.2 = edge)).map (·.1)

/-- Every packet on the edge chosen for it, in the order of the burst. -/
def delivered (burst : List (Pkt × Edge)) (streams : Streams Pkt) : Streams Pkt :=
  fun edge => streams edge ++ chosenFor edge burst

theorem chosenFor_append (edge : Edge) (first second : List (Pkt × Edge)) :
    chosenFor edge (first ++ second) = chosenFor edge first ++ chosenFor edge second := by
  simp [chosenFor]

theorem chosenFor_single (edge : Edge) (pkt : Pkt) (next : Edge) :
    chosenFor edge [(pkt, next)] = if next = edge then [pkt] else [] := by
  by_cases same : next = edge <;> simp [chosenFor, same]

@[simp]
theorem delivered_nil (streams : Streams Pkt) : delivered [] streams = streams := by
  simp [delivered, chosenFor, funext_iff]

theorem delivered_snoc (burst : List (Pkt × Edge)) (streams : Streams Pkt) (pkt : Pkt)
    (next : Edge) :
    delivered (burst ++ [(pkt, next)]) streams =
      rteNodeEnqueueX1 (delivered burst streams) next pkt := by
  funext edge
  unfold rteNodeEnqueueX1 streamAppend delivered
  rw [chosenFor_append, chosenFor_single, Function.update_apply]
  by_cases same : edge = next
  · simp [same]
  · simp [same, Ne.symm same]

theorem enqueued_eq_delivered (burst : List (Pkt × Edge)) (streams : Streams Pkt) :
    burst.foldl (fun streams (pkt, next) => rteNodeEnqueueX1 streams next pkt) streams =
      delivered burst streams := by
  induction burst using List.reverseRecOn with
  | nil => simp
  | append_singleton burst last ih => rw [List.foldl_append, ih, delivered_snoc]; rfl

/-! ## The loop -/

/-- After the packets `done`: those of them for the speculated edge are in the
room, save the last `last_spec` packets, which wait to be copied, and the
others are on their edges. -/
structure Steered (objs : List Pkt) (speculated : Edge) (room : List Pkt) (streams : Streams Pkt)
    (done : List (Pkt × Edge)) (s : Speculation Pkt) : Prop where
  position : s.fromObjs + s.lastSpec = done.length
  offset : s.toNext = s.held
  behind : s.held ≤ s.fromObjs
  reserved : s.room.length = room.length
  copied : s.room.take s.held ++ (objs.drop s.fromObjs).take s.lastSpec =
    chosenFor speculated done
  enqueued : s.streams = Function.update (delivered done streams) speculated (streams speculated)

section Loop

variable {objs room : List Pkt} {speculated : Edge} {streams : Streams Pkt}
  {done : List (Pkt × Edge)} {s : Speculation Pkt}

/-- Copying the packets that wait. -/
theorem Steered.copies (decided : Steered objs speculated room streams done s)
    (within : done.length ≤ objs.length) (enough : objs.length ≤ room.length) :
    ∃ filled, rteMemcpy s.room s.toNext objs s.fromObjs s.lastSpec = some filled ∧
      filled.length = room.length ∧
      filled.take (s.held + s.lastSpec) = chosenFor speculated done := by
  obtain ⟨position, offset, behind, reserved, copied, -⟩ := decided
  have waiting : ((objs.drop s.fromObjs).take s.lastSpec).length = s.lastSpec := by
    rw [List.length_take, List.length_drop]
    omega
  have front : (s.room.take s.held).length = s.held := by
    rw [List.length_take]
    omega
  refine ⟨_, if_pos ⟨by omega, by omega⟩, ?_, ?_⟩
  · rw [List.length_append, List.length_append, waiting, offset, front, List.length_drop]
    omega
  · rw [offset, copied, ← copied, List.take_left' (by rw [List.length_append, front, waiting])]

theorem Steered.speculate {pkt : Pkt} {next : Edge}
    (decided : Steered objs speculated room streams done s)
    (here : objs[done.length]? = some pkt) (enough : objs.length ≤ room.length) :
    ∃ after, Nodes.speculate objs speculated s next = some after ∧
      Steered objs speculated room streams (done ++ [(pkt, next)]) after := by
  have within := (List.getElem?_eq_some_iff.mp here).1
  have ⟨position, offset, behind, reserved, copied, enqueued⟩ := decided
  unfold Nodes.speculate
  by_cases same : next = speculated
  · rw [if_neg (not_not.mpr same)]
    refine ⟨_, rfl, ?_, offset, behind, reserved, ?_, ?_⟩
    · simp only [List.length_append, List.length_singleton]
      omega
    · have last : (objs.drop s.fromObjs)[s.lastSpec]? = some pkt := by
        rw [List.getElem?_drop, position, here]
      rw [List.take_add_one, last, ← List.append_assoc, copied, chosenFor_append,
        chosenFor_single, if_pos same]
      rfl
    · rw [enqueued, delivered_snoc, rteNodeEnqueueX1, streamAppend, same, Function.update_idem]
  obtain ⟨filled, copy, length, taken⟩ := decided.copies (Nat.le_of_lt within) enough
  rw [if_pos same, copy, position, here]
  refine ⟨_, rfl, ?_, ?_, ?_, length, ?_, ?_⟩
  · simp
  · rw [offset]
  · change s.held + s.lastSpec ≤ done.length + 1
    omega
  · rw [chosenFor_append, chosenFor_single, if_neg same, ← taken]
    simp
  · rw [enqueued, delivered_snoc, rteNodeEnqueueX1, rteNodeEnqueueX1, streamAppend,
      streamAppend, Function.update_of_ne same, Function.update_comm (Ne.symm same)]

theorem Steered.run (enough : objs.length ≤ room.length) (rest : List (Pkt × Edge))
    (shape : objs = (done ++ rest).map (·.1))
    (decided : Steered objs speculated room streams done s) :
    ∃ after, (rest.map (·.2)).foldlM (Nodes.speculate objs speculated) s = some after ∧
      Steered objs speculated room streams (done ++ rest) after := by
  -- the packets already decided grow by one with each turn of the loop
  induction rest generalizing done s with
  | nil => exact ⟨s, rfl, by rwa [List.append_nil]⟩
  | cons first rest ih =>
    have here : objs[done.length]? = some first.1 := by simp [shape]
    obtain ⟨next, step, kept⟩ := @Steered.speculate Pkt _ _ _ _ _ _ _ first.2 decided here enough
    obtain ⟨after, run, final⟩ := ih (by simpa using shape) kept
    exact ⟨after, by simpa [step] using run, by simpa using final⟩

end Loop

/-- Speculating or not, every packet is delivered once, to the edge chosen for
it and behind the packets of that edge that came before it. -/
theorem dpForeachGraphPacket_delivers (speculatedNode : Int) (room : List Pkt)
    (burst : List (Pkt × Edge)) (streams : Streams Pkt) (reserved : burst.length ≤ room.length) :
    dpForeachGraphPacket speculatedNode room burst streams = some (delivered burst streams) ∧
      dpForeachGraphPacket dpGraphNoSpeculatedNode room burst streams =
        some (delivered burst streams) := by
  refine ⟨?_, congrArg some (enqueued_eq_delivered burst streams)⟩
  unfold dpForeachGraphPacket
  by_cases valid : 0 ≤ speculatedNode
  · rw [if_pos valid]
    generalize speculatedNode.toNat.toUInt16 = speculated
    have start : Steered (burst.map (·.1)) speculated room streams [] { room, streams } :=
      ⟨rfl, rfl, Nat.le_refl 0, rfl, rfl, by simp⟩
    have enough : (burst.map (·.1)).length ≤ room.length := by simpa using reserved
    obtain ⟨s, run, decided⟩ := start.run enough burst rfl
    have ⟨position, _, behind, _, copied, enqueued⟩ := decided
    have whole : streamAppend s.streams speculated (chosenFor speculated burst) =
        delivered burst streams := by
      rw [enqueued, streamAppend, Function.update_idem, Function.update_self]
      exact Function.update_eq_self _ _
    simp only [run, Option.bind_eq_bind, Option.bind_some]
    by_cases all : s.lastSpec = (burst.map (·.1)).length
    · have unmoved : s.fromObjs = 0 ∧ s.held = 0 := by
        simp only [List.nil_append, List.length_map] at position all
        omega
      rw [unmoved.1, unmoved.2, all] at copied
      rw [if_pos all, ← whole, ← List.nil_append burst, ← copied]
      simp only [List.take_zero, List.nil_append, List.drop_zero, List.take_length]
    · obtain ⟨filled, copy, -, taken⟩ := decided.copies (by simp) enough
      rw [if_neg all, copy, Option.bind_some, taken]
      exact congrArg some whole
  · rw [if_neg valid, enqueued_eq_delivered]

theorem dpForeachGraphPacket_delivers_four :
    dpForeachGraphPacket 1 [0, 0, 0, 0] [(10, 1), (11, 2), (12, 1), (13, 2)] (fun _ => []) =
      some (delivered [(10, 1), (11, 2), (12, 1), (13, 2)] fun _ => []) :=
  (dpForeachGraphPacket_delivers 1 [0, 0, 0, 0] _ _ (by decide)).1

end DpService.Nodes

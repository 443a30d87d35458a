import DpService.Nodes.Crypto
import Mathlib.Data.List.Perm.Subperm

/-!
# What a burst does to each of its packets

The arrays of the IPsec nodes are compacted and permuted independently of
each other, but every step changes only the packets it is about.  The result
is that each packet fares as if it were alone, up to whether its operation
was completed in time.
-/

namespace DpService.Nodes

open Foundations Packet Dataplane Ipsec

variable {group : IpsecGroup} {id : MbufId} {groups : List IpsecGroup}

/-- The documented behaviour of the device and of librte_ipsec.  A dequeue
returns operations out of the queue, at most as many as it was asked for, in
any order.  The grouping returns the packet of each completed operation once,
in a group of its association, and no empty groups.  A packet whose operation
has failed is never counted as processed. -/
structure CryptoEnv.Lawful (env : CryptoEnv) : Prop where
  accept_le : ∀ ops, env.accept ops ≤ ops.length
  dequeue_perm : ∀ round missing queue,
    ((env.dequeue round missing queue).1 ++ (env.dequeue round missing queue).2).Perm queue
  dequeue_le : ∀ round missing queue, (env.dequeue round missing queue).1.length ≤ missing
  group_perm : ∀ ops, ((env.group ops).flatMap IpsecGroup.packets).Perm (ops.map CryptoOp.mSrc)
  group_sa : ∀ ops, ∀ group ∈ env.group ops, ∀ id ∈ group.packets,
    ∃ op ∈ ops, op.mSrc = id ∧ op.sa = group.sa
  group_nonempty : ∀ ops, ∀ group ∈ env.group ops, group.packets ≠ []
  process_failed : ∀ id sa frame, (env.process id sa frame).2 = true →
    frame.olFlags &&& rxSecOffloadFailed = 0

variable {node : CryptoNode} {env : CryptoEnv} {heap : SaHeap}

theorem bulkAlloc_eq_some {pool allocated rest : List OpId} {count : Nat}
    (granted : bulkAlloc pool count = some (allocated, rest)) :
    count ≤ pool.length ∧ allocated.length = count ∧ allocated ++ rest = pool := by
  unfold bulkAlloc at granted
  split at granted
  · rename_i enough
    cases granted
    refine ⟨enough, ?_, List.take_append_drop count pool⟩
    rw [List.length_take]
    omega
  cases granted

theorem freeOps_perm (pool ops : List OpId) : (freeOps pool ops).Perm (ops ++ pool) := by
  induction ops generalizing pool with
  | nil => exact List.Perm.refl pool
  | cons op ops ih =>
    rw [freeOps]
    exact (ih (op :: pool)).trans List.perm_middle

/-! ## Preparing -/

def preparedPacket (node : CryptoNode) (env : CryptoEnv) (heap : SaHeap)
    (id : MbufId) (found : Option Handle) (m : Mbuf) : Mbuf :=
  match found with
  | none => m
  | some handle => (preparePacket node env heap id handle m).1

theorem preparePackets_mbufs (pairs : List (MbufId × Option Handle)) (mbufs : MbufId → Mbuf) :
    (preparePackets node env heap pairs mbufs).1 =
      updateCells Prod.fst
        (fun pair m => preparedPacket node env heap pair.1 pair.2 m)
        pairs mbufs := by
  induction pairs generalizing mbufs with
  | nil => rfl
  | cons pair pairs ih =>
    obtain ⟨id, found⟩ := pair
    cases found with
    | none =>
      rw [preparePackets, updateCells, ih]
      simp only [preparedPacket, Function.update_eq_self]
    | some handle => ?_
    rw [preparePackets, updateCells]
    split
    · rename_i result
      rw [ih]
      simp only [preparedPacket, result]
    · rename_i result
      simp only [ih, preparedPacket, result]

theorem preparePackets_sublist (pairs : List (MbufId × Option Handle)) (mbufs : MbufId → Mbuf) :
    ((preparePackets node env heap pairs mbufs).2.map Prod.fst).Sublist (pairs.map Prod.fst) := by
  induction pairs generalizing mbufs with
  | nil => exact List.Sublist.refl []
  | cons pair pairs ih =>
    obtain ⟨id, found⟩ := pair
    cases found with
    | none => exact (ih mbufs).cons id
    | some handle => ?_
    rw [preparePackets]
    split
    · exact (ih _).cons id
    · exact (ih _).cons_cons id

theorem mem_preparePackets_iff {pairs : List (MbufId × Option Handle)} {mbufs : MbufId → Mbuf}
    (distinct : (pairs.map Prod.fst).Nodup) (id : MbufId) (handle : Handle) :
    (id, handle) ∈ (preparePackets node env heap pairs mbufs).2 ↔ (id, some handle) ∈ pairs ∧
        (preparePacket node env heap id handle (mbufs id)).2 = true := by
  induction pairs generalizing mbufs with
  | nil => simp [preparePackets]
  | cons pair pairs ih =>
    rw [List.map_cons, List.nodup_cons] at distinct
    obtain ⟨first, found⟩ := pair
    obtain ⟨unseen, distinct⟩ := distinct
    -- a later job is for another packet, which the head did not touch
    have apart : (id, some handle) ∈ pairs → id ≠ first := by
      intro later same
      apply unseen
      exact List.mem_map.mpr ⟨(id, some handle), later, same⟩
    cases found with
    | none =>
      rw [preparePackets, ih distinct]
      simp
    | some other => ?_
    have rest :=
      @ih (Function.update mbufs first (preparePacket node env heap first other (mbufs first)).1)
        distinct
    rw [preparePackets]
    split
    · rename_i m result
      rw [result] at rest
      rw [rest, List.mem_cons, Prod.mk.injEq, Option.some_inj]
      constructor
      · intro job
        rw [Function.update_of_ne (apart job.1)] at job
        exact ⟨Or.inr job.1, job.2⟩
      intro job
      obtain ⟨⟨same, sameHandle⟩ | later, prepared⟩ := job
      · subst same sameHandle
        rw [result] at prepared
        cases prepared
      · rw [Function.update_of_ne (apart later)]
        exact ⟨later, prepared⟩
    rename_i m result
    rw [result] at rest
    simp only [List.mem_cons, rest, Prod.mk.injEq, Option.some_inj]
    constructor
    · intro job
      rcases job with ⟨same, sameHandle⟩ | job
      · subst same sameHandle
        rw [result]
        exact ⟨Or.inl ⟨rfl, rfl⟩, rfl⟩
      · rw [Function.update_of_ne (apart job.1)] at job
        exact ⟨Or.inr job.1, job.2⟩
    intro job
    obtain ⟨⟨same, sameHandle⟩ | later, prepared⟩ := job
    · exact Or.inl ⟨same, sameHandle⟩
    · rw [Function.update_of_ne (apart later)]
      exact Or.inr ⟨later, prepared⟩

/-! ## Completion -/

theorem dequeueRounds_perm (lawful : env.Lawful) (retries missing : Nat) (queue : List CryptoOp) :
    ((dequeueRounds env retries missing queue).1 ++
      (dequeueRounds env retries missing queue).2).Perm queue := by
  induction retries generalizing missing queue with
  | zero => exact List.Perm.refl queue
  | succ retries ih =>
    rw [dequeueRounds]
    split
    · exact List.Perm.refl queue
    have round := lawful.dequeue_perm retries missing queue
    have rounds :=
      ih (missing - (env.dequeue retries missing queue).1.length)
        (env.dequeue retries missing queue).2
    rw [List.append_assoc]
    exact (rounds.append_left _).trans round

theorem dpIpsecProcessBurst_subperm (lawful : env.Lawful) (ops : List CryptoOp) :
    (dpIpsecProcessBurst env ops []).1.Subperm ops := by
  have perm :=
    dequeueRounds_perm lawful dpIpsecDequeueRetries (env.accept ops)
      ([] ++ ops.take (env.accept ops))
  have front :
      (dpIpsecProcessBurst env ops []).1.Sublist
        ((dpIpsecProcessBurst env ops []).1 ++ (dpIpsecProcessBurst env ops []).2) :=
    List.sublist_append_left _ _
  have taken := (List.take_sublist (env.accept ops) ops).subperm
  exact (front.subperm.trans perm.subperm).trans taken

/-- A packet that `rte_ipsec_pkt_process` and the loops behind it have dealt
with. -/
def finishedPacket (node : CryptoNode) (env : CryptoEnv) (heap : SaHeap)
    (handle : Handle) (id : MbufId) (m : Mbuf) : Mbuf :=
  node.settle (processResult env heap handle id m).2 (processedPacket env heap handle id m)

theorem finishGroup_of_notMem {mbufs : MbufId → Mbuf} (others : id ∉ group.packets) :
    finishGroup node env heap group mbufs id = mbufs id := by
  have absent : ∀ keep : MbufId → Bool, id ∉ (group.packets.filter keep).map fun id => id := by
    intro keep kept
    rw [List.map_id', List.mem_filter] at kept
    exact others kept.1
  have notProcessed : id ∉ group.packets.map fun id => id := by
    rw [List.map_id']
    exact others
  rw [finishGroup, updateCells_of_notMem _ _ (absent _), updateCells_of_notMem _ _ (absent _),
    updateCells_of_notMem _ _ notProcessed]

theorem finishGroup_of_mem {mbufs : MbufId → Mbuf}
    (distinct : group.packets.Nodup) (member : id ∈ group.packets) :
    finishGroup node env heap group mbufs id =
      finishedPacket node env heap group.sa id (mbufs id) := by
  have all : (group.packets.map fun id => id).Nodup := by
    rw [List.map_id']
    exact distinct
  have part : ∀ keep : MbufId → Bool, ((group.packets.filter keep).map fun id => id).Nodup := by
    intro keep
    rw [List.map_id']
    exact distinct.filter keep
  have absent : ∀ keep : MbufId → Bool, keep id = false →
      id ∉ (group.packets.filter keep).map fun id => id := by
    intro keep dropped kept
    rw [List.map_id', List.mem_filter, dropped] at kept
    exact absurd kept.2 (by simp)
  have processed :
      updateCells (fun id => id) (processedPacket env heap group.sa) group.packets mbufs id =
        processedPacket env heap group.sa id (mbufs id) :=
    updateCells_of_mem (fun id => id) (processedPacket env heap group.sa) all member
  rw [finishGroup, finishedPacket]
  cases ok : (processResult env heap group.sa id (mbufs id)).2 with
  | true =>
    rw [updateCells_of_notMem _ _ (absent _ (by simp [ok]))]
    have chosen :
        id ∈ group.packets.filter fun id => (processResult env heap group.sa id (mbufs id)).2 :=
      List.mem_filter.mpr ⟨member, ok⟩
    exact
      (updateCells_of_mem (fun id => id) (fun _ m => node.settle true m)
        (part _) chosen).trans (congrArg (node.settle true) processed)
  | false =>
    have chosen :
        id ∈ group.packets.filter fun id => !(processResult env heap group.sa id (mbufs id)).2 :=
      List.mem_filter.mpr ⟨member, by simp [ok]⟩
    refine
      (updateCells_of_mem (fun id => id) (fun _ m => node.settle false m)
        (part _) chosen).trans (congrArg (node.settle false) ?_)
    exact (updateCells_of_notMem _ _ (absent _ ok)).trans processed

theorem finishGroups_of_notMem {mbufs : MbufId → Mbuf}
    (others : id ∉ groups.flatMap IpsecGroup.packets) :
    finishGroups node env heap groups mbufs id = mbufs id := by
  induction groups generalizing mbufs with
  | nil => rfl
  | cons group groups ih =>
    rw [List.flatMap_cons, List.mem_append, not_or] at others
    rw [finishGroups, ih others.2, finishGroup_of_notMem others.1]

theorem finishGroups_of_mem {mbufs : MbufId → Mbuf}
    (distinct : (groups.flatMap IpsecGroup.packets).Nodup) (held : group ∈ groups) (member : id ∈ group.packets) :
    finishGroups node env heap groups mbufs id =
      finishedPacket node env heap group.sa id (mbufs id) := by
  induction groups generalizing mbufs with
  | nil => cases held
  | cons first groups ih =>
    rw [List.flatMap_cons, List.nodup_append] at distinct
    obtain ⟨firstDistinct, restDistinct, apart⟩ := distinct
    rw [finishGroups]
    rcases List.mem_cons.mp held with same | later
    · subst same
      have elsewhere : id ∉ groups.flatMap IpsecGroup.packets := by
        intro again
        exact apart id member id again rfl
      rw [finishGroups_of_notMem elsewhere, finishGroup_of_mem firstDistinct member]
    have elsewhere : id ∉ first.packets := by
      intro before
      exact apart id before id (List.mem_flatMap.mpr ⟨group, later, member⟩) rfl
    rw [ih restDistinct later, finishGroup_of_notMem elsewhere]

/-! ## The whole procedure -/

theorem dequeueRounds_length (lawful : env.Lawful) (retries missing : Nat) (queue : List CryptoOp) :
    (dequeueRounds env retries missing queue).1.length ≤ missing := by
  induction retries generalizing missing queue with
  | zero => exact Nat.zero_le missing
  | succ retries ih =>
    rw [dequeueRounds]
    split
    · exact Nat.zero_le missing
    have round := lawful.dequeue_le retries missing queue
    have rounds :=
      ih (missing - (env.dequeue retries missing queue).1.length)
        (env.dequeue retries missing queue).2
    rw [List.length_append]
    exact (Nat.add_le_add_left rounds _).trans (Nat.add_sub_of_le round).le

theorem dpIpsecProcessBurst_length (lawful : env.Lawful) (ops queue : List CryptoOp) :
    (dpIpsecProcessBurst env ops queue).1.length ≤ ops.length :=
  (dequeueRounds_length lawful _ _ _).trans (lawful.accept_le ops)

theorem length_le_length_flatMap (nonempty : ∀ group ∈ groups, group.packets ≠ []) :
    groups.length ≤ (groups.flatMap IpsecGroup.packets).length := by
  induction groups with
  | nil => exact Nat.le_refl 0
  | cons group groups ih =>
    have head := nonempty group List.mem_cons_self
    have positive := List.length_pos_iff.mpr head
    have rest := ih fun other member => nonempty other (List.mem_cons_of_mem group member)
    rw [List.flatMap_cons, List.length_append, List.length_cons]
    omega

theorem length_preparedOps_le (ops : List OpId) (jobs : List (MbufId × Handle)) :
    (preparedOps ops jobs).length ≤ jobs.length := by
  rw [preparedOps, List.length_map, List.length_zip]
  exact Nat.min_le_right ..

/-- The operations of this invocation that the device returns. -/
def completedOps (env : CryptoEnv) (ops : List OpId) (jobs : List (MbufId × Handle))
    (state : CryptoState) : List CryptoOp :=
  (dpIpsecProcessBurst env (preparedOps ops jobs) state.queue).1

theorem submitJobs_eq (lawful : env.Lawful) {ops : List OpId} {jobs : List (MbufId × Handle)}
    (state : CryptoState) (fits : jobs.length ≤ rteGraphBurstSize) :
    submitJobs node env heap ops jobs state =
      some
        ({ state with
           mbufs :=
             finishGroups node env heap (env.group (completedOps env ops jobs state))
               (updateCells CryptoOp.mSrc (fun op m => completePacket env heap op.sa op.mSrc m)
                 (completedOps env ops jobs state) state.mbufs)
           queue := (dpIpsecProcessBurst env (preparedOps ops jobs) state.queue).2 },
          completedOps env ops jobs state) := by
  have preparedFits := (length_preparedOps_le ops jobs).trans fits
  have completedFits : (completedOps env ops jobs state).length ≤ rteGraphBurstSize :=
    (dpIpsecProcessBurst_length lawful _ _).trans preparedFits
  have groupedFits :
      ((env.group (completedOps env ops jobs state)).flatMap
        IpsecGroup.packets).length ≤ rteGraphBurstSize := by
    rw [(lawful.group_perm _).length_eq, List.length_map]
    exact completedFits
  have groupsFit := (length_le_length_flatMap (lawful.group_nonempty _)).trans groupedFits
  have completedFits' := completedFits
  unfold completedOps at completedFits'
  simp only [submitJobs, BoundedArray.store_of_le preparedFits,
    BoundedArray.store_of_le completedFits', Option.bind_eq_bind, Option.bind_some]
  unfold completedOps at groupsFit groupedFits
  rw [BoundedArray.store_of_le groupsFit]
  simp only [Option.bind_some, BoundedArray.store_of_le groupedFits]
  rfl

theorem map_preparedOps {ops : List OpId} {jobs : List (MbufId × Handle)}
    (enough : jobs.length ≤ ops.length) :
    (preparedOps ops jobs).map (fun op => (op.mSrc, op.sa)) = jobs := by
  rw [preparedOps, List.map_map]
  exact List.map_snd_zip enough

section Completed

variable {state : CryptoState} {ops : List OpId}
variable {jobs : List (MbufId × Handle)}

/-- With an empty queue, what comes back was prepared by this invocation, and
no packet comes back twice. -/
theorem completedOps_of_idle (lawful : env.Lawful) (idle : state.queue = [])
    (enough : jobs.length ≤ ops.length) (distinct : (jobs.map Prod.fst).Nodup) :
    (∀ op ∈ completedOps env ops jobs state, (op.mSrc, op.sa) ∈ jobs) ∧
      ((completedOps env ops jobs state).map CryptoOp.mSrc).Nodup := by
  have part := dpIpsecProcessBurst_subperm lawful (preparedOps ops jobs)
  rw [← idle] at part
  have pairs := map_preparedOps enough
  constructor
  · intro op member
    have prepared := part.subset member
    rw [← pairs]
    exact List.mem_map.mpr ⟨op, prepared, rfl⟩
  obtain ⟨all, perm, front⟩ := List.subperm_iff.mp part
  have packets : (preparedOps ops jobs).map CryptoOp.mSrc = jobs.map Prod.fst := by
    conv_rhs => rw [← pairs]
    rw [List.map_map]
    rfl
  have allDistinct : (all.map CryptoOp.mSrc).Nodup := by
    rw [(perm.map CryptoOp.mSrc).nodup_iff, packets]
    exact distinct
  exact allDistinct.sublist (front.map CryptoOp.mSrc)

variable {completed : List CryptoOp} {mbufs : MbufId → Mbuf}

theorem finishGroups_completed_of_mem (lawful : env.Lawful)
    (distinct : (completed.map CryptoOp.mSrc).Nodup) {op : CryptoOp} (member : op ∈ completed) :
    finishGroups node env heap (env.group completed)
        (updateCells CryptoOp.mSrc (fun op m => completePacket env heap op.sa op.mSrc m)
          completed mbufs)
        op.mSrc =
      finishedPacket node env heap op.sa op.mSrc
        (completePacket env heap op.sa op.mSrc (mbufs op.mSrc)) := by
  have perm := lawful.group_perm completed
  have groupedOnce := perm.nodup_iff.mpr distinct
  have grouped := perm.mem_iff.mpr (List.mem_map_of_mem member)
  obtain ⟨group, held, inGroup⟩ := List.mem_flatMap.mp grouped
  obtain ⟨other, otherMember, samePacket, sameSa⟩ :=
    lawful.group_sa completed group held op.mSrc inGroup
  have sameOp := List.inj_on_of_nodup_map distinct otherMember member samePacket
  subst sameOp
  rw [finishGroups_of_mem groupedOnce held inGroup, ← sameSa,
    updateCells_of_mem CryptoOp.mSrc
      (fun op m => completePacket env heap op.sa op.mSrc m) distinct member]

theorem finishGroups_completed_of_notMem (lawful : env.Lawful)
    (others : id ∉ completed.map CryptoOp.mSrc) :
    finishGroups node env heap (env.group completed)
        (updateCells CryptoOp.mSrc (fun op m => completePacket env heap op.sa op.mSrc m)
          completed mbufs) id =
      mbufs id := by
  have perm := lawful.group_perm completed
  have ungrouped : id ∉ (env.group completed).flatMap IpsecGroup.packets := by
    rw [perm.mem_iff]
    exact others
  rw [finishGroups_of_notMem ungrouped, updateCells_of_notMem _ _ others]

end Completed

/-! ## Packet by packet -/

def lookupSa (db : IpsecDb) (key : SadKey) : Option Handle :=
  db.sad.bind fun sad => sad key

/-- What a burst makes of a packet with the mark set, given the outcome of its
lookup and the operations that were completed. -/
def packetAfter (node : CryptoNode) (env : CryptoEnv) (heap : SaHeap) (completed : List CryptoOp)
    (id : MbufId) (found : Option Handle) (m : Mbuf) : Mbuf :=
  match found with
  | none => m
  | some handle =>
    let (prepared, ok) := preparePacket node env heap id handle m
    if ok && decide (id ∈ completed.map CryptoOp.mSrc) then
      finishedPacket node env heap handle id (completePacket env heap handle id prepared)
    else prepared

section LookedUp

variable {state : CryptoState} {objs : List MbufId} {ops pool : List OpId}
variable {found : MbufId → Option Handle}

def lookedUp (found : MbufId → Option Handle) (objs : List MbufId) :
    List (MbufId × Option Handle) :=
  objs.map fun id => (id, found id)

theorem map_fst_lookedUp : (lookedUp found objs).map Prod.fst = objs := by
  rw [lookedUp, List.map_map]
  exact List.map_id objs

theorem mem_lookedUp_iff {handle : Option Handle} :
    (id, handle) ∈ lookedUp found objs ↔ id ∈ objs ∧ found id = handle := by
  simp only [lookedUp, List.mem_map, Prod.mk.injEq]
  constructor
  · intro held
    obtain ⟨other, member, same, sameHandle⟩ := held
    subst same
    exact ⟨member, sameHandle⟩
  · intro held
    exact ⟨id, held.1, rfl, held.2⟩

def preparedBurst (node : CryptoNode) (env : CryptoEnv) (heap : SaHeap)
    (found : MbufId → Option Handle) (objs : List MbufId)
    (mbufs : MbufId → Mbuf) : (MbufId → Mbuf) × List (MbufId × Handle) :=
  preparePackets node env heap (lookedUp found objs) mbufs

theorem length_preparedBurst_le (mbufs : MbufId → Mbuf) :
    (preparedBurst node env heap found objs mbufs).2.length ≤ objs.length := by
  have sublist :
      ((preparedBurst node env heap found objs mbufs).2.map
        Prod.fst).Sublist ((lookedUp found objs).map Prod.fst) :=
    preparePackets_sublist (lookedUp found objs) mbufs
  have bound := sublist.length_le
  rw [map_fst_lookedUp, List.length_map] at bound
  exact bound

theorem nodup_preparedBurst (distinct : objs.Nodup) (mbufs : MbufId → Mbuf) :
    ((preparedBurst node env heap found objs mbufs).2.map Prod.fst).Nodup := by
  apply List.Nodup.sublist (preparePackets_sublist (lookedUp found objs) mbufs)
  rw [map_fst_lookedUp]
  exact distinct

theorem packetAfter_of_completed (distinct : objs.Nodup) {mbufs after : MbufId → Mbuf}
    {completed : List CryptoOp}
    (prepared : ∀ op ∈ completed,
      (op.mSrc, op.sa) ∈ (preparedBurst node env heap found objs mbufs).2)
    (finished : ∀ op ∈ completed, after op.mSrc =
        finishedPacket node env heap op.sa op.mSrc
          (completePacket env heap op.sa op.mSrc
            ((preparedBurst node env heap found objs mbufs).1 op.mSrc)))
    (pending : ∀ id, id ∉ completed.map CryptoOp.mSrc →
      after id = (preparedBurst node env heap found objs mbufs).1 id) :
    (∀ op ∈ completed, op.mSrc ∈ objs ∧ found op.mSrc = some op.sa) ∧
      (∀ id, id ∉ objs → after id = mbufs id) ∧
      ∀ id ∈ objs, after id = packetAfter node env heap completed id (found id) (mbufs id) := by
  have distinctPairs : ((lookedUp found objs).map Prod.fst).Nodup := by
    rw [map_fst_lookedUp]
    exact distinct
  have jobOf : ∀ op ∈ completed, (op.mSrc ∈ objs ∧ found op.mSrc = some op.sa) ∧
      (preparePacket node env heap op.mSrc op.sa (mbufs op.mSrc)).2 =
        true := by
    intro op member
    have job := prepared op member
    rw [preparedBurst, mem_preparePackets_iff distinctPairs, mem_lookedUp_iff] at job
    exact job
  have middle : ∀ id ∈ objs, (preparedBurst node env heap found objs mbufs).1 id =
        preparedPacket node env heap id (found id) (mbufs id) := by
    intro id member
    have held := mem_lookedUp_iff.mpr ⟨member, Eq.refl (found id)⟩
    rw [preparedBurst, preparePackets_mbufs]
    exact
      updateCells_of_mem Prod.fst (fun pair m => preparedPacket node env heap pair.1 pair.2 m)
        distinctPairs held
  refine ⟨fun op member => (jobOf op member).1, ?_, ?_⟩
  · intro id others
    have notCompleted : id ∉ completed.map CryptoOp.mSrc := by
      intro done
      obtain ⟨op, member, same⟩ := List.mem_map.mp done
      exact others (same ▸ (jobOf op member).1.1)
    rw [pending id notCompleted, preparedBurst, preparePackets_mbufs]
    apply updateCells_of_notMem
    rw [map_fst_lookedUp]
    exact others
  intro id member
  by_cases done : id ∈ completed.map CryptoOp.mSrc
  · obtain ⟨op, held, same⟩ := List.mem_map.mp done
    subst same
    obtain ⟨⟨_, foundSa⟩, ok⟩ := jobOf op held
    rw [finished op held, middle op.mSrc member, foundSa]
    simp only [packetAfter, preparedPacket, ok, done, Bool.true_and, decide_true, if_true]
  rw [pending id done, middle id member]
  cases foundSa : found id with
  | none => rfl
  | some handle =>
    simp only [packetAfter, preparedPacket, done, decide_false,
      Bool.and_false, Bool.false_eq_true, if_false]

/-- The procedure from its second loop on.  That no array is overrun needs
only a burst that fits; what happens to the packets needs an idle device. -/
theorem processLookedUp_spec (lawful : env.Lawful) (fits : objs.length ≤ rteGraphBurstSize)
    (state : CryptoState) :
    ∃ result, processLookedUp node env heap ops pool objs (objs.map found) state = some result ∧
      result.edges = forwardPackets node result.state.mbufs objs ∧
      result.state.opPool = freeOps pool ops ∧
      (state.queue = [] → objs.Nodup → objs.length ≤ ops.length →
        (∀ op ∈ result.completed, op.mSrc ∈ objs ∧ found op.mSrc = some op.sa) ∧
        (∀ id, id ∉ objs → result.state.mbufs id = state.mbufs id) ∧
        ∀ id ∈ objs, result.state.mbufs id =
          packetAfter node env heap result.completed id (found id) (state.mbufs id)) := by
  have jobsLe : (preparedBurst node env heap found objs state.mbufs).2.length ≤ objs.length :=
    length_preparedBurst_le state.mbufs
  have pairs : objs.zip (objs.map found) = lookedUp found objs := by
    rw [lookedUp, List.map_prod_left_eq_zip]
  rw [processLookedUp, pairs]
  by_cases work : 0 < (preparedBurst node env heap found objs state.mbufs).2.length
  · have submitted :=
      @submitJobs_eq node env heap lawful ops _
        { state with mbufs := (preparedBurst node env heap found objs state.mbufs).1 }
        (jobsLe.trans fits)
    unfold preparedBurst at work submitted
    simp only [if_pos work, submitted, Option.bind_eq_bind, Option.bind_some]
    refine ⟨_, rfl, rfl, rfl, ?_⟩
    intro idle distinct enough
    have jobsDistinct :
        ((preparedBurst node env heap found objs state.mbufs).2.map Prod.fst).Nodup :=
      nodup_preparedBurst distinct state.mbufs
    obtain ⟨prepared, completedOnce⟩ :=
      completedOps_of_idle lawful idle (jobsLe.trans enough) jobsDistinct
    apply packetAfter_of_completed distinct prepared
    · intro op member
      exact finishGroups_completed_of_mem lawful completedOnce member
    · intro id others
      exact finishGroups_completed_of_notMem lawful others
  unfold preparedBurst at work
  simp only [if_neg work, Option.bind_eq_bind, Option.bind_some]
  refine ⟨_, rfl, rfl, rfl, ?_⟩
  intro _ distinct _
  apply packetAfter_of_completed distinct
  · intro op member
    cases member
  · intro op member
    cases member
  · intro id _
    rfl

end LookedUp

structure BurstSpec
    (node : CryptoNode) (env : CryptoEnv) (db : IpsecDb) (state : CryptoState)
    (objs : List MbufId) (result : BurstResult) : Prop where
  edges : result.edges = forwardPackets node result.state.mbufs objs
  opPool : result.state.opPool.Perm state.opPool
  others : ∀ id, id ∉ objs → result.state.mbufs id = state.mbufs id
  completed : ∀ op ∈ result.completed, op.mSrc ∈ objs ∧
    lookupSa db (node.buildKey (setCryptoFailed true (state.mbufs op.mSrc))) = some op.sa
  packets : ∀ id ∈ objs, result.state.mbufs id =
    if objs.length ≤ state.opPool.length then
      packetAfter node env db.heap result.completed id
        (lookupSa db (node.buildKey (setCryptoFailed true (state.mbufs id))))
        (setCryptoFailed true (state.mbufs id))
    else setCryptoFailed true (state.mbufs id)

section Spec

variable {db : IpsecDb} {state : CryptoState} {objs : List MbufId}

/-- The packets with the mark that only a completed operation clears. -/
def markedMbufs (state : CryptoState) (objs : List MbufId) : MbufId → Mbuf :=
  updateCells (fun id => id) (fun _ m => setCryptoFailed true m) objs state.mbufs

theorem markedMbufs_of_mem (distinct : objs.Nodup) (member : id ∈ objs) :
    markedMbufs state objs id = setCryptoFailed true (state.mbufs id) := by
  have ids : (objs.map fun id => id).Nodup := by
    rw [List.map_id']
    exact distinct
  exact updateCells_of_mem (fun id => id) (fun _ m => setCryptoFailed true m) ids member

theorem markedMbufs_of_notMem (others : id ∉ objs) :
    markedMbufs state objs id = state.mbufs id := by
  apply updateCells_of_notMem
  rw [List.map_id']
  exact others

def foundSa (node : CryptoNode) (db : IpsecDb) (state : CryptoState)
    (objs : List MbufId) (id : MbufId) : Option Handle :=
  lookupSa db (node.buildKey (markedMbufs state objs id))

theorem cryptoNodeProcess_of_alloc {allocated pool : List OpId}
    (granted : bulkAlloc state.opPool objs.length = some (allocated, pool))
    (fits : objs.length ≤ rteGraphBurstSize) :
    cryptoNodeProcess node env db state objs =
      processLookedUp node env db.heap allocated pool objs
        (objs.map (foundSa node db state objs))
        { state with mbufs := markedMbufs state objs } := by
  have allocatedFits : allocated.length ≤ rteGraphBurstSize := by
    rw [(bulkAlloc_eq_some granted).2.1]
    exact fits
  have keysFit :
      (objs.map fun id =>
        node.buildKey (markedMbufs state objs id)).length ≤
          rteGraphBurstSize := by
    rw [List.length_map]
    exact fits
  have found : dpIpsecLookupSa db (objs.map fun id => node.buildKey (markedMbufs state objs id)) =
        objs.map (foundSa node db state objs) := by
    rw [dpIpsecLookupSa, List.map_map]
    rfl
  have sasFit : (objs.map (foundSa node db state objs)).length ≤
        rteGraphBurstSize := by
    rw [List.length_map]
    exact fits
  unfold markedMbufs at keysFit found
  simp only [cryptoNodeProcess, granted, Option.bind_eq_bind,
    BoundedArray.store_of_le allocatedFits, Option.bind_some,
    BoundedArray.store_of_le keysFit, found, BoundedArray.store_of_le sasFit]
  rfl

theorem burstSpec_of_refused (distinct : objs.Nodup)
    (refused : bulkAlloc state.opPool objs.length = none) :
    BurstSpec node env db state objs
      { state := { state with mbufs := markedMbufs state objs }
        edges := forwardPackets node (markedMbufs state objs) objs
        completed := [] } := by
  have short : ¬ objs.length ≤ state.opPool.length := by
    intro enough
    rw [bulkAlloc, if_pos enough] at refused
    cases refused
  refine ⟨rfl, List.Perm.refl _, ?_, ?_, ?_⟩
  · intro id others
    exact markedMbufs_of_notMem others
  · intro op member
    cases member
  · intro id member
    rw [if_neg short]
    exact markedMbufs_of_mem distinct member

theorem cryptoNodeProcess_spec (lawful : env.Lawful) (idle : state.queue = [])
    (distinct : objs.Nodup) (fits : objs.length ≤ rteGraphBurstSize) :
    ∃ result, cryptoNodeProcess node env db state objs = some result ∧
      BurstSpec node env db state objs result := by
  cases granted : bulkAlloc state.opPool objs.length with
  | none =>
    exact ⟨_, by rw [cryptoNodeProcess, granted]; rfl, burstSpec_of_refused distinct granted⟩
  | some grant => ?_
  obtain ⟨allocated, pool⟩ := grant
  obtain ⟨enough, count, whole⟩ := bulkAlloc_eq_some granted
  obtain ⟨result, processed, edges, freed, packets⟩ :=
    @processLookedUp_spec node env db.heap objs allocated pool
      (foundSa node db state objs) lawful fits
      { state with mbufs := markedMbufs state objs }
  rw [← cryptoNodeProcess_of_alloc granted fits] at processed
  obtain ⟨completed, others, after⟩ :=
    packets idle distinct count.symm.le
  have found : ∀ id ∈ objs, foundSa node db state objs id =
      lookupSa db (node.buildKey (setCryptoFailed true (state.mbufs id))) := by
    intro id member
    rw [foundSa, markedMbufs_of_mem distinct member]
  refine ⟨result, processed, edges, ?_, ?_, ?_, ?_⟩
  · rw [freed, ← whole]
    exact freeOps_perm pool allocated
  · intro id absent
    rw [others id absent]
    exact markedMbufs_of_notMem absent
  · intro op member
    obtain ⟨held, foundHandle⟩ := completed op member
    exact ⟨held, (found op.mSrc held).symm.trans foundHandle⟩
  intro id member
  rw [if_pos enough, after id member, found id member]
  exact
    congrArg (packetAfter node env db.heap result.completed id _)
      (markedMbufs_of_mem distinct member)

theorem burstSpec_of_some (lawful : env.Lawful) (idle : state.queue = []) (distinct : objs.Nodup)
    {result : BurstResult} (processed : cryptoNodeProcess node env db state objs = some result) :
    BurstSpec node env db state objs result := by
  cases granted : bulkAlloc state.opPool objs.length with
  | none =>
    rw [cryptoNodeProcess, granted, Option.some_inj] at processed
    rw [← processed]
    exact burstSpec_of_refused distinct granted
  | some grant => ?_
  obtain ⟨allocated, pool⟩ := grant
  by_cases fits : objs.length ≤ rteGraphBurstSize
  · obtain ⟨other, same, spec⟩ :=
      @cryptoNodeProcess_spec node env db state objs lawful idle distinct fits
    rw [processed, Option.some_inj] at same
    rw [same]
    exact spec
  have overrun : BoundedArray.store rteGraphBurstSize allocated = none := by
    rw [← Option.not_isSome_iff_eq_none, BoundedArray.store_isSome_iff,
      (bulkAlloc_eq_some granted).2.1]
    exact fits
  rw [cryptoNodeProcess, granted] at processed
  simp only [overrun, Option.bind_eq_bind, Option.bind_none] at processed
  cases processed

end Spec

end DpService.Nodes

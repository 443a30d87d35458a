import DpService.Ipsec.Rekey
import DpService.Nodes.NullEsp

/-!
# The IPsec nodes fail closed

A packet leaves an IPsec node for anything but `drop` only when its own
operation went all the way through.  What this needs of the two nodes is
collected in `CryptoNode.FailsClosed`; the rest is the specification of a
burst.  The second part is about the sizes of the local arrays.
-/

namespace DpService.Nodes

open Foundations Packet Dataplane Ipsec

/-- The operation on a packet was prepared, ended with success and was
accepted by librte_ipsec, which leaves the frame `final`. -/
def CryptoEnv.Succeeds (env : CryptoEnv) (id : MbufId) (sa : IpsecSa) (frame final : Frame) :
    Prop :=
  ∃ prepared executed,
    env.prepare id sa frame = (prepared, true) ∧ env.execute id sa prepared = (executed, true) ∧
      env.process id sa
          { executed with olFlags := executed.olFlags ||| rxSecOffload } =
        (final, true)

/-- Nothing but a success clears the mark, and a marked packet is dropped. -/
structure CryptoNode.FailsClosed (node : CryptoNode) : Prop where
  buildKey_mark : ∀ value m, node.buildKey (setCryptoFailed value m) = node.buildKey m
  permit_frame : ∀ sa m, (node.permit sa m).1.frame = m.frame
  permit_mark : ∀ sa m, (node.permit sa m).1.mark = m.mark
  settle_mark : ∀ m, (node.settle false m).mark = m.mark
  next_marked : ∀ m, m.mark.cryptoFailed = true → node.next m = .drop

theorem ipsecEncap_failsClosed (tables : Tables) : (ipsecEncap tables).FailsClosed where
  buildKey_mark := fun _ _ => rfl
  permit_frame := fun _ _ => rfl
  permit_mark := fun _ _ => rfl
  settle_mark := fun _ => rfl
  next_marked := by
    intro m marked
    exact if_pos marked

theorem dpVnfResolveTunnelDst_frame (tables : Tables) (m : Mbuf) :
    (dpVnfResolveTunnelDst tables m).1.frame = m.frame ∧
      (dpVnfResolveTunnelDst tables m).1.mark = m.mark := by
  unfold dpVnfResolveTunnelDst
  split
  · exact ⟨rfl, rfl⟩
  split
  · exact ⟨rfl, rfl⟩
  · exact ⟨rfl, rfl⟩

theorem ipsecDecapPermit_fst (tables : Tables) (sa : IpsecSa) (m : Mbuf) :
    (ipsecDecapPermit tables sa m).1 = (dpVnfResolveTunnelDst tables m).1 := by
  unfold ipsecDecapPermit
  split
  · rename_i resolution
    rw [resolution]
  · rename_i resolution
    rw [resolution]

theorem ipsecDecap_failsClosed (tables : Tables) : (ipsecDecap tables).FailsClosed where
  buildKey_mark := fun _ _ => rfl
  permit_frame := by
    intro sa m
    change (ipsecDecapPermit tables sa m).1.frame = m.frame
    rw [ipsecDecapPermit_fst]
    exact (dpVnfResolveTunnelDst_frame tables m).1
  permit_mark := by
    intro sa m
    change (ipsecDecapPermit tables sa m).1.mark = m.mark
    rw [ipsecDecapPermit_fst]
    exact (dpVnfResolveTunnelDst_frame tables m).2
  settle_mark := fun _ => rfl
  next_marked := by
    intro m marked
    exact if_pos marked

section Forwarded

variable {node : CryptoNode} {env : CryptoEnv} {heap : SaHeap}
variable {id : MbufId} {handle : Handle} {m : Mbuf}

theorem preparePacket_mark (closed : node.FailsClosed) :
    (preparePacket node env heap id handle m).1.mark = m.mark := by
  have kept := closed.permit_mark (heap.sa handle) m
  unfold preparePacket
  split
  · rename_i refused
    rw [refused] at kept
    exact kept
  · rename_i permitted
    rw [permitted] at kept
    exact kept

theorem preparePacket_ok (closed : node.FailsClosed)
    (ok : (preparePacket node env heap id handle m).2 = true) :
    (node.permit (heap.sa handle) m).2 = true ∧
      ∃ prepared, env.prepare id (heap.sa handle) (setOuterLengths m).frame = (prepared, true) ∧
        (preparePacket node env heap id handle m).1 =
          { (node.permit (heap.sa handle) m).1 with frame := prepared } := by
  have sameFrame := closed.permit_frame (heap.sa handle) m
  unfold preparePacket at ok ⊢
  cases permit : node.permit (heap.sa handle) m with
  | mk permitted allowed =>
    rw [permit] at ok sameFrame
    cases allowed with
    | false => cases ok
    | true => ?_
    have sameLengths : (setOuterLengths permitted).frame = (setOuterLengths m).frame := by
      rw [setOuterLengths, setOuterLengths, sameFrame]
    simp only [sameLengths] at ok ⊢
    refine ⟨trivial, _, Prod.ext rfl ok, rfl⟩

theorem or_and_self_right (flags bit : UInt64) : (flags ||| bit) &&& bit = bit := by
  apply UInt64.toBitVec_inj.mp
  ext index bound
  simp only [UInt64.toBitVec_and, UInt64.toBitVec_or, BitVec.getElem_and, BitVec.getElem_or]
  cases bit.toBitVec[index] with
  | false => rw [Bool.and_false]
  | true => rw [Bool.or_true, Bool.and_true]

theorem processResult_completed (lawful : env.Lawful)
    (ok : (processResult env heap handle id (completePacket env heap handle id m)).2 = true) :
    ∃ executed, env.execute id (heap.sa handle) m.frame = (executed, true) ∧
        (completePacket env heap handle id m).frame =
          { executed with olFlags := executed.olFlags ||| rxSecOffload } := by
  have clear := lawful.process_failed _ _ _ ok
  unfold completePacket at clear ⊢
  cases outcome : env.execute id (heap.sa handle) m.frame with
  | mk executed success =>
    rw [outcome] at clear
    cases success with
    | true => exact ⟨executed, rfl, rfl⟩
    | false =>
      simp only [Bool.false_eq_true, if_false, or_and_self_right] at clear
      cases clear

theorem packetAfter_forwarded (closed : node.FailsClosed) (lawful : env.Lawful)
    {completed : List CryptoOp} {found : Option Handle} (marked : m.mark.cryptoFailed = true)
    (forwarded : node.next (packetAfter node env heap completed id found m) ≠ .drop) :
    ∃ handle final, found = some handle ∧ id ∈ completed.map CryptoOp.mSrc ∧
      (node.permit (heap.sa handle) m).2 = true ∧
      env.Succeeds id (heap.sa handle) (setOuterLengths m).frame final ∧
      packetAfter node env heap completed id found m =
        node.settle true
          { (node.permit (heap.sa handle) m).1 with frame := final } := by
  cases found with
  | none => exact absurd (closed.next_marked m marked) forwarded
  | some handle => ?_
  have stillMarked : (preparePacket node env heap id handle m).1.mark.cryptoFailed =
        true := by
    rw [preparePacket_mark closed]
    exact marked
  simp only [packetAfter] at forwarded ⊢
  split at forwarded
  · rename_i submitted
    rw [Bool.and_eq_true, decide_eq_true_eq] at submitted
    obtain ⟨ok, returned⟩ := submitted
    obtain ⟨permitted, prepared, prepare, after⟩ := preparePacket_ok closed ok
    rw [after] at forwarded stillMarked
    -- a packet that librte_ipsec refuses keeps its mark
    cases result :
        (processResult env heap handle id
          (completePacket env heap handle id
            { (node.permit (heap.sa handle) m).1 with
              frame := prepared })).2 with
    | false =>
      rw [finishedPacket, result] at forwarded
      apply absurd (closed.next_marked _ _) forwarded
      rw [closed.settle_mark]
      exact stillMarked
    | true =>
      obtain ⟨executed, execute, completeFrame⟩ := processResult_completed lawful result
      refine
        ⟨handle, _, rfl, returned, permitted,
          ⟨prepared, executed, prepare, execute, Prod.ext rfl ?_⟩, ?_⟩
      · rw [← completeFrame]
        exact result
      · rw [if_pos (by simp [ok, returned]), after, finishedPacket, result, ← completeFrame]
        rfl
  · exact absurd (closed.next_marked _ stillMarked) forwarded

theorem packetAfter_of_succeeds (closed : node.FailsClosed) {completed : List CryptoOp}
    {final : Frame} (permitted : (node.permit (heap.sa handle) m).2 = true)
    (returned : id ∈ completed.map CryptoOp.mSrc)
    (succeeded : env.Succeeds id (heap.sa handle) (setOuterLengths m).frame final) :
    packetAfter node env heap completed id (some handle) m =
      node.settle true
        { (node.permit (heap.sa handle) m).1 with frame := final } := by
  obtain ⟨prepared, executed, prepare, execute, process⟩ := succeeded
  have sameFrame := closed.permit_frame (heap.sa handle) m
  have ready : preparePacket node env heap id handle m =
        ({ (node.permit (heap.sa handle) m).1 with frame := prepared }, true) := by
    unfold preparePacket
    cases permit : node.permit (heap.sa handle) m with
    | mk permittedPacket allowed =>
      rw [permit] at permitted sameFrame
      cases permitted
      have sameLengths : (setOuterLengths permittedPacket).frame = (setOuterLengths m).frame := by
        rw [setOuterLengths, setOuterLengths, sameFrame]
      simp only [sameLengths, prepare]
      rfl
  have complete :
      completePacket env heap handle id
          { (node.permit (heap.sa handle) m).1 with frame := prepared } =
        { (node.permit (heap.sa handle) m).1 with
          frame :=
            { executed with
              olFlags := executed.olFlags ||| rxSecOffload } } := by
    simp only [completePacket, execute, if_true]
  simp only [packetAfter, ready, returned, decide_true, Bool.and_true, if_true]
  rw [complete, finishedPacket, processedPacket, processResult, process]

end Forwarded

/-! ## Bursts -/

/-- What a burst guarantees: every packet is enqueued once, the pool of
operations is whole again, and a packet that goes on was worked on by an
operation of its own, under the association that its own key finds. -/
structure FailClosedBurst
    (node : CryptoNode) (env : CryptoEnv) (db : IpsecDb) (state : CryptoState)
    (objs : List MbufId) (result : BurstResult) : Prop where
  enqueuedOnce : result.edges.map Prod.fst = objs
  opsFreedOnce : result.state.opPool.Perm state.opPool
  forwarded : ∀ id next, (id, next) ∈ result.edges → next ≠ .drop →
    ∃ op ∈ result.completed, ∃ final, op.mSrc = id ∧
      lookupSa db (node.buildKey (state.mbufs id)) = some op.sa ∧
      (node.permit (db.heap.sa op.sa) (setCryptoFailed true (state.mbufs id))).2 = true ∧
      env.Succeeds id (db.heap.sa op.sa) (setOuterLengths (state.mbufs id)).frame final ∧
      result.state.mbufs id =
        node.settle true
          { (node.permit (db.heap.sa op.sa) (setCryptoFailed true (state.mbufs id))).1 with
            frame := final }

theorem BurstSpec.failClosed {node : CryptoNode} {env : CryptoEnv} {db : IpsecDb}
    {state : CryptoState} {objs : List MbufId} {result : BurstResult} (closed : node.FailsClosed)
    (lawful : env.Lawful) (spec : BurstSpec node env db state objs result) :
    FailClosedBurst node env db state objs result where
  enqueuedOnce := by
    rw [spec.edges, forwardPackets, List.map_map]
    exact List.map_id objs
  opsFreedOnce := spec.opPool
  forwarded := by
    intro id next enqueued notDropped
    rw [spec.edges, forwardPackets, List.mem_map] at enqueued
    obtain ⟨_, member, edge⟩ := enqueued
    cases edge
    have packet := spec.packets id member
    have marked : (setCryptoFailed true (state.mbufs id)).mark.cryptoFailed = true := rfl
    split at packet
    · rw [packet] at notDropped
      obtain ⟨handle, final, found, returned, permitted, succeeded, after⟩ :=
        packetAfter_forwarded closed lawful marked notDropped
      rw [closed.buildKey_mark] at found
      obtain ⟨op, completed, same⟩ := List.mem_map.mp returned
      have ownSa := (spec.completed op completed).2
      rw [same, closed.buildKey_mark, found, Option.some_inj] at ownSa
      subst ownSa
      rw [closed.buildKey_mark, found] at after packet
      exact ⟨op, completed, final, same, found, permitted, succeeded, packet.trans after⟩
    · rw [packet] at notDropped
      exact absurd (closed.next_marked _ marked) notDropped

theorem ipsecDecapPermit_classified {tables : Tables} {received m : Mbuf}
    (classified : cls tables received = (m, .ipsecDecap)) (sa : IpsecSa) :
    ∃ vnf port, tables.endpoint (ipv6Dst m.frame) = some (vnf, port) ∧
        ipsecDecapPermit tables sa (setCryptoFailed true m) =
          (setCryptoFailed true m, vnf.vni == sa.vni) := by
  have classification := cls_classified tables received
  rw [classified] at classification
  generalize edge : (m, Node.ipsecDecap) = outcome at classification
  cases classification <;> cases edge
  case encrypted inPort vnf dstPort registered fromPf enabled endpoint encrypting esp =>
    refine ⟨vnf, dstPort, endpoint, ?_⟩
    have resolved :
        dpVnfResolveTunnelDst tables
            (setCryptoFailed true
              { received with
                df := resolvedFlow (underlayFlow received.frame) vnf }) =
          (setCryptoFailed true
              { received with
                df := resolvedFlow (underlayFlow received.frame) vnf },
            dpGetPortById tables.ports vnf.portId) :=
      rfl
    rw [ipsecDecapPermit, resolved, (portId_of_endpoint endpoint).2]
    rfl

theorem ipsecDecapSettle_forwarded {m : Mbuf} (marked : m.mark.cryptoFailed = true)
    (forwarded : ipsecDecapNext (ipsecDecapSettle true m) ≠ .drop) :
    (ipsecDecapSettle true m).frame = m.frame ∧
      (ipv6Proto m.frame = ipprotoIpip ∨ ipv6Proto m.frame = ipprotoIpv6) := by
  unfold ipsecDecapSettle ipsecDecapRestoreFlow tunnelledType at *
  by_cases ipip : ipv6Proto m.frame = ipprotoIpip
  · simp only [ipip, if_true]
    exact ⟨rfl, Or.inl trivial⟩
  by_cases ipv6 : ipv6Proto m.frame = ipprotoIpv6
  · simp only [ipv6]
    exact ⟨rfl, Or.inr trivial⟩
  · simp only [ipip, ipv6, if_false, if_true] at forwarded
    exact absurd (if_pos marked) forwarded

/-- A packet that leaves `ipsec_decap` belongs to the network of its
association, and it carries a tunnelled packet. -/
def DecapChecked (tables : Tables) (db : IpsecDb) (state : CryptoState)
    (result : BurstResult) : Prop :=
  ∀ id next, (id, next) ∈ result.edges → next ≠ .drop →
    ∃ handle vnf port, lookupSa db (ipsecDecapBuildKey (state.mbufs id)) = some handle ∧
      tables.endpoint (ipv6Dst (state.mbufs id).frame) = some (vnf, port) ∧
      (db.heap.sa handle).vni = vnf.vni ∧
      (ipv6Proto (result.state.mbufs id).frame = ipprotoIpip ∨
        ipv6Proto (result.state.mbufs id).frame = ipprotoIpv6)

theorem FailClosedBurst.decapChecked {tables : Tables} {env : CryptoEnv} {db : IpsecDb}
    {state : CryptoState} {objs : List MbufId} {result : BurstResult}
    (burst : FailClosedBurst (ipsecDecap tables) env db state objs result)
    (edges : result.edges = forwardPackets (ipsecDecap tables) result.state.mbufs objs)
    (classified : ∀ id ∈ objs, ∃ received, cls tables received = (state.mbufs id, .ipsecDecap)) :
    DecapChecked tables db state result := by
  intro id next enqueued notDropped
  obtain ⟨op, _, final, _, found, permitted, _, after⟩ :=
    burst.forwarded id next enqueued notDropped
  rw [edges, forwardPackets, List.mem_map] at enqueued
  obtain ⟨_, member, edge⟩ := enqueued
  cases edge
  obtain ⟨received, fromCls⟩ := classified id member
  obtain ⟨vnf, port, endpoint, permit⟩ := ipsecDecapPermit_classified fromCls (db.heap.sa op.sa)
  have sameNode : (ipsecDecap tables).permit = ipsecDecapPermit tables := rfl
  rw [sameNode, permit] at permitted after
  rw [after] at notDropped
  obtain ⟨sameFrame, carried⟩ := ipsecDecapSettle_forwarded rfl notDropped
  refine ⟨op.sa, vnf, port, found, endpoint, ?_, ?_⟩
  · exact (beq_iff_eq.mp permitted).symm
  have final : (result.state.mbufs id).frame = final := by
    rw [after]
    exact sameFrame
  rw [final]
  exact carried

/-- The IPsec nodes fail closed, whatever the device and librte_ipsec make
of a burst. -/
theorem ipsecNodes_failClosed
    (tables : Tables) (env : CryptoEnv) (db : IpsecDb) (lawful : env.Lawful) :
    (∀ (state : CryptoState) (objs : List MbufId),
      state.queue = [] → objs.Nodup → objs.length ≤ rteGraphBurstSize →
        ∃ result, ipsecEncapNodeProcess tables env db state objs = some result ∧
          FailClosedBurst (ipsecEncap tables) env db state objs result) ∧
      ∀ (state : CryptoState) (objs : List MbufId),
        state.queue = [] → objs.Nodup → objs.length ≤ rteGraphBurstSize →
        (∀ id ∈ objs, ∃ received, cls tables received = (state.mbufs id, .ipsecDecap)) →
        ∃ result, ipsecDecapNodeProcess tables env db state objs = some result ∧
          FailClosedBurst (ipsecDecap tables) env db state objs result ∧
          DecapChecked tables db state result := by
  constructor
  · intro state objs idle distinct fits
    obtain ⟨result, processed, spec⟩ :=
      @cryptoNodeProcess_spec (ipsecEncap tables) env db state objs lawful idle distinct fits
    exact ⟨result, processed, spec.failClosed (ipsecEncap_failsClosed tables) lawful⟩
  intro state objs idle distinct fits classified
  obtain ⟨result, processed, spec⟩ :=
    @cryptoNodeProcess_spec (ipsecDecap tables) env db state objs lawful idle distinct fits
  have burst := spec.failClosed (ipsecDecap_failsClosed tables) lawful
  exact ⟨result, processed, burst, burst.decapChecked spec.edges classified⟩

/-! ### A packet in each direction -/

def bootPort (isPf : Bool) (portId : PortId) : Port :=
  { Port.absent with isPf, portId }

def guestUnderlay : Ipv6 where
  pfx := 0xfc00000100000000
  sfx := 5

def peerUnderlay : Ipv6 where
  pfx := 0xfc00000200000000
  sfx := 3

/-- A host with two PFs and an encrypting interface on the VF 2. -/
def tablesWithGuest (conf : DpConf) (underlay : Ipv6) : Tables where
  conf := conf
  ports :=
    ((PortTable.empty.update (bootPort true 0)).update
      (bootPort true 1)).update
        { bootPort false 2 with
          allocated := true
          iface :=
            { PortIface.zeroed with
              vni := 100
              encrypt := true
              ulIpv6 := underlay
              ready := true } }
  vnfs :=
    { VnfTables.empty with
      handle := Function.update (fun _ => none) underlay (some ⟨.interfaceIp, 100, 2, ⟨.v4 0, 0⟩⟩) }
  ifaceIds := fun _ => none
  pf0 := 0
  pf1 := 1

def guestTables : Tables :=
  tablesWithGuest hostConf guestUnderlay

def ingressSa (spi : UInt32) (vni : Vni) : DpgrpcIpsecSa :=
  { egressSa spi vni with
    id := { spi, vni, dir := .ingress, src := peerUnderlay, dst := guestUnderlay } }

def guestDb : IpsecDb :=
  (saMachine hostConf).run
    [(.create (egressSa 256 100), Outcomes.success),
      (.create (ingressSa 512 100), Outcomes.success)]

def tunnelFrame (src dst : Ipv6) : Frame where
  data :=
    dpFillEtherHdr Port.absent etherTypeIpv6 ++
      outerIpv6Hdr 8 ipprotoIpip src dst ++ beBytes 8 0x4500000800000000
  stale := fun _ => 0
  headroom := 128
  packetType := ptypeL2Ether ||| ptypeL3Ipv6
  olFlags := 0
  txOffload := ⟨0, 0, 0, 0, 0⟩

def mbufOn (port : PortId) (frame : Frame) : Mbuf where
  frame := frame
  port := port
  df := DpFlow.zeroed
  mark := ⟨false, false⟩

def burstOf (m : Mbuf) : CryptoState where
  mbufs := fun _ => m
  opPool := [1, 2]
  queue := []

def guestSends : CryptoState :=
  burstOf (mbufOn 2 (tunnelFrame guestUnderlay peerUnderlay))

def guestReceives : Mbuf :=
  mbufOn 0 (espEncapsulate 512 (tunnelFrame peerUnderlay guestUnderlay))

theorem guestPackets_forwarded :
    (∃ result, ipsecEncapNodeProcess guestTables nullEsp guestDb guestSends [7] = some result ∧
      result.edges = [(7, .tx 0)] ∧
      FailClosedBurst (ipsecEncap guestTables) nullEsp guestDb guestSends [7] result) ∧
      ∃ result,
        ipsecDecapNodeProcess guestTables nullEsp guestDb
            (burstOf (cls guestTables guestReceives).1) [7] =
          some result ∧
        result.edges = [(7, .ipipDecap)] ∧
        FailClosedBurst (ipsecDecap guestTables) nullEsp guestDb
          (burstOf (cls guestTables guestReceives).1) [7] result ∧
        DecapChecked guestTables guestDb (burstOf (cls guestTables guestReceives).1) result := by
  have closed := ipsecNodes_failClosed guestTables nullEsp guestDb nullEsp_lawful
  have classified : cls guestTables guestReceives =
      ((cls guestTables guestReceives).1, .ipsecDecap) :=
    Prod.ext rfl (by decide +kernel)
  obtain ⟨sent, processed, burst⟩ := closed.1 guestSends [7] rfl (by decide) (by decide)
  obtain ⟨received, decapProcessed, decapBurst, checked⟩ :=
    closed.2 (burstOf (cls guestTables guestReceives).1) [7] rfl (by decide)
      (by decide) fun _ _ => ⟨guestReceives, classified⟩
  have sentEdges :
      (ipsecEncapNodeProcess guestTables nullEsp guestDb guestSends
        [7]).map BurstResult.edges = some [(7, .tx 0)] := by
    decide +kernel
  have receivedEdges :
      (ipsecDecapNodeProcess guestTables nullEsp guestDb
        (burstOf (cls guestTables guestReceives).1) [7]).map
          BurstResult.edges = some [(7, .ipipDecap)] := by
    decide +kernel
  rw [processed] at sentEdges
  rw [decapProcessed] at receivedEdges
  exact
    ⟨⟨sent, processed, Option.some_inj.mp sentEdges, burst⟩,
      received, decapProcessed, Option.some_inj.mp receivedEdges, decapBurst, checked⟩

/-! ## Array bounds -/

/-- A burst stays inside the local arrays when it fits, and when it is given
up because the pool has not enough operations. -/
theorem cryptoNodeProcess_isSome_iff {node : CryptoNode} {env : CryptoEnv} {db : IpsecDb}
    (lawful : env.Lawful) (state : CryptoState) (objs : List MbufId) :
    (cryptoNodeProcess node env db state objs).isSome ↔ objs.length ≤ rteGraphBurstSize ∨
        state.opPool.length < objs.length := by
  cases granted : bulkAlloc state.opPool objs.length with
  | none =>
    have short : state.opPool.length < objs.length := by
      by_contra enough
      rw [bulkAlloc, if_pos (by omega)] at granted
      cases granted
    simp [cryptoNodeProcess, granted, short]
  | some grant => ?_
  obtain ⟨allocated, pool⟩ := grant
  obtain ⟨enough, count, _⟩ := bulkAlloc_eq_some granted
  by_cases fits : objs.length ≤ rteGraphBurstSize
  · obtain ⟨result, processed, _⟩ :=
      @processLookedUp_spec node env db.heap objs allocated pool
        (foundSa node db state objs) lawful fits
        { state with mbufs := markedMbufs state objs }
    rw [cryptoNodeProcess_of_alloc granted fits, processed]
    simp [fits]
  -- the allocation itself writes behind the end of `ops`
  have overrun : BoundedArray.store rteGraphBurstSize allocated = none := by
    rw [← Option.not_isSome_iff_eq_none, BoundedArray.store_isSome_iff, count]
    exact fits
  have full : ¬ state.opPool.length < objs.length := by omega
  simp [cryptoNodeProcess, granted, overrun, fits, full]

theorem ipsecNodes_inBounds_iff (tables : Tables) (env : CryptoEnv) (db : IpsecDb)
    (lawful : env.Lawful) (state : CryptoState) (objs : List MbufId) :
    ((ipsecEncapNodeProcess tables env db state objs).isSome ↔
      objs.length ≤ rteGraphBurstSize ∨ state.opPool.length < objs.length) ∧
      ((ipsecDecapNodeProcess tables env db state objs).isSome ↔ objs.length ≤ rteGraphBurstSize ∨
          state.opPool.length < objs.length) := by
  constructor
  · exact cryptoNodeProcess_isSome_iff lawful state objs
  · exact cryptoNodeProcess_isSome_iff lawful state objs

theorem guestBurst_inBounds_iff :
    ((ipsecEncapNodeProcess guestTables nullEsp guestDb guestSends [7]).isSome ↔
      1 ≤ rteGraphBurstSize ∨ 2 < 1) ∧
      ((ipsecDecapNodeProcess guestTables nullEsp guestDb guestSends [7]).isSome ↔
        1 ≤ rteGraphBurstSize ∨ 2 < 1) :=
  ipsecNodes_inBounds_iff guestTables nullEsp guestDb nullEsp_lawful guestSends [7]

def fullPool (m : Mbuf) : CryptoState where
  mbufs := fun _ => m
  opPool := List.range dpIpsecOpPoolSize
  queue := []

/-- One packet more than the arrays hold, while the pool has operations for
all of them. -/
theorem ipsecNodes_overrun :
    ipsecEncapNodeProcess guestTables nullEsp guestDb
        (fullPool (guestSends.mbufs 7)) (List.range 257) = none ∧
      ipsecDecapNodeProcess guestTables nullEsp guestDb
        (fullPool guestReceives) (List.range 257) = none := by
  have tooMany : ∀ m : Mbuf,
      ¬ ((List.range 257).length ≤ rteGraphBurstSize ∨
        (fullPool m).opPool.length < (List.range 257).length) := by
    intro m
    simp [fullPool, rteGraphBurstSize, dpIpsecOpPoolSize]
  constructor
  · rw [← Option.not_isSome_iff_eq_none, ipsecEncapNodeProcess,
      cryptoNodeProcess_isSome_iff nullEsp_lawful]
    exact tooMany _
  · rw [← Option.not_isSome_iff_eq_none, ipsecDecapNodeProcess,
      cryptoNodeProcess_isSome_iff nullEsp_lawful]
    exact tooMany _

end DpService.Nodes

import DpService.Foundations.Batch
import DpService.Ipsec.Database
import DpService.Nodes.Tunnel

/-!
# The IPsec nodes

`ipsec_encap_node_process` and `ipsec_decap_node_process` are one procedure
with four things exchanged: the key a packet is looked up under, what must
hold before its association may be used, what is done with a packet that has
come back, and the edge it leaves on.

A packet is named by its mbuf's address and lives in a memory of mbufs, so
that the arrays of the procedure can hold packets in any order.  DPDK appears
as a `CryptoEnv`: what the crypto device and librte_ipsec do in this call.
-/

namespace DpService.Nodes

open Foundations Packet Dataplane Ipsec

abbrev MbufId := Nat

abbrev OpId := Nat

def rteGraphBurstSize : Nat := 256

def dpIpsecOpPoolSize : Nat := 1024

def dpIpsecDequeueRetries : Nat := 32

/-- A crypto operation that was prepared for the packet `mSrc` with the
session of the association `sa`. -/
structure CryptoOp where
  id : OpId
  mSrc : MbufId
  sa : Handle
  deriving DecidableEq, Repr

structure IpsecGroup where
  sa : Handle
  packets : List MbufId
  deriving DecidableEq, Repr

/-- What DPDK does in one invocation.  The flags tell success, and everything
may depend on the packet, so that each combination of failures is covered.

`prepare`, `process` and `group` are `rte_ipsec_pkt_crypto_prepare`,
`rte_ipsec_pkt_process` on one packet and `rte_ipsec_pkt_crypto_group`.
`execute` is what the device does to a packet and the status it reports,
`accept` the number of operations it enqueues, and `dequeue` splits its queue
into what a round returns and what stays. -/
structure CryptoEnv where
  prepare : MbufId → IpsecSa → Frame → Frame × Bool
  execute : MbufId → IpsecSa → Frame → Frame × Bool
  process : MbufId → IpsecSa → Frame → Frame × Bool
  accept : List CryptoOp → Nat
  dequeue : Nat → Nat → List CryptoOp → List CryptoOp × List CryptoOp
  group : List CryptoOp → List IpsecGroup

structure CryptoNode where
  buildKey : Mbuf → SadKey
  permit : IpsecSa → Mbuf → Mbuf × Bool
  settle : Bool → Mbuf → Mbuf
  next : Mbuf → Node

def setCryptoFailed (value : Bool) (m : Mbuf) : Mbuf :=
  { m with mark := { m.mark with cryptoFailed := value } }

def ipsecEncapBuildKey (tables : Tables) (m : Mbuf) : SadKey :=
  dpIpsecBuildKey (dpGetInPort tables.ports m).iface.vni (ipv6Src m.frame) (ipv6Dst m.frame)

/-- The receive-side flags that the grouping raised have no business on a
packet that is about to be transmitted. -/
def clearSecFlags (m : Mbuf) : Mbuf :=
  { m with
    frame :=
      { m.frame with olFlags := m.frame.olFlags &&& ~~~(rxSecOffload ||| rxSecOffloadFailed) } }

def ipsecEncapNext (tables : Tables) (m : Mbuf) : Node :=
  if m.mark.cryptoFailed then .drop else tables.nextPfTx m.df.nxtHop

def ipsecEncap (tables : Tables) : CryptoNode where
  buildKey := ipsecEncapBuildKey tables
  permit := fun _ m => (m, true)
  settle := fun ok m => clearSecFlags (if ok then setCryptoFailed false m else m)
  next := ipsecEncapNext tables

def ipsecDecapMinLen : Nat :=
  etherHdrLen + ipv6HdrLen + espHdrLen

def espSpi (frame : Frame) : UInt32 :=
  frame.be32At 54

def ipsecDecapBuildKey (m : Mbuf) : SadKey :=
  if m.frame.data.length < ipsecDecapMinLen then { spi := 0, dip := Ipv6.zero, sip := Ipv6.zero }
  else dpIpsecBuildKey (espSpi m.frame) (ipv6Src m.frame) (ipv6Dst m.frame)

def ipsecDecapPermit (tables : Tables) (sa : IpsecSa) (m : Mbuf) : Mbuf × Bool :=
  match dpVnfResolveTunnelDst tables m with
  | (m, none) => (m, false)
  | (m, some _) => (m, m.df.tunInfo.dstVni == sa.vni)

def ipsecDecapRestoreFlow (m : Mbuf) : Option Mbuf :=
  match tunnelledType (ipv6Proto m.frame) with
  | none => none
  | some l3Type =>
    some
      { m with
        df :=
          { m.df with
            l3Type
            tunInfo := { m.df.tunInfo with protoId := ipv6Proto m.frame } } }

def ipsecDecapSettle (ok : Bool) (m : Mbuf) : Mbuf :=
  if ok then
    match ipsecDecapRestoreFlow m with
    | none => m
    | some m => setCryptoFailed false m
  else m

def ipsecDecapNext (m : Mbuf) : Node :=
  if m.mark.cryptoFailed then .drop else .ipipDecap

def ipsecDecap (tables : Tables) : CryptoNode where
  buildKey := ipsecDecapBuildKey
  permit := ipsecDecapPermit tables
  settle := ipsecDecapSettle
  next := ipsecDecapNext

/-! ## The common procedure -/

structure CryptoState where
  mbufs : MbufId → Mbuf
  opPool : List OpId
  queue : List CryptoOp

def bulkAlloc (pool : List OpId) (count : Nat) : Option (List OpId × List OpId) :=
  if count ≤ pool.length then some (pool.take count, pool.drop count)
  else none

def freeOps (pool : List OpId) : List OpId → List OpId
  | [] => pool
  | op :: ops => freeOps (op :: pool) ops

def dpIpsecLookupSa (db : IpsecDb) (keys : List SadKey) : List (Option Handle) :=
  keys.map fun key => db.sad.bind fun sad => sad key

/-- Transport mode needs to know where the outer header ends. -/
def setOuterLengths (m : Mbuf) : Mbuf :=
  { m with
    frame :=
      { m.frame with
        txOffload :=
          { m.frame.txOffload with
            l2Len := etherHdrLen
            l3Len := ipv6HdrLen } } }

section Procedure

variable (node : CryptoNode) (env : CryptoEnv) (heap : SaHeap)

/-- The packet after the second loop has looked at it, and whether an
operation was prepared for it. -/
def preparePacket (id : MbufId) (handle : Handle) (m : Mbuf) : Mbuf × Bool :=
  match node.permit (heap.sa handle) m with
  | (m, false) => (m, false)
  | (m, true) =>
    let m := setOuterLengths m
    match env.prepare id (heap.sa handle) m.frame with
    | (frame, ok) => ({ m with frame }, ok)

/-- The second loop.  It returns the packets that `ops[0]`, `ops[1]` and so on
were prepared for. -/
def preparePackets :
    List (MbufId × Option Handle) → (MbufId → Mbuf) → (MbufId → Mbuf) × List (MbufId × Handle)
  | [], mbufs => (mbufs, [])
  | (_, none) :: rest, mbufs => preparePackets rest mbufs
  | (id, some handle) :: rest, mbufs =>
    match preparePacket node env heap id handle (mbufs id) with
    | (m, false) => preparePackets rest (Function.update mbufs id m)
    | (m, true) =>
      let (after, jobs) := preparePackets rest (Function.update mbufs id m)
      (after, (id, handle) :: jobs)

/-- The rounds of `dp_ipsec_process_burst`, which stop when `missing`
operations have come back or the retries are used up. -/
def dequeueRounds : (retries missing : Nat) → List CryptoOp → List CryptoOp × List CryptoOp
  | 0, _, queue => ([], queue)
  | retries + 1, missing, queue =>
    if missing = 0 then ([], queue)
    else
      let (round, queue) := env.dequeue retries missing queue
      let (rounds, queue) := dequeueRounds retries (missing - round.length) queue
      (round ++ rounds, queue)

def dpIpsecProcessBurst (ops queue : List CryptoOp) : List CryptoOp × List CryptoOp :=
  let enqueued := env.accept ops
  dequeueRounds env dpIpsecDequeueRetries enqueued (queue ++ ops.take enqueued)

/-- What has happened to a packet when the grouping returns its operation:
the device has worked on it, and the grouping has recorded how that ended. -/
def completePacket (handle : Handle) (id : MbufId) (m : Mbuf) : Mbuf :=
  match env.execute id (heap.sa handle) m.frame with
  | (frame, ok) =>
    { m with
      frame :=
        { frame with
          olFlags :=
            if ok then frame.olFlags ||| rxSecOffload
            else frame.olFlags ||| rxSecOffload ||| rxSecOffloadFailed } }

def processResult (handle : Handle) (id : MbufId) (m : Mbuf) : Frame × Bool :=
  env.process id (heap.sa handle) m.frame

def processedPacket (handle : Handle) (id : MbufId) (m : Mbuf) : Mbuf :=
  { m with frame := (processResult env heap handle id m).1 }

/-- `rte_ipsec_pkt_process` on a group and the loops behind it.  Failures are
moved to the end of the group. -/
def finishGroup (group : IpsecGroup) (mbufs : MbufId → Mbuf) : MbufId → Mbuf :=
  let succeeded := group.packets.filter fun id => (processResult env heap group.sa id (mbufs id)).2
  let failed := group.packets.filter fun id => !(processResult env heap group.sa id (mbufs id)).2
  let processed :=
    updateCells (fun id => id) (processedPacket env heap group.sa) group.packets mbufs
  updateCells (fun id => id) (fun _ m => node.settle false m) failed
    (updateCells (fun id => id) (fun _ m => node.settle true m) succeeded processed)

def finishGroups : List IpsecGroup → (MbufId → Mbuf) → MbufId → Mbuf
  | [], mbufs => mbufs
  | group :: groups, mbufs => finishGroups groups (finishGroup node env heap group mbufs)

def preparedOps (ops : List OpId) (jobs : List (MbufId × Handle)) : List CryptoOp :=
  (ops.zip jobs).map fun pair => CryptoOp.mk pair.1 pair.2.1 pair.2.2

/-- Submit the prepared operations and deal with those that come back, which
are returned as well.  The result is `none` when a local array is written past
its end. -/
def submitJobs (ops : List OpId) (jobs : List (MbufId × Handle)) (state : CryptoState) :
    Option (CryptoState × List CryptoOp) := do
  let submitted ←
    BoundedArray.store rteGraphBurstSize (preparedOps ops jobs)
  let (completed, queue) := dpIpsecProcessBurst env submitted.items state.queue
  let readonly ← BoundedArray.store rteGraphBurstSize completed
  let groups ←
    BoundedArray.store rteGraphBurstSize (env.group readonly.items)
  let _grouped ←
    BoundedArray.store rteGraphBurstSize (groups.items.flatMap IpsecGroup.packets)
  let collected :=
    updateCells CryptoOp.mSrc (fun op m => completePacket env heap op.sa op.mSrc m)
      readonly.items state.mbufs
  some
    ({ state with
       mbufs := finishGroups node env heap groups.items collected
       queue },
      readonly.items)

/-- The edges that `dp_foreach_graph_packet` enqueues the packets to. -/
def forwardPackets (mbufs : MbufId → Mbuf) (objs : List MbufId) : List (MbufId × Node) :=
  objs.map fun id => (id, node.next (mbufs id))

end Procedure

/-- What an invocation leaves behind: the state, the edges the packets were
enqueued to, and the operations that the device completed. -/
structure BurstResult where
  state : CryptoState
  edges : List (MbufId × Node)
  completed : List CryptoOp

/-- The procedure from its second loop on, for the packets `objs` with the
associations `sas` that were found for them. -/
def processLookedUp (node : CryptoNode) (env : CryptoEnv) (heap : SaHeap)
    (ops pool : List OpId) (objs : List MbufId) (sas : List (Option Handle))
    (state : CryptoState) : Option BurstResult := do
  let (mbufs, jobs) := preparePackets node env heap (objs.zip sas) state.mbufs
  let prepared := { state with mbufs }
  let (submitted, completed) ←
    if 0 < jobs.length then submitJobs node env heap ops jobs prepared
    else some (prepared, [])
  some
    { state := { submitted with opPool := freeOps pool ops }
      edges := forwardPackets node submitted.mbufs objs
      completed }

def cryptoNodeProcess (node : CryptoNode) (env : CryptoEnv) (db : IpsecDb) (state : CryptoState)
    (objs : List MbufId) : Option BurstResult :=
  -- fail closed: only a completed operation clears the mark again
  let marked := updateCells (fun id => id) (fun _ m => setCryptoFailed true m) objs state.mbufs
  match bulkAlloc state.opPool objs.length with
  | none =>
    some
      { state := { state with mbufs := marked }
        edges := forwardPackets node marked objs
        completed := [] }
  | some (allocated, pool) => do
      let ops ← BoundedArray.store rteGraphBurstSize allocated
      let keys ←
        BoundedArray.store rteGraphBurstSize (objs.map fun id => node.buildKey (marked id))
      let keyptrs ← BoundedArray.store rteGraphBurstSize keys.items
      let sas ←
        BoundedArray.store rteGraphBurstSize (dpIpsecLookupSa db keyptrs.items)
      processLookedUp node env db.heap ops.items pool objs sas.items
        { state with mbufs := marked }

def ipsecEncapNodeProcess (tables : Tables) (env : CryptoEnv) (db : IpsecDb) (state : CryptoState)
    (objs : List MbufId) : Option BurstResult :=
  cryptoNodeProcess (ipsecEncap tables) env db state objs

def ipsecDecapNodeProcess (tables : Tables) (env : CryptoEnv) (db : IpsecDb) (state : CryptoState)
    (objs : List MbufId) : Option BurstResult :=
  cryptoNodeProcess (ipsecDecap tables) env db state objs

end DpService.Nodes

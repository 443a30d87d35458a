import Mathlib.Data.List.Basic
import DpService.Base

/-!
# Replies of the worker

A response travels from the worker to the gRPC thread as a chain of reply
messages through a ring.  The responder cuts the elements of a response into
messages and puts the return code of the handler into the first of them; the
call on the other side takes the messages one by one and sets the status of
its reply from each.
-/

namespace DpService.Grpc

/-! ## Requests and calls -/

inductive RequestType where
  | none
  | initializeCall
  | checkInitialized
  | getVersion
  | createInterface
  | deleteInterface
  | getInterface
  | listInterfaces
  | createPrefix
  | deletePrefix
  | listPrefixes
  | createRoute
  | deleteRoute
  | listRoutes
  | createVip
  | deleteVip
  | getVip
  | createNat
  | deleteNat
  | getNat
  | createNeighborNat
  | deleteNeighborNat
  | listLocalNats
  | listNeighborNats
  | createLoadBalancer
  | deleteLoadBalancer
  | getLoadBalancer
  | listLoadBalancers
  | createLoadBalancerTarget
  | deleteLoadBalancerTarget
  | listLoadBalancerTargets
  | createLoadBalancerPrefix
  | deleteLoadBalancerPrefix
  | listLoadBalancerPrefixes
  | createFirewallRule
  | deleteFirewallRule
  | getFirewallRule
  | listFirewallRules
  | checkVniInUse
  | resetVni
  | captureStart
  | captureStop
  | captureStatus
  | createSecurityAssociation
  | deleteSecurityAssociation
  | updateSecurityAssociation
  | getSecurityAssociation
  | enableInterfaceEncryption
  | disableInterfaceEncryption
  | getInterfaceEncryption
  deriving DecidableEq, Repr

/-- The base class of a call; `InitCall` reads its reply as
`SingleReplyCall` does. -/
inductive CallClass where
  | noIpc
  | singleReply
  | multiReply
  deriving DecidableEq, Repr

def RequestType.callClass : RequestType → CallClass
  | .checkInitialized => .noIpc
  | .listInterfaces => .multiReply
  | .listPrefixes => .multiReply
  | .listRoutes => .multiReply
  | .listLocalNats => .multiReply
  | .listNeighborNats => .multiReply
  | .listLoadBalancers => .multiReply
  | .listLoadBalancerTargets => .multiReply
  | .listLoadBalancerPrefixes => .multiReply
  | .listFirewallRules => .multiReply
  | _ => .singleReply

/-! ## Return codes -/

/-- `_DP_GRPC_ERRCODES`, below which the gRPC errors are counted. -/
def grpcErrcodes : Int :=
  -1001

def grpcErrors : List Nat :=
  [101, 201, 202, 203, 204, 205, 206, 207, 208, 209, 210, 211, 212, 213, 214,
    301, 302, 303, 304, 305, 321, 322, 323, 341, 342, 343, 361, 362, 363, 364,
    381, 382, 383, 401, 402, 403, 421, 422, 423, 424, 441, 461, 462, 463, 464, 465, 466, 467, 468]

def grpcError (number : Nat) : Int :=
  grpcErrcodes - number

def grpcOk : Int :=
  0

def grpcErrOutOfMemory : Int :=
  grpcError 208

def dpErrcodeToGrpcErrcode (dpErrcode : Int) : Int :=
  -(dpErrcode - grpcErrcodes)

def GrpcRet (ret : Int) : Prop :=
  ret = grpcOk ∨ ∃ number ∈ grpcErrors, ret = grpcError number

def clientCode (ret : Int) : UInt32 :=
  UInt32.ofInt (if ret < 0 then dpErrcodeToGrpcErrcode ret else ret)

@[simp]
theorem clientCode_grpcOk : clientCode grpcOk = 0 := by
  decide

theorem clientCode_eq_zero_iff {ret : Int} (returned : GrpcRet ret) :
    clientCode ret = 0 ↔ ret = grpcOk := by
  constructor
  · intro zero
    rcases returned with success | ⟨number, listed, rfl⟩
    · exact success
    · have nonzero : ∀ number ∈ grpcErrors, clientCode (grpcError number) ≠ 0 := by
        decide
      exact absurd zero (nonzero number listed)
  · rintro rfl
    exact clientCode_grpcOk

/-! ## The responder -/

/-- `struct dpgrpc_reply`, one message of a response, with the elements
written behind its header. -/
structure Reply (α : Type) where
  type : RequestType
  isChained : Bool
  msgCount : Nat
  errCode : UInt32
  messages : List α
  deriving DecidableEq, Repr

/-- `struct dp_grpc_responder`.  The array `replies` holds the messages of
`full` followed by `rep`; the sizes are bounded by the 16-bit `buf_len` of an
mbuf, so that `rep_msgcount` does not wrap. -/
structure Responder (α : Type) where
  type : RequestType
  full : List (Reply α)
  rep : Reply α
  repMaxSize : Nat
  msgSize : Nat
  repCapacity : Nat
  repMsgcount : Nat

def grpcQSize : Nat :=
  64

def grpcReplyArrSize : Nat :=
  grpcQSize / 4 * 3

namespace Responder

variable {α : Type}

def repcount (responder : Responder α) : Nat :=
  responder.full.length + 1

/-- `dp_grpc_init_responder`.  The mbuf of the request becomes the first
message: `stale` is what its bytes read as. -/
def init (type : RequestType) (stale : Reply α) (repMaxSize singleSize : Nat) : Responder α where
  type := type
  full := []
  rep := { stale with type := type, isChained := false }
  repMaxSize := repMaxSize
  msgSize := singleSize
  repCapacity := 1
  repMsgcount := 0

def setMultireply (responder : Responder α) (msgSize : Nat) : Responder α :=
  { responder with
    msgSize := msgSize
    repCapacity := responder.repMaxSize / msgSize }

/-- `dp_grpc_alloc_reply`; `alloc` tells for each message of the response
whether `rte_pktmbuf_alloc` yields an mbuf for it. -/
def allocReply (alloc : Nat → Bool) (responder : Responder α) : Option (Responder α) :=
  if 65535 < responder.repCapacity then none
  else if grpcReplyArrSize ≤ responder.repcount then none
  else if alloc responder.repcount = false then none
  else
    some
      { responder with
        full :=
          responder.full ++
            [{ responder.rep with
                isChained := true
                msgCount := responder.repCapacity }]
        rep :=
          { type := responder.type
            isChained := false
            msgCount := 0
            errCode := 0
            messages := [] }
        repMsgcount := 0 }

/-- The part of `dp_grpc_add_reply` behind the allocation. -/
def write (responder : Responder α) (element : α) : Responder α :=
  { responder with
    rep :=
      { responder.rep with
        messages := responder.rep.messages.take responder.repMsgcount ++ [element] }
    repMsgcount := responder.repMsgcount + 1 }

/-- `dp_grpc_add_reply` with what the handler then writes there. -/
def addReply (alloc : Nat → Bool) (responder : Responder α) (element : α) : Option (Responder α) :=
  if responder.repCapacity ≤ responder.repMsgcount then
    (responder.allocReply alloc).map (·.write element)
  else some (responder.write element)

/-- `dp_grpc_send_response` up to the ring: the messages it enqueues. -/
def response (responder : Responder α) (grpcRet : UInt32) : List (Reply α) :=
  let last := { responder.rep with msgCount := responder.repMsgcount }
  match responder.full with
  | [] => [{ last with errCode := grpcRet }]
  | first :: rest => { first with errCode := grpcRet } :: rest ++ [last]

end Responder

/-- A request handler as the responder sees it: one that answers in place, or
one that lists elements and stops at the first without room. -/
inductive Handler (α : Type) where
  | single (answer : Option α) (ret : Int)
  | listing (msgSize : Nat) (elements : List α) (ret : Int)
  deriving Repr

variable {α : Type}

def listElements (alloc : Nat → Bool) (ret : Int) : List α → Responder α → Responder α × Int
  | [], responder => (responder, ret)
  | element :: elements, responder =>
    match responder.addReply alloc element with
    | none => (responder, grpcErrOutOfMemory)
    | some responder => listElements alloc ret elements responder

def Handler.run (alloc : Nat → Bool) (responder : Responder α) : Handler α → Responder α × Int
  | .single answer ret =>
    ({ responder with
        rep := { responder.rep with messages := answer.toList } }, ret)
  | .listing msgSize elements ret =>
    listElements alloc ret elements (responder.setMultireply msgSize)

/-! ## The call -/

inductive RpcStatus where
  | ok
  | aborted (message : String)
  | invalidArgument (message : String)
  | internal (message : String)
  deriving DecidableEq, Repr

inductive CallState where
  | request
  | awaitMsg
  | finish
  deriving DecidableEq, Repr

/-- A call with the reply it builds: the status in it, the elements parsed so
far, and what `Finish` has sent. -/
structure Call (α : Type) where
  type : RequestType
  state : CallState
  status : Option UInt32
  parsed : List α
  sent : Option (RpcStatus × Option UInt32)
  deriving DecidableEq, Repr

inductive ReplyRet where
  | ok
  | notReady
  | failed
  deriving DecidableEq, Repr

namespace Call

def new (type : RequestType) : Call α where
  type := type
  state := .request
  status := none
  parsed := []
  sent := none

def setStatus (call : Call α) (errCode : UInt32) : Call α :=
  { call with status := some errCode }

/-- `ParseReply` of a listing call: every message of the reply is added. -/
def parseReply (call : Call α) (reply : Reply α) : Call α :=
  { call with parsed := call.parsed ++ reply.messages.take reply.msgCount }

def parseSingle (call : Call α) (reply : Reply α) : Call α :=
  { call with parsed := reply.messages }

def finish (call : Call α) (status : RpcStatus) : Call α :=
  { call with
    state := .finish
    sent := some (status, call.status) }

/-- What `MultiReplyCall::HandleReply` does with a message of its type. -/
def absorb (call : Call α) (reply : Reply α) : Call α :=
  let call := call.setStatus reply.errCode
  if reply.errCode = 0 then call.parseReply reply else call

def singleHandleReply (call : Call α) : List (Reply α) → ReplyRet × Call α × List (Reply α)
  | [] => (.notReady, call, [])
  | reply :: ring =>
    if reply.type ≠ call.type then (.failed, call, ring)
    else if reply.isChained || reply.msgCount ≠ 0 then (.failed, call, ring)
    else
      let call := call.setStatus reply.errCode
      (.ok, if reply.errCode = 0 then call.parseSingle reply else call, ring)

def multiHandleReply (call : Call α) : List (Reply α) → ReplyRet × Call α × List (Reply α)
  | [] => (.notReady, call, [])
  | reply :: ring =>
    if reply.type ≠ call.type then (.failed, call, ring)
    else if reply.isChained then (call.absorb reply).multiHandleReply ring
    else (.ok, call.absorb reply, ring)

def handleReply (call : Call α) (ring : List (Reply α)) : ReplyRet × Call α × List (Reply α) :=
  match call.type.callClass with
  | .noIpc => (.ok, call.setStatus 0, ring)
  | .singleReply => call.singleHandleReply ring
  | .multiReply => call.multiHandleReply ring

def handleRequest (call : Call α) (needsInit : Bool) (fillError : Option String) (written : Bool) :
    Call α :=
  if needsInit then call.finish (.aborted "not initialized")
  else
    match fillError with
    | some error => call.finish (.invalidArgument error)
    | none =>
      if written then { call with state := .awaitMsg }
      else call.finish (.internal "ipc write failed")

def handleAwait (call : Call α) (ring : List (Reply α)) : Call α × List (Reply α) :=
  match call.handleReply ring with
  | (.failed, call, ring) => (call.finish (.internal "reply parsing failed"), ring)
  | (.ok, call, ring) => (call.finish .ok, ring)
  | (.notReady, call, ring) => (call, ring)

/-- The loop around `HandleRpc` while a response comes in: before each round
some more of the enqueued messages have become visible to the consumer. -/
def await (call : Call α) (visible pending : List (Reply α)) : List Nat → Call α × List (Reply α)
  | [] => (call, visible ++ pending)
  | count :: arrivals =>
    let (call, visible) := call.handleAwait (visible ++ pending.take count)
    if call.state = .awaitMsg then call.await visible (pending.drop count) arrivals
    else (call, visible ++ pending.drop count)

end Call

/-! ## Serving requests -/

structure Job (α : Type) where
  type : RequestType
  needsInit : Bool
  fillError : Option String
  written : Bool
  stale : Reply α
  repMaxSize : Nat
  singleSize : Nat
  alloc : Nat → Bool
  handler : Handler α
  arrivals : List Nat

namespace Job

def handled (job : Job α) : Responder α × Int :=
  job.handler.run job.alloc (.init job.type job.stale job.repMaxSize job.singleSize)

def ret (job : Job α) : Int :=
  job.handled.2

/-- `dp_process_request`: the messages of the response. -/
def response (job : Job α) : List (Reply α) :=
  job.handled.1.response (clientCode job.ret)

def Written (job : Job α) : Prop :=
  job.needsInit = false ∧ job.fillError = none ∧ job.written = true ∧ job.type.callClass ≠ .noIpc

/-- Only the handlers of the listing calls add elements. -/
def Fits (job : Job α) : Prop :=
  match job.handler with
  | .single .. => True
  | .listing .. => job.type.callClass = .multiReply

/-- The response has become visible as a whole before the last round of the
loop. -/
def Awaited (job : Job α) : Prop :=
  job.response.length ≤ job.arrivals.sum

/-- One call from its request to `Finish`; the ring is what earlier calls
left.  A ring of `DP_GRPC_Q_SIZE` takes one entry less. -/
def exchange (job : Job α) (ring : List (Reply α)) : Call α × List (Reply α) :=
  let call := (Call.new job.type).handleRequest job.needsInit job.fillError job.written
  if call.state = .awaitMsg then
    if job.type.callClass = .noIpc then call.await ring [] job.arrivals
    else call.await ring (job.response.take (grpcQSize - 1 - ring.length)) job.arrivals
  else (call, ring)

end Job

/-- `GRPCService::HandleRpcs` over a sequence of requests: what is sent for
each. -/
def serve : List (Job α) → List (Reply α) → List (Option (RpcStatus × Option UInt32))
  | [], _ => []
  | job :: jobs, ring =>
    let (call, ring) := job.exchange ring
    call.sent :: serve jobs ring

/-! ## The chain of a response -/

/-- The messages of a response under construction: all of one type, every one
but the last chained to the next, and no code but in the first. -/
structure Responder.Chained (responder : Responder α) : Prop where
  full_type : ∀ reply ∈ responder.full, reply.type = responder.type
  full_chained : ∀ reply ∈ responder.full, reply.isChained = true
  rep_type : responder.rep.type = responder.type
  rep_unchained : responder.rep.isChained = false
  rep_code : responder.full ≠ [] → responder.rep.errCode = 0
  room : responder.repcount ≤ grpcReplyArrSize

namespace Responder

theorem chained_init (type : RequestType) (stale : Reply α) (repMaxSize singleSize : Nat) :
    (init type stale repMaxSize singleSize).Chained where
  full_type := by simp [init]
  full_chained := by simp [init]
  rep_type := rfl
  rep_unchained := rfl
  rep_code := by simp [init]
  room := by simp [init, repcount, grpcReplyArrSize, grpcQSize]

theorem Chained.setMultireply {responder : Responder α} (chained : responder.Chained)
    (msgSize : Nat) :
    (responder.setMultireply msgSize).Chained :=
  ⟨chained.full_type, chained.full_chained, chained.rep_type,
    chained.rep_unchained, chained.rep_code, chained.room⟩

theorem Chained.write {responder : Responder α} (chained : responder.Chained) (element : α) :
    (responder.write element).Chained :=
  ⟨chained.full_type, chained.full_chained, chained.rep_type,
    chained.rep_unchained, chained.rep_code, chained.room⟩

theorem Chained.allocReply {alloc : Nat → Bool} {responder next : Responder α}
    (chained : responder.Chained) (allocated : responder.allocReply alloc = some next) :
    next.Chained ∧ next.type = responder.type := by
  unfold Responder.allocReply at allocated
  split_ifs at allocated with oversized full refused
  obtain rfl := Option.some.inj allocated
  refine ⟨⟨?_, ?_, rfl, rfl, fun _ => rfl, ?_⟩, rfl⟩
  · intro reply listed
    rcases List.mem_append.mp listed with before | current
    · exact chained.full_type reply before
    · rw [List.mem_singleton] at current
      subst current
      exact chained.rep_type
  · intro reply listed
    rcases List.mem_append.mp listed with before | current
    · exact chained.full_chained reply before
    · rw [List.mem_singleton] at current
      subst current
      rfl
  · simp only [repcount, List.length_append, List.length_singleton] at full ⊢
    omega

theorem Chained.addReply {alloc : Nat → Bool} {responder next : Responder α} {element : α}
    (chained : responder.Chained) (added : responder.addReply alloc element = some next) :
    next.Chained ∧ next.type = responder.type := by
  unfold Responder.addReply at added
  split_ifs at added with full
  · obtain ⟨allocated, granted, rfl⟩ := Option.map_eq_some_iff.mp added
    obtain ⟨extended, sameType⟩ := chained.allocReply granted
    exact ⟨extended.write element, sameType⟩
  · obtain rfl := Option.some.inj added
    exact ⟨chained.write element, rfl⟩

end Responder

theorem listElements_chained (alloc : Nat → Bool) (ret : Int) (elements : List α)
    {responder : Responder α} (chained : responder.Chained) :
    (listElements alloc ret elements responder).1.Chained ∧
      (listElements alloc ret elements responder).1.type = responder.type := by
  induction elements generalizing responder with
  | nil => exact ⟨chained, rfl⟩
  | cons element elements ih =>
    rw [listElements]
    cases added : responder.addReply alloc element with
    | none => exact ⟨chained, rfl⟩
    | some next =>
      obtain ⟨extended, sameType⟩ := chained.addReply added
      rw [← sameType]
      exact ih extended

theorem Handler.run_chained (alloc : Nat → Bool) (handler : Handler α) {responder : Responder α}
    (chained : responder.Chained) :
    (handler.run alloc responder).1.Chained ∧
      (handler.run alloc responder).1.type = responder.type := by
  cases handler with
  | single answer ret =>
    exact
      ⟨⟨chained.full_type, chained.full_chained, chained.rep_type,
        chained.rep_unchained, chained.rep_code, chained.room⟩, rfl⟩
  | listing msgSize elements ret =>
    exact listElements_chained alloc ret elements (chained.setMultireply msgSize)

structure Chain (type : RequestType) (front : List (Reply α)) (last : Reply α) :
    Prop where
  front_type : ∀ reply ∈ front, reply.type = type
  front_chained : ∀ reply ∈ front, reply.isChained = true
  last_type : last.type = type
  last_unchained : last.isChained = false

/-- The return code of the handler is in the last message of the response
only where that is also the first one. -/
theorem Responder.Chained.response {responder : Responder α} (chained : responder.Chained)
    (code : UInt32) :
    ∃ front last, responder.response code = front ++ [last] ∧ Chain responder.type front last ∧
        front.length = responder.full.length ∧ last.msgCount = responder.repMsgcount ∧
        last.errCode = if front = [] then code else 0 := by
  unfold Responder.response
  cases full : responder.full with
  | nil =>
    exact ⟨[], _, rfl, ⟨by simp, by simp, chained.rep_type, chained.rep_unchained⟩, rfl, rfl, rfl⟩
  | cons first rest => ?_
  have types := chained.full_type
  have chains := chained.full_chained
  rw [full, List.forall_mem_cons] at types chains
  refine
    ⟨{ first with errCode := code } :: rest, _, rfl,
      ⟨?_, ?_, chained.rep_type, chained.rep_unchained⟩, rfl, rfl, ?_⟩
  · exact List.forall_mem_cons.mpr types
  · exact List.forall_mem_cons.mpr chains
  · rw [if_neg (List.cons_ne_nil _ _)]
    exact chained.rep_code (by simp [full])

/-! ## The elements of a response -/

def contents (replies : List (Reply α)) : List α :=
  replies.flatMap fun reply => reply.messages.take reply.msgCount

/-- A listing with some elements written, in messages that hold at least
one. -/
structure Responder.Lists (responder : Responder α) (elements : List α) :
    Prop where
  capacity : 0 < responder.repCapacity
  count_le : responder.repMsgcount ≤ responder.repCapacity
  length_ge : responder.repMsgcount ≤ responder.rep.messages.length
  content : contents responder.full ++ responder.rep.messages.take responder.repMsgcount = elements
  code : ∀ reply ∈ responder.full.tail, reply.errCode = 0

namespace Responder

theorem Lists.write {responder : Responder α} {elements : List α} (lists : responder.Lists elements)
    (room : responder.repMsgcount < responder.repCapacity) (element : α) :
    (responder.write element).Lists (elements ++ [element]) := by
  have length : (responder.rep.messages.take responder.repMsgcount).length =
        responder.repMsgcount :=
    List.length_take_of_le lists.length_ge
  refine ⟨lists.capacity, room, ?_, ?_, lists.code⟩
  · simp [Responder.write, length]
  have whole :
      ((responder.write element).rep.messages).take (responder.write element).repMsgcount =
        responder.rep.messages.take responder.repMsgcount ++ [element] := by
    apply List.take_of_length_le
    simp [Responder.write, length]
  rw [whole, ← List.append_assoc]
  exact congrArg (· ++ [element]) lists.content

theorem Lists.allocReply {alloc : Nat → Bool} {responder next : Responder α} {elements : List α}
    (chained : responder.Chained) (lists : responder.Lists elements)
    (full : responder.repCapacity ≤ responder.repMsgcount)
    (allocated : responder.allocReply alloc = some next) :
    next.Lists elements ∧ next.repMsgcount < next.repCapacity := by
  unfold Responder.allocReply at allocated
  split_ifs at allocated
  obtain rfl := Option.some.inj allocated
  have exact_ : responder.repCapacity = responder.repMsgcount := le_antisymm full lists.count_le
  refine ⟨⟨lists.capacity, Nat.zero_le _, Nat.zero_le _, ?_, ?_⟩, lists.capacity⟩
  · simpa [contents, exact_] using lists.content
  cases earlier : responder.full with
  | nil => simp
  | cons first rest => ?_
  intro reply listed
  simp only [List.cons_append, List.tail_cons, List.mem_append, List.mem_singleton] at listed
  rcases listed with before | current
  · exact lists.code reply (by simpa [earlier] using before)
  · rw [current]
    exact chained.rep_code (by simp [earlier])

theorem Lists.addReply {alloc : Nat → Bool} {responder next : Responder α} {elements : List α}
    {element : α} (chained : responder.Chained) (lists : responder.Lists elements)
    (added : responder.addReply alloc element = some next) :
    next.Lists (elements ++ [element]) := by
  unfold Responder.addReply at added
  split_ifs at added with full
  · obtain ⟨allocated, granted, rfl⟩ := Option.map_eq_some_iff.mp added
    obtain ⟨extended, room⟩ := lists.allocReply chained full granted
    exact extended.write room element
  · obtain rfl := Option.some.inj added
    exact lists.write (Nat.lt_of_not_le full) element

end Responder

theorem listElements_lists (alloc : Nat → Bool) (ret : Int) (elements : List α)
    {responder : Responder α} {before : List α} (chained : responder.Chained)
    (lists : responder.Lists before)
    (success : (listElements alloc ret elements responder).2 = grpcOk) :
    (listElements alloc ret elements responder).1.Lists (before ++ elements) := by
  induction elements generalizing responder before with
  | nil =>
    rw [List.append_nil]
    exact lists
  | cons element elements ih =>
    rw [listElements] at success ⊢
    cases added : responder.addReply alloc element with
    | none =>
      rw [added] at success
      exact absurd success (show grpcErrOutOfMemory ≠ grpcOk by decide)
    | some next =>
      rw [added] at success
      have written := ih (chained.addReply added).1 (lists.addReply chained added) success
      rwa [List.append_assoc] at written

theorem Responder.Lists.response {responder : Responder α} {elements : List α}
    (chained : responder.Chained) (lists : responder.Lists elements) :
    contents (responder.response 0) = elements ∧
      ∀ reply ∈ responder.response 0, reply.errCode = 0 := by
  unfold Responder.response
  cases full : responder.full with
  | nil =>
    have content := lists.content
    rw [full] at content
    exact ⟨by simpa [contents] using content, by simp⟩
  | cons first rest => ?_
  have content := lists.content
  have code := lists.code
  have last := chained.rep_code (by simp [full])
  rw [full] at content code
  refine ⟨by simpa [contents] using content, ?_⟩
  intro reply listed
  simp only [List.cons_append, List.mem_cons, List.mem_append,
    List.not_mem_nil, or_false] at listed
  rcases listed with rfl | between | rfl
  · rfl
  · exact code reply between
  · exact last

/-! ## Reading a chain -/

namespace Call

@[simp]
theorem absorb_type (call : Call α) (reply : Reply α) : (call.absorb reply).type = call.type := by
  unfold absorb
  split <;> rfl

@[simp]
theorem absorb_state (call : Call α) (reply : Reply α) :
    (call.absorb reply).state = call.state := by
  unfold absorb
  split <;> rfl

@[simp]
theorem absorb_status (call : Call α) (reply : Reply α) :
    (call.absorb reply).status = some reply.errCode := by
  unfold absorb
  split <;> rfl

def absorbAll (call : Call α) (replies : List (Reply α)) : Call α :=
  replies.foldl absorb call

@[simp]
theorem absorbAll_type (call : Call α) (replies : List (Reply α)) :
    (call.absorbAll replies).type = call.type := by
  induction replies generalizing call with
  | nil => rfl
  | cons reply replies ih => exact (ih _).trans (absorb_type call reply)

@[simp]
theorem absorbAll_state (call : Call α) (replies : List (Reply α)) :
    (call.absorbAll replies).state = call.state := by
  induction replies generalizing call with
  | nil => rfl
  | cons reply replies ih => exact (ih _).trans (absorb_state call reply)

theorem absorbAll_parsed (call : Call α) {replies : List (Reply α)}
    (codes : ∀ reply ∈ replies, reply.errCode = 0) :
    (call.absorbAll replies).parsed = call.parsed ++ contents replies := by
  induction replies generalizing call with
  | nil => simp [absorbAll, contents]
  | cons reply replies ih =>
    rw [List.forall_mem_cons] at codes
    have parsed : (call.absorb reply).parsed =
          call.parsed ++ reply.messages.take reply.msgCount := by
      rw [absorb, if_pos codes.1]
      rfl
    have rest := ih (call.absorb reply) codes.2
    rw [parsed, List.append_assoc] at rest
    exact rest

theorem absorbAll_append (call : Call α) (first second : List (Reply α)) :
    call.absorbAll (first ++ second) = (call.absorbAll first).absorbAll second :=
  List.foldl_append

theorem multiHandleReply_chained (call : Call α) {replies : List (Reply α)}
    (types : ∀ reply ∈ replies, reply.type = call.type)
    (chains : ∀ reply ∈ replies, reply.isChained = true) (ring : List (Reply α)) :
    call.multiHandleReply (replies ++ ring) = (call.absorbAll replies).multiHandleReply ring := by
  induction replies generalizing call with
  | nil => rfl
  | cons reply replies ih =>
    rw [List.forall_mem_cons] at types chains
    have rest :=
      ih (call.absorb reply) (fun next listed => by rw [absorb_type]; exact types.2 next listed)
        chains.2
    simp only [List.cons_append, multiHandleReply, types.1, chains.1,
      ne_eq, not_true_eq_false, if_false, if_true]
    exact rest

theorem handleAwait_chained (call : Call α) (multi : call.type.callClass = .multiReply)
    {replies : List (Reply α)} (types : ∀ reply ∈ replies, reply.type = call.type)
    (chains : ∀ reply ∈ replies, reply.isChained = true) :
    call.handleAwait replies = (call.absorbAll replies, []) := by
  have read := multiHandleReply_chained call types chains []
  rw [List.append_nil] at read
  simp only [handleAwait, handleReply, multi, read, multiHandleReply]

theorem handleAwait_chain (call : Call α) (multi : call.type.callClass = .multiReply)
    {front : List (Reply α)} {last : Reply α} (chain : Chain call.type front last) :
    call.handleAwait (front ++ [last]) = (((call.absorbAll front).absorb last).finish .ok, []) := by
  have read := multiHandleReply_chained call chain.front_type chain.front_chained [last]
  simp only [handleAwait, handleReply, multi, read, multiHandleReply,
    absorbAll_type, chain.last_type, chain.last_unchained, ne_eq,
    not_true_eq_false, if_false, Bool.false_eq_true]

theorem await_chain (arrivals : List Nat) (call : Call α)
    (multi : call.type.callClass = .multiReply) (awaiting : call.state = .awaitMsg)
    {front : List (Reply α)} {last : Reply α} (chain : Chain call.type front last)
    (awaited : front.length + 1 ≤ arrivals.sum) :
    call.await [] (front ++ [last]) arrivals =
      (((call.absorbAll front).absorb last).finish .ok, []) := by
  induction arrivals generalizing call front with
  | nil => simp at awaited
  | cons count arrivals ih =>
    rw [await, List.nil_append]
    by_cases partially : count ≤ front.length
    · -- Not the whole chain is visible: the loop goes round once more.
      rw [List.take_append_of_le_length partially, List.drop_append_of_le_length partially,
        handleAwait_chained call multi
          (fun reply listed => chain.front_type reply (List.mem_of_mem_take listed))
          (fun reply listed => chain.front_chained reply (List.mem_of_mem_take listed))]
      simp only [absorbAll_state, awaiting, if_true]
      have rest : Chain (call.absorbAll (front.take count)).type (front.drop count) last := by
        rw [absorbAll_type]
        exact
          ⟨fun reply listed => chain.front_type reply (List.mem_of_mem_drop listed),
            fun reply listed => chain.front_chained reply (List.mem_of_mem_drop listed),
            chain.last_type, chain.last_unchained⟩
      rw [List.sum_cons] at awaited
      rw [ih (call.absorbAll (front.take count)) (by simpa using multi)
          (by simpa using awaiting) rest
          (by rw [List.length_drop]; omega),
        ← absorbAll_append, List.take_append_drop]
    have whole : (front ++ [last]).length ≤ count := by
      simp only [List.length_append, List.length_singleton]
      omega
    rw [List.take_of_length_le whole, List.drop_of_length_le whole,
      handleAwait_chain call multi chain]
    rfl

theorem await_single (arrivals : List Nat) (call : Call α)
    (single : call.type.callClass = .singleReply) (awaiting : call.state = .awaitMsg)
    {reply : Reply α} (sameType : reply.type = call.type) (unchained : reply.isChained = false)
    (uncounted : reply.msgCount = 0) (awaited : 1 ≤ arrivals.sum) :
    (call.await [] [reply] arrivals).1.sent = some (.ok, some reply.errCode) ∧
      (call.await [] [reply] arrivals).2 = [] := by
  induction arrivals with
  | nil => simp at awaited
  | cons count arrivals ih =>
    rw [await, List.nil_append]
    cases count with
    | zero =>
      rw [List.sum_cons, Nat.zero_add] at awaited
      simp only [List.take_zero, List.drop_zero, handleAwait, handleReply,
        single, singleHandleReply, awaiting, if_true]
      exact ih awaited
    | succ count => ?_
    simp only [List.take_succ_cons, List.take_nil, List.drop_succ_cons,
      List.drop_nil, handleAwait, handleReply, single,
      singleHandleReply, sameType, unchained, uncounted, ne_eq,
      not_true_eq_false, if_false, Bool.false_or, decide_false,
      Bool.false_eq_true, finish, List.append_nil, reduceCtorEq, and_true]
    split <;> rfl

end Call

/-! ## The status a client gets -/

@[simp]
theorem Call.handleRequest_type (call : Call α) (needsInit : Bool) (fillError : Option String)
    (written : Bool) :
    (call.handleRequest needsInit fillError written).type = call.type := by
  cases needsInit <;> cases fillError <;> cases written <;> rfl

theorem Call.handleRequest_awaits_iff (type : RequestType) (needsInit : Bool)
    (fillError : Option String) (written : Bool) :
    ((new type : Call α).handleRequest needsInit fillError written).state = .awaitMsg ↔
      needsInit = false ∧ fillError = none ∧ written = true := by
  cases needsInit <;> cases fillError <;> cases written <;>
    simp [handleRequest, finish]

namespace Job

variable (job : Job α)

theorem handled_chained : job.handled.1.Chained ∧ job.handled.1.type = job.type :=
  job.handler.run_chained job.alloc (Responder.chained_init ..)

theorem response_take : job.response.take (grpcQSize - 1 - ([] : List (Reply α)).length) =
      job.response := by
  obtain ⟨chained, -⟩ := job.handled_chained
  obtain ⟨front, last, shape, -, length, -, -⟩ := chained.response (clientCode job.ret)
  have room := chained.room
  apply List.take_of_length_le
  rw [response, shape]
  simp only [Responder.repcount, grpcReplyArrSize, grpcQSize,
    List.length_append, List.length_cons, List.length_nil] at room ⊢
  omega

theorem response_of_single (fits : job.Fits) (single : job.type.callClass = .singleReply) :
    job.handled.1.full = [] ∧ job.handled.1.repMsgcount = 0 := by
  unfold handled
  unfold Fits at fits
  cases handler : job.handler with
  | single answer ret => exact ⟨rfl, rfl⟩
  | listing msgSize elements ret =>
    simp [handler, single] at fits

def waiting : Call α :=
  { Call.new job.type with state := .awaitMsg }

theorem exchange_eq (written : job.Written) :
    job.exchange [] = job.waiting.await [] job.response job.arrivals := by
  obtain ⟨initialized, filled, queued, ipc⟩ := written
  have started :
      (Call.new job.type : Call α).handleRequest job.needsInit job.fillError
          job.written = job.waiting := by
    simp [Call.handleRequest, initialized, filled, queued, waiting]
  rw [exchange, started, if_pos (show job.waiting.state = .awaitMsg from rfl), if_neg ipc,
    job.response_take]

def finalCode : UInt32 :=
  if job.response.length = 1 then clientCode job.ret else 0

theorem exchange_written (fits : job.Fits) (awaited : job.Awaited) (written : job.Written) :
    (job.exchange []).1.sent = some (.ok, some job.finalCode) ∧ (job.exchange []).2 = [] := by
  obtain ⟨chained, sameType⟩ := job.handled_chained
  obtain ⟨front, last, responded, chain, length, count, code⟩ :=
    chained.response (clientCode job.ret)
  rw [sameType] at chain
  change job.response = front ++ [last] at responded
  have finalCode : job.finalCode = last.errCode := by
    rw [Job.finalCode, code, responded, List.length_append, List.length_singleton]
    simp [List.length_eq_zero_iff]
  unfold Awaited at awaited
  rw [responded, List.length_append, List.length_singleton] at awaited
  rw [job.exchange_eq written, responded, finalCode]
  cases class_ : job.type.callClass with
  | noIpc => exact absurd class_ written.2.2.2
  | singleReply =>
    obtain ⟨unfilled, uncounted⟩ := job.response_of_single fits class_
    obtain rfl : front = [] := by
      rw [← List.length_eq_zero_iff, length, unfilled, List.length_nil]
    exact Call.await_single job.arrivals job.waiting class_ rfl
      chain.last_type chain.last_unchained (count.trans uncounted) awaited
  | multiReply =>
    rw [Call.await_chain job.arrivals job.waiting class_ rfl chain awaited]
    exact ⟨congrArg some (congrArg (Prod.mk _) (Call.absorb_status _ last)), rfl⟩

theorem exchange_listed {msgSize : Nat} {elements : List α} {ret : Int}
    (multi : job.type.callClass = .multiReply)
    (listing : job.handler = .listing msgSize elements ret) (sized : 0 < msgSize)
    (fits : msgSize ≤ job.repMaxSize) (awaited : job.Awaited) (written : job.Written)
    (success : job.ret = grpcOk) :
    (job.exchange []).1.parsed = elements := by
  obtain ⟨chained, sameType⟩ := job.handled_chained
  obtain ⟨front, last, responded, chain, -, -, -⟩ := chained.response (clientCode job.ret)
  rw [sameType] at chain
  change job.response = front ++ [last] at responded
  have started :
      ((Responder.init job.type job.stale job.repMaxSize
        job.singleSize).setMultireply msgSize).Lists [] :=
    ⟨Nat.div_pos fits sized, Nat.zero_le _, Nat.zero_le _, rfl,
      by simp [Responder.init, Responder.setMultireply]⟩
  have listed : job.handled.1.Lists elements := by
    rw [Job.ret, handled, listing] at success
    rw [handled, listing]
    exact
      listElements_lists job.alloc ret elements
        ((Responder.chained_init ..).setMultireply msgSize) started success
  obtain ⟨content, codes⟩ := listed.response chained
  have answered : job.response = job.handled.1.response 0 := by
    rw [response, success, clientCode_grpcOk]
  rw [← answered, responded] at content codes
  unfold Awaited at awaited
  rw [responded, List.length_append, List.length_singleton] at awaited
  rw [job.exchange_eq written, responded,
    Call.await_chain job.arrivals job.waiting multi rfl chain awaited]
  have parsed := job.waiting.absorbAll_parsed codes
  rw [content, Call.absorbAll_append] at parsed
  exact parsed

theorem exchange_ring (fits : job.Fits) (awaited : job.Awaited) :
    (job.exchange []).2 = [] := by
  by_cases written : job.Written
  · exact (job.exchange_written fits awaited written).2
  unfold exchange
  dsimp only
  split_ifs with started local_
  · -- Nothing is awaited from the worker by a call that does without it.
    cases job.arrivals with
    | nil => rfl
    | cons count arrivals =>
      simp [Call.await, Call.handleAwait, Call.handleReply, Call.finish, Call.new, local_]
  · obtain ⟨initialized, filled, queued⟩ := (Call.handleRequest_awaits_iff ..).mp started
    exact absurd ⟨initialized, filled, queued, local_⟩ written
  · rfl

end Job

theorem serve_written (jobs : List (Job α)) (fits : ∀ job ∈ jobs, job.Fits)
    (awaited : ∀ job ∈ jobs, job.Awaited) {job : Job α} {sent : Option (RpcStatus × Option UInt32)}
    (served : (job, sent) ∈ jobs.zip (serve jobs [])) (written : job.Written) :
    sent = some (.ok, some job.finalCode) := by
  induction jobs with
  | nil => simp at served
  | cons first jobs ih =>
    rw [List.forall_mem_cons] at fits awaited
    have drained := first.exchange_ring fits.1 awaited.1
    simp only [serve, drained, List.zip_cons_cons, List.mem_cons, Prod.mk.injEq] at served
    rcases served with ⟨rfl, rfl⟩ | later
    · exact (job.exchange_written fits.1 awaited.1 written).1
    · exact ih fits.2 awaited.2 later

/-- In every sequence of requests, the status sent to the client carries the
code that the handler returned exactly where that code is success or the
response is a single message: a chained message resets the status. -/
theorem serve_status_iff (jobs : List (Job α)) (fits : ∀ job ∈ jobs, job.Fits)
    (awaited : ∀ job ∈ jobs, job.Awaited) {job : Job α} {sent : Option (RpcStatus × Option UInt32)}
    (served : (job, sent) ∈ jobs.zip (serve jobs [])) (written : job.Written)
    (returned : GrpcRet job.ret) :
    sent = some (.ok, some (clientCode job.ret)) ↔ job.ret = grpcOk ∨ job.response.length = 1 := by
  rw [serve_written jobs fits awaited served written, Job.finalCode]
  by_cases single : job.response.length = 1
  · simp [single]
  · simp only [single, if_false, or_false, Option.some.injEq, Prod.mk.injEq, true_and]
    exact eq_comm.trans (clientCode_eq_zero_iff returned)

/-- A request whose response is read in rounds that find one message each. -/
def jobOf (type : RequestType) (handler : Handler Nat) : Job Nat where
  type := type
  needsInit := false
  fillError := none
  written := true
  stale := ⟨type, true, 7, 7, []⟩
  repMaxSize := 1542
  singleSize := 352
  alloc := fun index => index = 1
  handler := handler
  arrivals := [0, 1, 1]

/-- A listing with two elements to a message, for which there is one more mbuf
and not two. -/
def truncatedListing : Job Nat :=
  jobOf .listInterfaces (.listing 771 [1, 2, 3, 4, 5] grpcOk)

def missingNat : Job Nat :=
  jobOf .getNat (.single none (grpcError 201))

theorem missingNat_after_truncatedListing : some (RpcStatus.ok, some 201) =
        some (RpcStatus.ok, some (clientCode missingNat.ret)) ↔
      missingNat.ret = grpcOk ∨ missingNat.response.length = 1 := by
  have sent : serve [truncatedListing, missingNat] [] =
        [some (.ok, some 0), some (.ok, some 201)] := by
    decide +kernel
  apply serve_status_iff [truncatedListing, missingNat]
  · simp [truncatedListing, missingNat, jobOf, Job.Fits, RequestType.callClass]
  · simp only [List.forall_mem_cons, Job.Awaited, List.not_mem_nil,
      false_implies, implies_true, and_true]
    decide +kernel
  · rw [sent]
    simp
  · exact ⟨rfl, rfl, rfl, by decide⟩
  · exact Or.inr ⟨201, by decide, by decide +kernel⟩

/-- The listing runs out of memory with two messages filled, and the client is
told that it succeeded. -/
theorem truncatedListing_reported_ok :
    truncatedListing.ret = grpcErrOutOfMemory ∧ clientCode truncatedListing.ret = 208 ∧
      truncatedListing.response.length = 2 ∧
      serve [truncatedListing] [] = [some (.ok, some 0)] := by
  decide +kernel

/-! ## Listings that there is room for -/

/-- A listing with some elements written, `capacity` of them in every message
but the last. -/
structure Responder.Fills (responder : Responder α) (capacity written : Nat) : Prop where
  holds : responder.repCapacity = capacity
  full : ∀ reply ∈ responder.full, reply.msgCount = capacity
  count : responder.full.length * capacity + responder.repMsgcount = written
  count_le : responder.repMsgcount ≤ capacity

section Room

variable {alloc : Nat → Bool} {responder : Responder α} {capacity written : Nat}

theorem Responder.Fills.allocReply (fills : responder.Fills capacity written)
    (bounded : capacity ≤ 65535) (full : capacity ≤ responder.repMsgcount)
    (room : written < capacity * grpcReplyArrSize)
    (mbufs : ∀ index, 0 < index → index * capacity = written → alloc index = true) :
    ∃ next, responder.allocReply alloc = some next ∧ next.Fills capacity written ∧
      next.repMsgcount = 0 := by
  have filled : responder.repcount * capacity = written := by
    have whole : responder.repMsgcount = capacity := Nat.le_antisymm fills.count_le full
    rw [Responder.repcount, Nat.succ_mul, ← fills.count, whole]
  have within : responder.repcount < grpcReplyArrSize := by
    rw [← filled, Nat.mul_comm] at room
    exact Nat.lt_of_mul_lt_mul_left room
  rw [Responder.allocReply, fills.holds, if_neg (Nat.not_lt.mpr bounded),
    if_neg (Nat.not_le.mpr within), mbufs responder.repcount (Nat.succ_pos _) filled]
  refine ⟨_, rfl, ⟨rfl, ?_, ?_, Nat.zero_le _⟩, rfl⟩
  · intro reply listed
    rcases List.mem_append.mp listed with before | current
    · exact fills.full reply before
    · rw [List.mem_singleton.mp current]
  · rw [List.length_append]
    exact filled

theorem Responder.Fills.addReply (fills : responder.Fills capacity written)
    (positive : 0 < capacity) (bounded : capacity ≤ 65535)
    (room : written < capacity * grpcReplyArrSize)
    (mbufs : ∀ index, 0 < index → index * capacity = written → alloc index = true) (element : α) :
    ∃ next, responder.addReply alloc element = some next ∧ next.Fills capacity (written + 1) := by
  rw [Responder.addReply, fills.holds]
  split
  · rename_i full
    obtain ⟨next, allocated, kept, fresh⟩ := fills.allocReply bounded full room mbufs
    refine ⟨next.write element, by rw [allocated]; rfl, kept.holds, kept.full, ?_, ?_⟩
    · exact congrArg Nat.succ kept.count
    · change next.repMsgcount + 1 ≤ capacity
      rw [fresh]
      exact positive
  · rename_i free
    exact ⟨_, rfl, fills.holds, fills.full, congrArg Nat.succ fills.count, Nat.lt_of_not_le free⟩

theorem listElements_fills (elements : List α) (fills : responder.Fills capacity written)
    (positive : 0 < capacity) (bounded : capacity ≤ 65535)
    (room : written + elements.length ≤ capacity * grpcReplyArrSize)
    (mbufs : ∀ index, 0 < index → index * capacity < written + elements.length →
      alloc index = true) (ret : Int) :
    (listElements alloc ret elements responder).2 = ret ∧
      (listElements alloc ret elements responder).1.Fills capacity (written + elements.length) := by
  induction elements generalizing responder written with
  | nil => exact ⟨rfl, fills⟩
  | cons element elements ih =>
    rw [List.length_cons, Nat.add_comm elements.length, ← Nat.add_assoc] at room mbufs ⊢
    obtain ⟨next, added, further⟩ :=
      fills.addReply positive bounded (by omega)
        (fun index later here => mbufs index later (by omega)) element
    rw [listElements, added]
    exact ih further room mbufs

theorem Responder.Fills.response (fills : responder.Fills capacity written) (code : UInt32) :
    ∀ reply ∈ responder.response code, reply.msgCount ≤ capacity := by
  have full := fills.full
  unfold Responder.response
  cases earlier : responder.full with
  | nil =>
    intro reply listed
    rw [List.mem_singleton.mp listed]
    exact fills.count_le
  | cons first rest => ?_
  rw [earlier, List.forall_mem_cons] at full
  intro reply listed
  simp only [List.cons_append, List.mem_cons, List.mem_append, List.not_mem_nil,
    or_false] at listed
  rcases listed with rfl | between | rfl
  · exact full.1.le
  · exact (full.2 reply between).le
  · exact fills.count_le

end Room

/-- A listing that there are messages for comes to the client as it was made,
and every message ends within its mbuf. -/
theorem listing_lossless (job : Job α) {msgSize : Nat} {elements : List α}
    (multi : job.type.callClass = .multiReply)
    (listing : job.handler = .listing msgSize elements grpcOk)
    (sized : 0 < msgSize) (fits : msgSize ≤ job.repMaxSize) (bounded : job.repMaxSize ≤ 65535)
    (room : elements.length ≤ job.repMaxSize / msgSize * grpcReplyArrSize)
    (mbufs : ∀ index, 0 < index → index * (job.repMaxSize / msgSize) < elements.length →
      job.alloc index = true)
    (awaited : job.Awaited) (written : job.Written) :
    (job.exchange []).1.parsed = elements ∧
      ∀ reply ∈ job.response, reply.msgCount * msgSize ≤ job.repMaxSize := by
  have started :
      ((Responder.init job.type job.stale job.repMaxSize
        job.singleSize).setMultireply msgSize).Fills (job.repMaxSize / msgSize) 0 :=
    ⟨rfl, nofun, by simp [Responder.init, Responder.setMultireply], Nat.zero_le _⟩
  obtain ⟨success, filled⟩ :=
    @listElements_fills α job.alloc _ _ 0 elements started (Nat.div_pos fits sized)
      ((Nat.div_le_self _ _).trans bounded) (by rwa [Nat.zero_add]) (by rwa [Nat.zero_add]) grpcOk
  have handled : job.handled =
        listElements job.alloc grpcOk elements
          ((Responder.init job.type job.stale job.repMaxSize
            job.singleSize).setMultireply msgSize) := by
    rw [Job.handled, listing]
    rfl
  rw [← handled] at success filled
  refine ⟨job.exchange_listed multi listing sized fits awaited written success, ?_⟩
  intro reply listed
  exact
    (Nat.mul_le_mul_right msgSize (filled.response _ reply listed)).trans (Nat.div_mul_le_self _ _)

/-- Two elements to a message, of which the last is full. -/
theorem listing_lossless_four :
    ((jobOf .listInterfaces (.listing 771 [1, 2, 3, 4] grpcOk)).exchange []).1.parsed =
        [1, 2, 3, 4] ∧
      ∀ reply ∈ (jobOf .listInterfaces (.listing 771 [1, 2, 3, 4] grpcOk)).response,
        reply.msgCount * 771 ≤ 1542 := by
  refine
    listing_lossless (jobOf .listInterfaces (.listing 771 [1, 2, 3, 4] grpcOk)) rfl rfl
      (by decide) (by decide) (by decide) (by decide) ?_ (by unfold Job.Awaited; decide +kernel)
      ⟨rfl, rfl, rfl, by decide⟩
  intro index later within
  have first : index = 1 := by
    change index * 2 < 4 at within
    omega
  rw [first]
  rfl

end DpService.Grpc

import DpService.Flow.NatPorts
import DpService.Foundations.Arena
import DpService.Foundations.Holders

/-!
# The flow table

Flow values are allocated objects that count their references.  The flow
table files a value under the key of each direction, the key cache remembers
the value of the last packet, and every hardware rule of a flow holds a
reference as well.  A value whose count reaches zero gives its NAT port back
and is freed.
-/

namespace DpService.Flow

open Foundations Packet Dataplane

/-! ## Flow values -/

inductive FlowNatType where
  | none
  | vip
  | networkLocal
  | networkNeigh
  | asTarget
  | lbLocalNeighTraffic
  | lbRecirc
  | lbForward
  deriving DecidableEq, Repr

inductive TcpState where
  | none
  | newSyn
  | newSynack
  | established
  | finwait
  | rstFin
  deriving DecidableEq, Repr

inductive FwallAction where
  | drop
  | accept
  deriving DecidableEq, Repr

structure FlowFlags where
  srcNat : Bool
  dstNat : Bool
  dstLb : Bool
  firewall : Bool
  srcNat64 : Bool
  default : Bool
  dstNatFwd : Bool
  deriving DecidableEq, Repr

namespace FlowFlags

def none : FlowFlags :=
  ⟨false, false, false, false, false, false, false⟩

def hasNoFlags (flags : FlowFlags) : Bool :=
  flags == none

def hasFlagNf (flags : FlowFlags) : Bool :=
  flags.srcNat64 || flags.srcNat || flags.dstNat || flags.dstLb || flags.dstNatFwd

end FlowFlags

structure FlowNfInfo where
  vni : Vni
  icmpErrIpCksum : UInt16
  natType : FlowNatType
  underlayDst : Ipv6
  l4Type : UInt8
  deriving DecidableEq, Repr

/-- `struct flow_value` with offloading reduced to `rules`, the number of
hardware rules that hold a reference. -/
structure FlowValue where
  org : FlowKey
  reply : FlowKey
  nfInfo : FlowNfInfo
  timestamp : UInt64
  timeoutValue : UInt32
  createdPortId : PortId
  flowFlags : FlowFlags
  fwallOrg : FwallAction
  fwallReply : FwallAction
  tcpState : TcpState
  firstSynFlowDir : FlowDir
  refCount : Nat
  rules : Nat
  deriving DecidableEq, Repr

def dpFlowDefaultTimeout : UInt32 := 30
def dpFlowTcpExtendedTimeout : UInt32 := 86400

def FlowValue.fresh (key : FlowKey) (natType : FlowNatType) (port : PortId) : FlowValue where
  org := key
  reply := FlowKey.zeroed
  nfInfo :=
    { vni := 0
      icmpErrIpCksum := 0
      natType := natType
      underlayDst := Ipv6.zero
      l4Type := 0 }
  timestamp := 0
  timeoutValue := dpFlowDefaultTimeout
  createdPortId := port
  flowFlags := FlowFlags.none
  fwallOrg := .drop
  fwallReply := .drop
  tcpState := .none
  firstSynFlowDir := .org
  refCount := 1
  rules := 0

def FlowValue.setNatType (value : FlowValue) (natType : FlowNatType) :
    FlowValue :=
  { value with nfInfo := { value.nfInfo with natType } }

def natDestination : IpAddress → Ipv4
  | .v4 address => address
  | .v6 address => dpGetIpv6Nat64 address

def dpFlowToSnatKeys (value : FlowValue) : Option (PortmapKey × PortoverloadKey) :=
  match value.reply.l3Dst with
  | .v6 _ => none
  | .v4 natIp =>
    some
      ({ vni := value.nfInfo.vni
         srcIp := value.org.l3Src
         ifaceSrcPort :=
           if value.org.proto = ipprotoIcmp ∨
               value.org.proto = ipprotoIcmpv6 then
             value.org.portDst
           else value.org.src },
        { natIp := natIp
          natPort := value.reply.portDst
          dstIp := natDestination value.org.l3Dst
          dstPort := value.org.portDst
          l4Type := value.org.proto })

def dpRemoveNetworkSnatPort (value : FlowValue) (ports : NatPorts) : NatPorts :=
  match dpFlowToSnatKeys value with
  | none => ports
  | some (portmapKey, overloadKey) =>
    -- the port that created a flow is registered for good
    (dpDeleteSnatEntries ports portmapKey overloadKey).decUsedPortCnt value.createdPortId

def dpFreeNetworkNatPort (value : FlowValue) (ports : NatPorts) : NatPorts :=
  if value.nfInfo.natType = .networkLocal then dpRemoveNetworkSnatPort value ports
  else ports

/-! ## The store -/

/-- The two key buffers of `dp_cntrack.c`.  `cached` is `cached_flow_val`, and
`prev_key` points to `other` exactly when there is one. -/
structure KeyCache where
  curr : FlowKey
  other : FlowKey
  cached : Option Handle
  deriving DecidableEq, Repr

structure FlowStore where
  arena : Arena
  value : Handle → FlowValue
  table : FiniteTable FlowKey Handle
  cache : KeyCache
  ports : NatPorts

namespace FlowStore

def empty : FlowStore where
  arena := Arena.empty
  value := fun _ => FlowValue.fresh FlowKey.zeroed .none 0
  table := ∅
  cache := ⟨FlowKey.zeroed, FlowKey.zeroed, none⟩
  ports := NatPorts.empty

def modify (store : FlowStore) (f : Handle) (change : FlowValue → FlowValue) :
    FlowStore :=
  { store with value := Function.update store.value f (change (store.value f)) }

def Live (store : FlowStore) (f : Handle) : Prop :=
  f < store.arena.next ∧ store.arena.freed f = 0

end FlowStore

section Operations

variable (store : FlowStore)

def dpCntrackFlushCache : FlowStore :=
  { store with cache := { store.cache with cached := none } }

def dpCacheFlowVal (f : Handle) : FlowStore :=
  { store with
    cache :=
      { curr := store.cache.other
        other := store.cache.curr
        cached := some f } }

def dpFreeFlow (f : Handle) : FlowStore :=
  dpCntrackFlushCache
    { store with
      ports := dpFreeNetworkNatPort (store.value f) store.ports
      arena := store.arena.free f }

def dpRefInc (f : Handle) : FlowStore :=
  store.modify f fun value => { value with refCount := value.refCount + 1 }

def dpRefDec (f : Handle) : FlowStore :=
  let decreased := store.modify f fun value => { value with refCount := value.refCount - 1 }
  if (store.value f).refCount = 1 then dpFreeFlow decreased f else decreased

/-- `rte_hash` replaces what is filed under a key already. -/
def dpAddFlow (added : Bool) (key : FlowKey) (f : Handle) : FlowStore × Bool :=
  if added then ({ store with table := store.table.insert key f }, true)
  else (store, false)

/-- The reference given up is one of `f`, whatever was filed under the key. -/
def dpDeleteFlow (key : FlowKey) (f : Handle) : FlowStore × Bool :=
  match store.table.lookup key with
  | none => (store, false)
  | some _ =>
    (dpCntrackFlushCache
        (dpRefDec { store with table := store.table.erase key } f),
      true)

end Operations

structure InsertOutcomes where
  alloc : Bool
  addOrg : Bool
  addReply : Bool
  deriving DecidableEq, Repr

def InsertOutcomes.succeed : InsertOutcomes where
  alloc := true
  addOrg := true
  addReply := true

def flowTableInsertEntry (outcomes : InsertOutcomes) (store : FlowStore) (key : FlowKey)
    (natType : FlowNatType) (port : PortId) : FlowStore × Option Handle :=
  if !outcomes.alloc then (store, none)
  else
    let f := store.arena.next
    let allocated :=
      { store with
        arena := store.arena.alloc
        value := Function.update store.value f (FlowValue.fresh key natType port) }
    match dpAddFlow allocated outcomes.addOrg key f with
    | (store, false) => ({ store with arena := store.arena.free f }, none)
    | (store, true) =>
      let reply := dpInvertFlowKey key
      let keyed := store.modify f fun value => { value with reply }
      match dpAddFlow keyed outcomes.addReply reply f with
      | (store, true) => (dpRefInc store f, some f)
      | (store, false) =>
        match dpDeleteFlow store key f with
        | (store, true) => (store, none)
        | (store, false) => ({ store with arena := store.arena.free f }, none)

/-- The steps that the NAT nodes share when they rewrite a flow: the key of
the answers is filed anew. -/
def replaceReplyKey (added : Bool) (store : FlowStore) (f : Handle)
    (rewrite : FlowKey → FlowKey) : FlowStore × Bool :=
  let (deleted, _) := dpDeleteFlow store (store.value f).reply f
  let rewritten := deleted.modify f fun value => { value with reply := rewrite value.reply }
  match dpAddFlow rewritten added (rewritten.value f).reply f with
  | (store, false) => (store, false)
  | (store, true) => (dpRefInc store f, true)

/-! ## Aging and removal -/

def dropRule (store : FlowStore) (f : Handle) : FlowStore :=
  if (store.value f).rules = 0 then store
  else
    dpRefDec
      (store.modify f fun value => { value with rules := value.rules - 1 }) f

def dropRules : (count : Nat) → FlowStore → Handle → FlowStore
  | 0, store, _ => store
  | count + 1, store, f => dropRules count (dropRule store f) f

/-- `rte_hash_iterate`.  What is done at an entry only removes that entry, so
the entries can be listed in advance. -/
def sweep (visit : FlowStore → FlowKey → Handle → FlowStore) (store : FlowStore) :
    FlowStore :=
  store.table.entries.foldl (fun store entry => visit store entry.1 entry.2) store

def FlowValue.timedOut (value : FlowValue) (now timerHz : UInt64) : Bool :=
  now - value.timestamp > timerHz * value.timeoutValue.toUInt64

/-- `expired` is the number of rules of an entry's flow that are found to have
expired in hardware. -/
def ageEntry (now timerHz : UInt64) (expired : FlowKey → Nat) (store : FlowStore)
    (key : FlowKey) (f : Handle) : FlowStore :=
  let store := dropRules (expired key) store f
  if (store.value f).timedOut now timerHz then (dpDeleteFlow store key f).1
  else store

def dpProcessAgedFlowsNonOffload
    (now timerHz : UInt64) (expired : FlowKey → Nat) (store : FlowStore) :
    FlowStore :=
  sweep (ageEntry now timerHz expired) store

/-- What the functions `dp_remove_*_flows` do to the entries they choose. -/
def dpRemoveFlows (chosen : FlowKey → FlowValue → Bool) (stored : FlowKey → Nat)
    (store : FlowStore) : FlowStore :=
  sweep
    (fun store key f =>
      if chosen key (store.value f) then (dpDeleteFlow (dropRules (stored key) store f) key f).1
      else store)
    store

def dpRemoveNatFlows (portId : PortId) (natType : FlowNatType) :
    (FlowKey → Nat) → FlowStore → FlowStore :=
  dpRemoveFlows fun _ value => value.createdPortId == portId && value.nfInfo.natType == natType

def dpRemoveNeighnatFlows (ipv4 : Ipv4) (vni : Vni) (minPort maxPort : UInt16) :
    (FlowKey → Nat) → FlowStore → FlowStore :=
  dpRemoveFlows fun key _ =>
    key.vni == vni && key.l3Dst == .v4 ipv4 && minPort ≤ key.portDst && key.portDst < maxPort

def dpRemoveIfaceFlows (portId : PortId) (ipv4 : Ipv4) (vni : Vni) :
    (FlowKey → Nat) → FlowStore → FlowStore :=
  dpRemoveFlows fun key value =>
    value.createdPortId == portId || (key.vni == vni && value.org.l3Dst == .v4 ipv4)

def dpRemoveLbtargetFlows (ulAddr : Ipv6) : (FlowKey → Nat) → FlowStore → FlowStore :=
  dpRemoveFlows fun _ value => value.nfInfo.underlayDst == ulAddr

/-! ## The operations -/

variable {store : FlowStore}

def FlowValue.Undecided (value : FlowValue) : Prop :=
  value.flowFlags = FlowFlags.none

@[simp]
theorem FlowStore.modify_value_self
    (store : FlowStore) (f : Handle) (change : FlowValue → FlowValue) :
    (store.modify f change).value f = change (store.value f) :=
  Function.update_self ..

theorem FlowStore.modify_value_of_ne
    (store : FlowStore) {f g : Handle} (change : FlowValue → FlowValue)
    (different : g ≠ f) : (store.modify f change).value g = store.value g :=
  Function.update_of_ne different ..

theorem FlowStore.modify_modify
    (store : FlowStore) (f : Handle) (first second : FlowValue → FlowValue) :
    (store.modify f first).modify f second = store.modify f fun value => second (first value) := by
  simp [FlowStore.modify]

structure Spare (store : FlowStore) (f : Handle) : Prop where
  live : store.Live f
  references : (store.table.holders f).card + (store.value f).rules + 1 ≤ (store.value f).refCount

theorem FlowStore.live_free_iff (store : FlowStore) (f g : Handle) :
    FlowStore.Live { store with arena := store.arena.free f } g ↔ store.Live g ∧ g ≠ f := by
  unfold FlowStore.Live Arena.free
  by_cases same : g = f
  · subst same
    simp
  · simp [same]

def dropReference (value : FlowValue) : FlowValue :=
  { value with refCount := value.refCount - 1 }

theorem dpRefDec_eq (store : FlowStore) (f : Handle) : dpRefDec store f =
      if (store.value f).refCount = 1 then dpFreeFlow (store.modify f dropReference) f
      else store.modify f dropReference :=
  rfl

/-- An entry is taken out, and nothing is remembered any more. -/
def erased (store : FlowStore) (key : FlowKey) : FlowStore :=
  dpCntrackFlushCache { store with table := store.table.erase key }

theorem flush_dpRefDec (store : FlowStore) (f : Handle) : dpCntrackFlushCache (dpRefDec store f) =
      dpRefDec (dpCntrackFlushCache store) f := by
  have kept : ((dpCntrackFlushCache store).value f).refCount = (store.value f).refCount := rfl
  unfold dpRefDec
  rw [kept]
  dsimp only
  split
  · rfl
  · rfl

theorem dpDeleteFlow_of_filed {key : FlowKey} {g : Handle} (filed : store.table.lookup key = some g)
    (f : Handle) :
    (dpDeleteFlow store key f).1 = dpRefDec (erased store key) f := by
  unfold dpDeleteFlow
  rw [filed]
  exact flush_dpRefDec { store with table := store.table.erase key } f

theorem dpDeleteFlow_of_absent
    {key : FlowKey} (absent : store.table.lookup key = none) (f : Handle) :
    (dpDeleteFlow store key f).1 = store := by
  unfold dpDeleteFlow
  rw [absent]

def FlowValue.created (key : FlowKey) (natType : FlowNatType) (port : PortId) :
    FlowValue :=
  { FlowValue.fresh key natType port with
    reply := dpInvertFlowKey key
    refCount := 2 }

def inserted (store : FlowStore) (key : FlowKey) (natType : FlowNatType)
    (port : PortId) : FlowStore :=
  { store with
    arena := store.arena.alloc
    value := Function.update store.value store.arena.next (FlowValue.created key natType port)
    table :=
      (store.table.insert key store.arena.next).insert (dpInvertFlowKey key) store.arena.next }

theorem flowTableInsertEntry_succeed (store : FlowStore) (key : FlowKey) (natType : FlowNatType)
    (port : PortId) :
    flowTableInsertEntry InsertOutcomes.succeed store key natType port =
      (inserted store key natType port, some store.arena.next) := by
  simp [flowTableInsertEntry, InsertOutcomes.succeed, dpAddFlow, dpRefInc,
    FlowStore.modify, inserted, FlowValue.created, FlowValue.fresh]

section Inserted

variable (store : FlowStore) (key : FlowKey) (natType : FlowNatType)
variable (port : PortId)

theorem inserted_value_new : (inserted store key natType port).value store.arena.next =
      FlowValue.created key natType port :=
  Function.update_self ..

variable {store} in
theorem inserted_value_of_live {f : Handle} (live : store.Live f) :
    (inserted store key natType port).value f = store.value f :=
  Function.update_of_ne (Nat.ne_of_lt live.1) ..

theorem inserted_lookup (other : FlowKey) : (inserted store key natType port).table.lookup other =
      if other = key ∨ other = dpInvertFlowKey key then some store.arena.next
      else store.table.lookup other := by
  change
    ((store.table.insert key store.arena.next).insert (dpInvertFlowKey key)
      store.arena.next).lookup other = _
  rw [FiniteTable.lookup_insert_eq, FiniteTable.lookup_insert_eq]
  by_cases reply : other = dpInvertFlowKey key
  · rw [if_pos reply, if_pos (Or.inr reply)]
  rw [if_neg reply]
  by_cases org : other = key
  · rw [if_pos org, if_pos (Or.inl org)]
  · rw [if_neg org, if_neg (not_or.mpr ⟨org, reply⟩)]

end Inserted

end DpService.Flow

import DpService.Flow.Sharing
import DpService.Nodes.Forwarding

/-!
# What the nodes do to the flows

A packet brings its flow along from `conntrack` on.  A flow that nobody has
decided about when the packet gets to the NAT nodes is the flow of that very
packet, and it has both of its references, so that a NAT node can exchange the
key of its answers.
-/

namespace DpService.Nodes

open Foundations Packet Dataplane Flow

variable {after : FlowStore} {m : Mbuf} {f : Handle} {df : DpFlow} {outcomes : ConntrackOutcomes}

/-! ## Packets and their flows -/

/-- The key was built from the packet's own headers. -/
structure Matches (org : FlowKey) (m : Mbuf) : Prop where
  addresses : keyAddresses m.df = some (org.l3Dst, org.l3Src)
  proto : org.proto = m.df.l4Type
  dstPort : org.portDst = natDstPort m.df
  srcPort :
    (if org.proto = ipprotoIcmp ∨ org.proto = ipprotoIcmpv6 then org.portDst
      else org.src) = natSrcPort m.df
  frameDst : m.df.l3Type = etherTypeIpv6 → ipv6Dst m.frame = m.df.dst.addr6

/-- The flow of the packet has not been freed. -/
def Follows (store : FlowStore) (m : Mbuf) : Prop :=
  ∀ f, m.df.conntrack = some f → store.Live f

/-- The packet can be the one that its flow is decided by. -/
def Ready (store : FlowStore) (m : Mbuf) : Prop :=
  ∀ f, m.df.conntrack = some f → (store.value f).Undecided →
    (store.value f).refCount = 2 ∧ (m.df.flowDir = .org → Matches (store.value f).org m)

/-- The nodes between `conntrack` and the decision about a flow. -/
def awaits : Node → Bool
  | .lb | .dnat | .ipv4Lookup | .ipv6Lookup | .snat => true
  | _ => false

/-- Besides, the key of the first direction of a flow stays. -/
structure Evolves (before after : FlowStore) : Prop extends Outlasts before after where
  org : ∀ f, before.Live f → (after.value f).org = (before.value f).org

theorem Evolves.of_unmoved {before : FlowStore} (unmoved : Unmoved before after) :
    Evolves before after :=
  ⟨unmoved.outlasts, fun f _ => unmoved.org f⟩

theorem Evolves.trans {first second third : FlowStore} (left : Evolves first second)
    (right : Evolves second third) : Evolves first third where
  toOutlasts := left.toOutlasts.trans right.toOutlasts
  org := fun f live => (right.org f (left.live f live)).trans (left.org f live)

theorem Evolves.follows {before : FlowStore} (evolves : Evolves before after)
    (follows : Follows before m) : Follows after m :=
  fun f carried => evolves.live f (follows f carried)

theorem Evolves.ready {before : FlowStore} (evolves : Evolves before after)
    (follows : Follows before m) (ready : Ready before m) : Ready after m := by
  intro f carried undecided
  have live := follows f carried
  obtain ⟨before, counts⟩ := evolves.undecided f live undecided
  rw [counts, evolves.org f live]
  exact ready f carried before

/-- Ports are left alone, or one is given away. -/
inductive PortVisit (before after : NatPorts) : Prop
  | unchanged (same : Unchanged before after)
  | allocated (key : PortoverloadKey) (allocation : Allocation)
      (allocates : Allocates before after key allocation)

theorem PortVisit.refl (ports : NatPorts) : PortVisit ports ports :=
  .unchanged (Unchanged.refl ports)

/-- What a visit of a node does to the flows. -/
structure Advances (demands : Demands) (before after : FlowStore) : Prop where
  shared : Shared demands after
  evolves : Evolves before after
  ports : PortVisit before.ports after.ports

variable {demands : Demands} {store : FlowStore}

theorem Advances.refl (shared : Shared demands store) : Advances demands store store :=
  ⟨shared, .of_unmoved (Unmoved.refl store), PortVisit.refl store.ports⟩

theorem Advances.trans {middle : FlowStore} (first : Advances demands store middle)
    (ports : middle.ports = store.ports)
    (second : Advances demands middle after) : Advances demands store after where
  shared := second.shared
  evolves := first.evolves.trans second.evolves
  ports := ports ▸ second.ports

theorem Advances.modify (shared : Shared demands store) (live : store.Live f)
    {change : FlowValue → FlowValue}
    (quiet : Quiet (store.value f) (change (store.value f)))
    (counted : (store.table.holders f).card + (change (store.value f)).rules ≤
        (change (store.value f)).refCount)
    (counts : (change (store.value f)).Undecided →
      (change (store.value f)).refCount = (store.value f).refCount ∧
        (change (store.value f)).rules = (store.value f).rules) :
    Advances demands store (store.modify f change) := by
  obtain ⟨sustained, outlasts⟩ :=
    shared.toSustained.modify live quiet.org quiet.reply counted
      fun now => ⟨quiet.undecided now, counts now⟩
  exact
    ⟨⟨sustained, shared.toPorted.modify quiet, shared.coherent.modify quiet.org quiet.reply⟩,
      ⟨outlasts, fun g _ => (FlowStore.modify_keys quiet.org quiet.reply g).1⟩,
      PortVisit.refl store.ports⟩

theorem Advances.modify_of_counts (shared : Shared demands store) (live : store.Live f)
    {change : FlowValue → FlowValue}
    (quiet : Quiet (store.value f) (change (store.value f)))
    (rules : (change (store.value f)).rules = (store.value f).rules)
    (refCount : (change (store.value f)).refCount = (store.value f).refCount) :
    Advances demands store (store.modify f change) := by
  apply Advances.modify shared live quiet
  · rw [rules, refCount]
    exact shared.counted f live
  · exact fun _ => ⟨refCount, rules⟩

theorem Advances.setPorts (shared : Shared demands store) {ports : NatPorts}
    (unchanged : Unchanged store.ports ports) :
    Advances demands store { store with ports } :=
  ⟨shared.setPorts unchanged, .of_unmoved (Unmoved.setPorts store ports), .unchanged unchanged⟩

theorem Advances.leak (shared : Shared demands store) (tolerated : ¬ demands.owned)
    {ports : NatPorts} {key : PortoverloadKey} {allocation : Allocation}
    (allocates : Allocates store.ports ports key allocation) :
    Advances demands store { store with ports } :=
  ⟨shared.leak tolerated allocates, .of_unmoved (Unmoved.setPorts store ports),
    .allocated key allocation allocates⟩

theorem Advances.rekey {start : FlowStore} (shared : Shared demands store) (live : store.Live f)
    (undecided : (store.value f).Undecided) (two : (store.value f).refCount = 2)
    (decided : Decided store start f) (rewrite : FlowKey → FlowKey)
    (vni : (rewrite (start.value f).reply).vni = (start.value f).org.vni)
    (taken : ∀ refCount,
      PortTaken demands store.ports start.ports ((start.value f).rekeyed rewrite refCount)) :
    ∃ after, replaceReplyKey true start f rewrite = (after, true) ∧
      Advances demands store after ∧ ¬ (after.value f).Undecided := by
  obtain ⟨after, result, sharedAfter, rekeys, ports⟩ :=
    shared.rekey live undecided two decided rewrite vni taken
  refine ⟨after, result,
    ⟨sharedAfter, ⟨⟨fun g => (rekeys.live_iff g).mpr, ?_⟩, ?_⟩, ?_⟩, rekeys.decided⟩
  · intro g _ now
    have different : g ≠ f := by
      intro same
      subst same
      exact rekeys.decided now
    rw [rekeys.others g different] at now ⊢
    exact ⟨now, rfl⟩
  · intro g _
    by_cases same : g = f
    · rw [same]
      exact rekeys.org
    · rw [rekeys.others g same]
  rw [ports]
  rcases taken 0 with ⟨_, unchanged⟩ | ⟨_, key, allocation, allocates, _⟩
  · exact .unchanged unchanged
  · exact .allocated key allocation allocates

/-! ## `conntrack` -/

/-- The packet is an ICMP error, whose key is that of the packet it quotes. -/
def isIcmpError (df : DpFlow) : Prop :=
  df.l4Type = ipprotoIcmp ∧ df.l4Info.icmpType = icmpTypeError

theorem buildKeyPorts_matches {key built : FlowKey}
    (addresses : keyAddresses m.df = some (key.l3Dst, key.l3Src))
    (proto : key.proto = m.df.l4Type) (ordinary : ¬ isIcmpError m.df)
    (frameDst : m.df.l3Type = etherTypeIpv6 → ipv6Dst m.frame = m.df.dst.addr6)
    (result : buildKeyPorts m.df key m.frame = (built, true)) :
    Matches built m := by
  unfold buildKeyPorts at result
  split at result
  · rename_i transport
    rw [← (Prod.mk.inj result).1]
    have notIcmp : ¬ (m.df.l4Type = ipprotoIcmp ∨ m.df.l4Type = ipprotoIcmpv6) := by
      rcases transport with tcp | udp
      · rw [tcp]
        decide
      · rw [udp]
        decide
    refine ⟨addresses, proto, ?_, ?_, frameDst⟩
    · rw [natDstPort, if_neg notIcmp]
    · rw [natSrcPort, if_neg notIcmp]
      exact if_neg (proto ▸ notIcmp)
  split at result
  · rename_i icmp
    have isIcmp : m.df.l4Type = ipprotoIcmp ∨ m.df.l4Type = ipprotoIcmpv6 := Or.inl icmp
    unfold dpBuildIcmpFlowKey at result
    split at result
    · rw [← (Prod.mk.inj result).1]
      refine ⟨addresses, proto, ?_, ?_, frameDst⟩
      · rw [natDstPort, if_pos isIcmp]
      · rw [natSrcPort, if_pos isIcmp]
        exact if_pos (proto ▸ isIcmp)
    split at result
    · rename_i error
      exact absurd ⟨icmp, error.1⟩ ordinary
    cases congrArg Prod.snd result
  split at result
  · rename_i icmpv6
    have isIcmp : m.df.l4Type = ipprotoIcmp ∨ m.df.l4Type = ipprotoIcmpv6 := Or.inr icmpv6
    rw [← (Prod.mk.inj result).1]
    refine ⟨addresses, proto, ?_, ?_, frameDst⟩
    · rw [natDstPort, if_pos isIcmp]
    · rw [natSrcPort, if_pos isIcmp]
      exact if_pos (proto ▸ isIcmp)
  cases congrArg Prod.snd result

theorem dpBuildFlowKey_matches {env : NodeEnv} {buffer built : FlowKey}
    (ordinary : ¬ isIcmpError m.df)
    (frameDst : m.df.l3Type = etherTypeIpv6 → ipv6Dst m.frame = m.df.dst.addr6)
    (result : dpBuildFlowKey env buffer m = (built, true)) :
    Matches built m := by
  unfold dpBuildFlowKey at result
  split at result
  · cases congrArg Prod.snd result
  · rename_i l3Dst l3Src addresses
    exact buildKeyPorts_matches addresses rfl ordinary frameDst result

theorem touchedFlow_eq (clock : UInt64) (df : DpFlow) (frame : Frame) (value : FlowValue) :
    ∃ timestamp timeoutValue tcpState firstSynFlowDir, touchedFlow clock df frame value =
        { value with
          timestamp, timeoutValue, tcpState, firstSynFlowDir } := by
  have tracked : ∀ (dir : FlowDir) (flags : UInt8) (value : FlowValue), ∃ tcpState firstSynFlowDir,
        dpCntrackTcpState value dir flags =
          { value with tcpState, firstSynFlowDir } := by
    intro dir flags value
    unfold dpCntrackTcpState
    split
    · exact ⟨_, _, rfl⟩
    split
    · exact ⟨_, _, rfl⟩
    split
    · split
      · exact ⟨_, _, rfl⟩
      · exact ⟨_, _, rfl⟩
    · split
      · exact ⟨_, _, rfl⟩
      · exact ⟨_, _, rfl⟩
    · split
      · exact ⟨_, _, rfl⟩
      · exact ⟨_, _, rfl⟩
    · split
      · exact ⟨_, _, rfl⟩
      · exact ⟨_, _, rfl⟩
    · exact ⟨_, _, rfl⟩
    · exact ⟨_, _, rfl⟩
  unfold touchedFlow
  dsimp only
  split
  · obtain ⟨tcpState, first, same⟩ :=
      tracked df.flowDir (tcpFlags df frame) { value with timestamp := clock }
    rw [same]
    exact ⟨_, _, _, _, rfl⟩
  · exact ⟨_, _, _, _, rfl⟩

theorem touchedFlow_quiet (clock : UInt64) (df : DpFlow) (frame : Frame) (value : FlowValue) :
    Quiet value (touchedFlow clock df frame value) ∧
      (touchedFlow clock df frame value).rules = value.rules ∧
      (touchedFlow clock df frame value).refCount = value.refCount := by
  obtain ⟨timestamp, timeout, state, first, same⟩ := touchedFlow_eq clock df frame value
  rw [same]
  exact ⟨⟨rfl, rfl, rfl, Iff.rfl, fun _ => rfl, id⟩, rfl, rfl⟩

structure FoundFlow
    (store : FlowStore) (key : FlowKey) (df : DpFlow) (f : Handle) :
    Prop where
  live : store.Live f
  found : store.Found f
  direction : df.flowDir = .org → key = (store.value f).org

theorem dpSetPktFlowDirection_org {dpdk : Dpdk} {key : FlowKey} {value : FlowValue}
    (keys : key = value.org ∨ key = value.reply)
    (forward : (dpSetPktFlowDirection dpdk key value df).flowDir = .org) :
    key = value.org := by
  by_contra different
  have reply := keys.resolve_left different
  have backward : (dpSetPktFlowDirection dpdk key value df).flowDir = .reply := by
    unfold dpSetPktFlowDirection
    dsimp only
    rw [if_neg different, if_pos reply]
  rw [backward] at forward
  cases forward

theorem Advances.setCurr (shared : Shared demands store) (key : FlowKey) :
    Advances demands store
      { store with cache := { store.cache with curr := key } } :=
  ⟨shared.setCurr key, .of_unmoved (Unmoved.setCurr store key), PortVisit.refl store.ports⟩

theorem Advances.cacheFlow (shared : Shared demands store)
    (filed : store.table.lookup store.cache.curr = some f) :
    Advances demands store (dpCacheFlowVal store f) :=
  ⟨shared.cacheFlow filed,
    ⟨⟨fun _ => id, fun _ _ undecided => ⟨undecided, rfl⟩⟩, fun _ _ => rfl⟩,
    PortVisit.refl store.ports⟩

theorem Advances.insert (shared : Shared demands store) (key : FlowKey)
    {natType : FlowNatType} (other : natType ≠ .networkLocal) (port : PortId) :
    Advances demands store (inserted store key natType port) := by
  have leaves := inserted_leaves shared.toLasting key natType port
  exact
    ⟨shared.insert key other port,
      ⟨leaves.outlasts, fun f live => congrArg FlowValue.org (leaves.value f live)⟩,
      PortVisit.refl store.ports⟩

theorem newFlowNatType_ne (env : NodeEnv) (port : Port) (key : FlowKey) :
    newFlowNatType env port key ≠ .networkLocal := by
  have either : ∀ neighbour : Bool,
      (if neighbour then FlowNatType.lbLocalNeighTraffic
        else FlowNatType.none) ≠ .networkLocal := by
    decide
  exact either _

structure LookedUp
    (demands : Demands) (env : NodeEnv) (store : FlowStore) (m : Mbuf)
    (after : FlowStore) (df : DpFlow) (found : Option Handle) : Prop where
  advances : Advances demands store after
  ports : after.ports = store.ports
  headers : ∃ flowDir dpFlowHash, df = { m.df with flowDir, dpFlowHash }
  flow : ∀ f, found = some f →
    ∃ key, dpBuildFlowKey env store.cache.curr m = (key, true) ∧ FoundFlow after key df f

theorem dpGetFlowVal_lookedUp (shared : Shared demands store)
    (env : NodeEnv) (succeed : outcomes.insert = InsertOutcomes.succeed) (m : Mbuf) :
    LookedUp demands env store m (dpGetFlowVal env outcomes store m).1
      (dpGetFlowVal env outcomes store m).2.1
      (dpGetFlowVal env outcomes store m).2.2 := by
  unfold dpGetFlowVal
  split
  rename_i key ok built
  have keyed := Advances.setCurr shared key
  dsimp only
  split
  · refine ⟨keyed, rfl, ⟨_, _, rfl⟩, ?_⟩
    intro f found
    cases found
  rename_i isBuilt
  have built : dpBuildFlowKey env store.cache.curr m = (key, true) := by
    cases ok with
    | true => exact built
    | false => exact absurd rfl isBuilt
  split
  · rename_i f hit
    obtain ⟨held, matched⟩ := Option.filter_eq_some_iff.mp hit
    have same : key = store.cache.other := of_decide_eq_true matched
    have live := shared.cached f held
    obtain ⟨_, keys, _⟩ := shared.coherent.cached f held
    refine ⟨keyed, rfl, ⟨_, _, rfl⟩, ?_⟩
    intro g found
    rw [← Option.some_inj.mp found]
    exact ⟨key, built, live, Or.inr held, dpSetPktFlowDirection_org (same ▸ keys)⟩
  · rename_i f _ filed
    have live := shared.filed key f filed
    obtain ⟨_, keys⟩ := shared.coherent.filed key f filed
    refine
      ⟨keyed.trans rfl (Advances.cacheFlow keyed.shared filed), rfl, ⟨_, _, rfl⟩, ?_⟩
    intro g found
    rw [← Option.some_inj.mp found]
    exact ⟨key, built, live, Or.inr rfl, dpSetPktFlowDirection_org keys⟩
  rw [succeed, flowTableInsertEntry_succeed]
  dsimp only
  have created :=
    Advances.insert keyed.shared key
      (newFlowNatType_ne env (dpGetInPort env.tables.ports m) key)
      (dpGetInPort env.tables.ports m).portId
  have filed :=
    inserted_lookup
      { store with cache := { store.cache with curr := key } } key
      (newFlowNatType env (dpGetInPort env.tables.ports m) key)
      (dpGetInPort env.tables.ports m).portId key
  rw [if_pos (Or.inl rfl)] at filed
  have cached := Advances.cacheFlow created.shared filed
  refine ⟨keyed.trans rfl (created.trans rfl cached), rfl, ⟨_, _, rfl⟩, ?_⟩
  intro g found
  rw [← Option.some_inj.mp found]
  refine ⟨key, built, ?_, Or.inr rfl, ?_⟩
  · exact created.shared.filed key _ filed
  · intro _
    exact congrArg FlowValue.org (inserted_value_new _ key _ _).symm

structure Passes
    (demands : Demands) (before after : FlowStore) (m : Mbuf) (next : Node) :
    Prop where
  advances : Advances demands before after
  follows : Follows after m
  ready : awaits next = true → Ready after m

theorem Passes.of_not_awaits {before : Mbuf} {next : Node} (advances : Advances demands store after)
    (follows : Follows store before) (conntrack : m.df.conntrack = before.df.conntrack)
    (elsewhere : awaits next = false) : Passes demands store after m next where
  advances := advances
  follows := by
    intro f carried
    exact advances.evolves.live f (follows f (conntrack ▸ carried))
  ready := by
    intro waits
    rw [elsewhere] at waits
    cases waits

theorem extractHeaders_dst6 (m : Mbuf) (isIpv6 : (extractHeaders m).1.df.l3Type = etherTypeIpv6) :
    ipv6Dst (extractHeaders m).1.frame = (extractHeaders m).1.df.dst.addr6 := by
  obtain ⟨_, _, _, _, same, dst6, _⟩ := extractHeaders_eq m
  rw [same] at isIpv6 ⊢
  exact (dst6 isIpv6).symm

theorem dpCntrackHandle_passes (shared : Shared demands store)
    (env : NodeEnv) (succeed : outcomes.insert = InsertOutcomes.succeed) (follows : Follows store m)
    (ordinary : ¬ isIcmpError m.df)
    (dst6 : m.df.l3Type = etherTypeIpv6 → ipv6Dst m.frame = m.df.dst.addr6) :
    Advances demands store (dpCntrackHandle env outcomes store m).1 ∧
      Follows (dpCntrackHandle env outcomes store m).1 (dpCntrackHandle env outcomes store m).2.1 ∧
      ((dpCntrackHandle env outcomes store m).2.2 = true →
        Ready (dpCntrackHandle env outcomes store m).1
          (dpCntrackHandle env outcomes store m).2.1) := by
  have lookedUp := dpGetFlowVal_lookedUp shared env succeed m
  unfold dpCntrackHandle
  split
  · rename_i after df result
    rw [result] at lookedUp
    obtain ⟨dir, hash, headers⟩ := lookedUp.headers
    dsimp only at headers
    refine ⟨lookedUp.advances, ?_, fun failed => by cases failed⟩
    intro f carried
    change df.conntrack = some f at carried
    rw [headers] at carried
    exact lookedUp.advances.evolves.live f (follows f carried)
  rename_i after df f result
  rw [result] at lookedUp
  obtain ⟨dir, hash, headers⟩ := lookedUp.headers
  dsimp only at headers
  obtain ⟨key, built, found⟩ := lookedUp.flow f rfl
  obtain ⟨quiet, rules, refCount⟩ := touchedFlow_quiet outcomes.clock df m.frame (after.value f)
  have touched :=
    Advances.modify_of_counts lookedUp.advances.shared found.live quiet rules refCount
  have advances := lookedUp.advances.trans lookedUp.ports touched
  dsimp only
  split
  · refine ⟨advances, ?_, fun failed => by cases failed⟩
    intro g carried
    change df.conntrack = some g at carried
    rw [headers] at carried
    exact advances.evolves.live g (follows g carried)
  refine ⟨advances, ?_, fun _ => ?_⟩
  · intro g carried
    rw [← Option.some_inj.mp carried]
    exact touched.evolves.live f found.live
  intro g carried undecided
  rw [← Option.some_inj.mp carried] at undecided ⊢
  refine ⟨touched.shared.pair found.found undecided, ?_⟩
  intro forward
  have matching := dpBuildFlowKey_matches ordinary dst6 built
  rw [touched.evolves.org f found.live, ← found.direction forward]
  subst headers
  exact
    ⟨matching.addresses, matching.proto, matching.dstPort, matching.srcPort, matching.frameDst⟩

theorem conntrack_passes (shared : Shared demands store) (env : NodeEnv)
    (succeed : outcomes.insert = InsertOutcomes.succeed) (follows : Follows store m)
    (ordinary : ¬ isIcmpError (extractHeaders m).1.df) :
    Passes demands store (conntrack env outcomes store m).1
      (conntrack env outcomes store m).2.1
      (conntrack env outcomes store m).2.2 := by
  have followed : Follows store (extractHeaders m).1 :=
    fun f carried => follows f (extractHeaders_conntrack m ▸ carried)
  rcases conntrack_cases env outcomes store m with ⟨next, early, same⟩ | ⟨_, _, ok, handled, same⟩
  · rw [same]
    apply Passes.of_not_awaits (Advances.refl shared) followed rfl
    rcases early with rfl | rfl | rfl
    · rfl
    · rfl
    · rfl
  obtain ⟨advances, followsAfter, ready⟩ :=
    dpCntrackHandle_passes shared env succeed followed ordinary (extractHeaders_dst6 m)
  rw [handled] at advances followsAfter ready
  rw [same]
  cases ok with
  | false => exact ⟨advances, followsAfter, fun waits => by cases waits⟩
  | true => exact ⟨advances, followsAfter, fun _ => ready rfl⟩

theorem markDefault_eq (value : FlowValue) :
    ∃ flowFlags, FlowValue.markDefault value = { value with flowFlags } ∧
      flowFlags ≠ FlowFlags.none := by
  unfold FlowValue.markDefault
  split
  · rename_i flags
    refine ⟨value.flowFlags, rfl, ?_⟩
    intro none
    rw [none] at flags
    cases flags
  refine ⟨_, rfl, ?_⟩
  intro none
  have raised : true = false := congrArg FlowFlags.default none
  cases raised

end DpService.Nodes

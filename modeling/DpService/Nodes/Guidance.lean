import DpService.Flow.Coherence
import DpService.Nodes.Effects

/-!
# Flows that are led to a target

What the nodes do to the targets that flows remember.  `conntrack` gives a
packet a flow that is found under the key of the packet, `lb` notes the target
that the load balancer has for that key, and no other node notes a target in a
load balanced flow.
-/

namespace DpService.Nodes

open Foundations Packet Dataplane Flow

variable {after : FlowStore} {f : Handle} {visit : Visit} {outcomes : SnatOutcomes}

variable {Allowed : FlowKey → Ipv6 → Prop} {store : FlowStore}
variable {env : NodeEnv} {m : Mbuf}

/-! ## `conntrack` -/

structure Identified
    (env : NodeEnv) (buffer : FlowKey) (m : Mbuf) (after : FlowStore)
    (df : DpFlow) (f : Handle) : Prop where
  found : after.Found f
  key : ∃ key, dpBuildFlowKey env buffer m = (key, true) ∧
    (df.flowDir = .org → key = (after.value f).org)

theorem flowTableInsertEntry_filed {outcomes : InsertOutcomes} {key : FlowKey}
    {natType : FlowNatType} {port : PortId}
    (result : flowTableInsertEntry outcomes store key natType port = (after, some f)) :
    after.table.lookup key = some f ∧ (after.value f).org = key ∧ after.cache = store.cache := by
  have all : outcomes = InsertOutcomes.succeed := by
    rcases outcomes with ⟨_ | _, _ | _, _ | _⟩
    all_goals try cases result
    · rw [flowTableInsertEntry_unanswered] at result
      cases result
    · rfl
  rw [all, flowTableInsertEntry_succeed] at result
  obtain ⟨rfl, made⟩ := Prod.mk.inj result
  obtain rfl := Option.some.inj made
  refine ⟨?_, ?_, rfl⟩
  · rw [inserted_lookup, if_pos (Or.inl rfl)]
  · rw [inserted_value_new]
    rfl

theorem dpGetFlowVal_keeps (coherent : Coherent store) (env : NodeEnv)
    (outcomes : ConntrackOutcomes) (m : Mbuf) :
    Keeps Allowed store (dpGetFlowVal env outcomes store m).1 ∧
      (∃ flowDir dpFlowHash,
        (dpGetFlowVal env outcomes store m).2.1 = { m.df with flowDir, dpFlowHash }) ∧
      ∀ f, (dpGetFlowVal env outcomes store m).2.2 = some f →
        Identified env store.cache.curr m
          (dpGetFlowVal env outcomes store m).1
          (dpGetFlowVal env outcomes store m).2.1 f := by
  unfold dpGetFlowVal
  split
  rename_i key ok built
  have keyed : Keeps Allowed store
      { store with cache := { store.cache with curr := key } } :=
    (Trims.setCurr key).keeps coherent
  dsimp only
  split
  · exact ⟨keyed, ⟨_, _, rfl⟩, nofun⟩
  rename_i isBuilt
  obtain rfl : ok = true := by
    cases ok with
    | true => rfl
    | false => exact absurd rfl isBuilt
  split
  · rename_i f hit
    obtain ⟨held, matched⟩ := Option.filter_eq_some_iff.mp hit
    have same : key = store.cache.other := of_decide_eq_true matched
    obtain ⟨-, keys, -⟩ := coherent.cached f held
    refine ⟨keyed, ⟨_, _, rfl⟩, ?_⟩
    intro g found
    obtain rfl := Option.some.inj found
    exact ⟨Or.inr held, key, built, dpSetPktFlowDirection_org (same ▸ keys)⟩
  · rename_i f _ filed
    obtain ⟨-, keys⟩ := coherent.filed key f filed
    refine ⟨keyed.trans (.cacheFlow keyed.coherent filed), ⟨_, _, rfl⟩, ?_⟩
    intro g found
    obtain rfl := Option.some.inj found
    exact ⟨Or.inr rfl, key, built, dpSetPktFlowDirection_org keys⟩
  have created :=
    keyed.trans
      (.insertEntry keyed.coherent outcomes.insert key
        (newFlowNatType env (dpGetInPort env.tables.ports m) key)
        (dpGetInPort env.tables.ports m).portId)
  split
  · rename_i after result
    rw [result] at created
    exact ⟨created, ⟨_, _, rfl⟩, nofun⟩
  rename_i after f result
  rw [result] at created
  obtain ⟨filed, org, cache⟩ := flowTableInsertEntry_filed result
  have current : after.table.lookup after.cache.curr = some f := by
    rw [cache]
    exact filed
  refine ⟨created.trans (.cacheFlow created.coherent current), ⟨_, _, rfl⟩, ?_⟩
  intro g found
  obtain rfl := Option.some.inj found
  exact ⟨Or.inr rfl, key, built, fun _ => org.symm⟩

theorem touchedFlow_course (clock : UInt64) (df : DpFlow) (frame : Frame) (value : FlowValue) :
    SameCourse value (touchedFlow clock df frame value) := by
  obtain ⟨timestamp, timeout, state, first, same⟩ := touchedFlow_eq clock df frame value
  rw [same]
  exact ⟨rfl, rfl, rfl, rfl⟩

def Allocated (store : FlowStore) (m : Mbuf) : Prop :=
  ∀ f, m.df.conntrack = some f → f < store.arena.next

theorem Allocated.keep {before : FlowStore} (allocated : Allocated before m)
    (keeps : Keeps Allowed before after) : Allocated after m :=
  fun f carried => (allocated f carried).trans_le keeps.next_le

def isTransport (df : DpFlow) : Prop :=
  df.l4Type = ipprotoTcp ∨ df.l4Type = ipprotoUdp

/-- In the first direction of its flow, a packet from the underlay has the
destination and the VNI of the flow. -/
structure Addressed (store : FlowStore) (m : Mbuf) (f : Handle) : Prop where
  vni : (store.value f).org.vni = m.df.tunInfo.dstVni
  dst : isTransport m.df → ∃ src, keyAddresses m.df = some ((store.value f).org.l3Dst, src)

theorem buildKeyPorts_vni (df : DpFlow) (key : FlowKey) (frame : Frame) :
    (buildKeyPorts df key frame).1.vni = key.vni := by
  unfold buildKeyPorts
  split
  · rfl
  split
  · unfold dpBuildIcmpFlowKey
    split
    · rfl
    split
    · dsimp only
      split
      · rfl
      · rfl
    · rfl
  split
  · rfl
  · rfl

theorem dpBuildFlowKey_addressed {buffer key : FlowKey}
    (built : dpBuildFlowKey env buffer m = (key, true))
    (fromPf : (dpGetInPort env.tables.ports m).isPf = true) :
    key.vni = m.df.tunInfo.dstVni ∧
      (isTransport m.df → keyAddresses m.df = some (key.l3Dst, key.l3Src)) := by
  unfold dpBuildFlowKey at built
  cases addresses : keyAddresses m.df with
  | none =>
    rw [addresses] at built
    cases built
  | some pair => ?_
  obtain ⟨dst, src⟩ := pair
  rw [addresses] at built
  dsimp only at built
  constructor
  · have vni := congrArg (fun result => result.1.vni) built
    dsimp only at vni
    rw [buildKeyPorts_vni] at vni
    dsimp only at vni
    rw [if_pos fromPf] at vni
    exact vni.symm
  intro transport
  change m.df.l4Type = ipprotoTcp ∨ m.df.l4Type = ipprotoUdp at transport
  rw [buildKeyPorts, if_pos transport] at built
  rw [← (Prod.mk.inj built).1]

/-- What `conntrack` leaves of the flows, and of a packet that goes on. -/
structure Sorted
    (Allowed : FlowKey → Ipv6 → Prop) (tables : Tables)
    (before after : FlowStore) (m : Mbuf) (next : Node) : Prop where
  keeps : Keeps Allowed before after
  allocated : Allocated after m
  balanced : next = .lb → (dpGetInPort tables.ports m).isPf = true ∧
      ∀ f, m.df.conntrack = some f → after.Found f ∧ (m.df.flowDir = .org → Addressed after m f)

theorem dpCntrackHandle_sorted (coherent : Coherent store) (outcomes : ConntrackOutcomes)
    (allocated : Allocated store m) :
    Keeps Allowed store (dpCntrackHandle env outcomes store m).1 ∧
      Allocated (dpCntrackHandle env outcomes store m).1
        (dpCntrackHandle env outcomes store m).2.1 ∧
      ((dpCntrackHandle env outcomes store m).2.2 = true →
        ∀ f, (dpCntrackHandle env outcomes store m).2.1.df.conntrack = some f →
          (dpCntrackHandle env outcomes store m).1.Found f ∧
            ((dpGetInPort env.tables.ports (dpCntrackHandle env outcomes store m).2.1).isPf = true →
              (dpCntrackHandle env outcomes store m).2.1.df.flowDir = .org →
              Addressed (dpCntrackHandle env outcomes store m).1
                (dpCntrackHandle env outcomes store m).2.1 f)) := by
  obtain ⟨keeps, headers, identified⟩ := @dpGetFlowVal_keeps Allowed store coherent env outcomes m
  unfold dpCntrackHandle
  split
  · rename_i after df result
    rw [result] at keeps headers
    obtain ⟨dir, hash, same⟩ := headers
    obtain rfl : df = _ := same
    exact ⟨keeps, allocated.keep keeps, nofun⟩
  rename_i after df f result
  rw [result] at keeps headers identified
  obtain ⟨dir, hash, same⟩ := headers
  obtain rfl : df = _ := same
  obtain ⟨found, key, built, direction⟩ := identified f rfl
  have touched : Keeps Allowed store _ :=
    keeps.trans
      ((Trims.modify
        (touchedFlow_course outcomes.clock
          { m.df with flowDir := dir, dpFlowHash := hash } m.frame
          (after.value f))).keeps keeps.coherent)
  dsimp only
  split
  · exact ⟨touched, allocated.keep touched, nofun⟩
  have org :
      ((after.modify f
        (touchedFlow outcomes.clock
          { m.df with flowDir := dir, dpFlowHash := hash }
          m.frame)).value f).org = (after.value f).org := by
    rw [FlowStore.modify_value_self]
    exact (touchedFlow_course ..).org
  refine ⟨touched, ?_, ?_⟩
  · intro g carried
    obtain rfl := Option.some.inj carried
    exact keeps.coherent.found_lt found
  intro _ g carried
  obtain rfl := Option.some.inj carried
  refine ⟨found, ?_⟩
  intro fromPf forward
  obtain ⟨vni, dst⟩ := dpBuildFlowKey_addressed built fromPf
  have key : key = (after.value f).org := direction forward
  rw [key] at vni dst
  constructor
  · rw [org]
    exact vni
  · rw [org]
    exact fun transport => ⟨_, dst transport⟩

theorem isPf_of_conntrackNext {tables : Tables} (lb : conntrackNext tables m = .lb) :
    (dpGetInPort tables.ports m).isPf = true := by
  unfold conntrackNext at lb
  split at lb
  · assumption
  cases lb

theorem conntrack_sorted (coherent : Coherent store) (outcomes : ConntrackOutcomes)
    (allocated : Allocated store m) :
    Sorted Allowed env.tables store (conntrack env outcomes store m).1
      (conntrack env outcomes store m).2.1
      (conntrack env outcomes store m).2.2 := by
  have followed : Allocated store (extractHeaders m).1 :=
    fun f carried => allocated f (extractHeaders_conntrack m ▸ carried)
  rcases conntrack_cases env outcomes store m with ⟨next, early, same⟩ | ⟨_, _, ok, handled, same⟩
  · rw [same]
    refine ⟨(Trims.refl store).keeps coherent, followed, ?_⟩
    intro lb
    rcases early with rfl | rfl | rfl
    all_goals cases lb
  obtain ⟨keeps, allocatedAfter, found⟩ :=
    @dpCntrackHandle_sorted Allowed store env (extractHeaders m).1 coherent outcomes followed
  rw [handled] at keeps allocatedAfter found
  rw [same]
  refine ⟨keeps, allocatedAfter, ?_⟩
  cases ok with
  | false => exact nofun
  | true => ?_
  intro lb
  have fromPf := isPf_of_conntrackNext lb
  refine ⟨fromPf, ?_⟩
  intro f carried
  obtain ⟨there, addressed⟩ := found rfl f carried
  exact ⟨there, addressed fromPf⟩

/-! ## `lb` -/

/-- The targets that the load balancers have for flows are allowed. -/
def Offers (network : Network) (Allowed : FlowKey → Ipv6 → Prop) : Prop :=
  ∀ key target, dpLbGetBackendIp network key key.vni = some target → Allowed key target

theorem dpLbSetNextHop_tunInfo (vnfs : VnfTables) (df : DpFlow) (portId : PortId) :
    (dpLbSetNextHop vnfs df portId).tunInfo = df.tunInfo := by
  unfold dpLbSetNextHop
  split
  · rfl
  · rfl

theorem lbTowards_ulDst (tables : Tables) (m : Mbuf) (target : Ipv6) :
    (lbTowards tables m target).df.tunInfo.ulDstAddr6 = target := by
  rw [lbTowards, dpLbSetNextHop_tunInfo]

theorem lbNewFlow_led (coherent : Coherent store) (offers : Offers env.network Allowed)
    (vni : packetVni env m = (store.value f).org.vni) :
    Keeps Allowed store (lbNewFlow env store f m).flows ∧
      ((lbNewFlow env store f m).next = .ipipEncap →
        Allowed (store.value f).org (lbNewFlow env store f m).m.df.tunInfo.ulDstAddr6) := by
  have same : Keeps Allowed store store := (Trims.refl store).keeps coherent
  unfold lbNewFlow
  split
  · exact ⟨same, nofun⟩
  split
  · exact ⟨same, nofun⟩
  split
  · exact ⟨same, nofun⟩
  rename_i target chosen
  have allowed : Allowed (store.value f).org target := offers _ _ (vni ▸ chosen)
  refine ⟨.modify coherent rfl rfl fun _ _ => allowed, ?_⟩
  intro _
  rw [lbTowards_ulDst]
  exact allowed

theorem lb_led (coherent : Coherent store) (offers : Offers env.network Allowed)
    (known : ∀ f, m.df.conntrack = some f → Guided Allowed (store.value f) ∧
        (m.df.flowDir = .org → packetVni env m = (store.value f).org.vni))
    (result : lb env store m = some visit) :
    Keeps Allowed store visit.flows ∧
      (visit.next = .ipipEncap → ∃ f, m.df.conntrack = some f ∧ m.df.flowDir = .org ∧
          Allowed (store.value f).org visit.m.df.tunInfo.ulDstAddr6) := by
  have same : Keeps Allowed store store := (Trims.refl store).keeps coherent
  unfold lb at result
  split at result
  · rw [← Option.some.inj result]
    exact ⟨same, nofun⟩
  rw [Option.map_eq_some_iff] at result
  obtain ⟨f, carried, result⟩ := result
  obtain ⟨guided, vni⟩ := known f carried
  rw [← result]
  dsimp only
  split
  · rename_i new
    rw [Bool.and_eq_true, Bool.and_eq_true] at new
    have forward : m.df.flowDir = .org := of_decide_eq_true new.1.2
    obtain ⟨keeps, allowed⟩ := lbNewFlow_led coherent offers (vni forward)
    exact ⟨keeps, fun sent => ⟨f, carried, forward, allowed sent⟩⟩
  split
  · rename_i known
    rw [Bool.and_eq_true] at known
    refine ⟨same, fun _ => ⟨f, carried, of_decide_eq_true known.2, ?_⟩⟩
    rw [lbTowards_ulDst]
    exact guided known.1
  split
  · exact ⟨same, nofun⟩
  · exact ⟨same, nofun⟩

theorem Steady.keeps {before : FlowStore} (steady : Steady before after)
    (coherent : Coherent before) : Keeps Allowed before after where
  next_le := (congrArg Arena.next steady.arena).ge
  org := fun f _ => steady.org f
  guided := by
    intro f _ guided balanced
    obtain ⟨earlier, same⟩ := steady.course f balanced
    rw [steady.org, same]
    exact guided earlier
  found := fun f found => Or.inl ((steady.found_iff f).mp found)
  coherent := by
    constructor
    · intro key f filed
      rw [steady.table] at filed
      rw [steady.arena, steady.org, steady.reply]
      exact coherent.filed key f filed
    intro f cached
    rw [steady.cached] at cached
    rw [steady.arena, steady.org, steady.reply, steady.other, steady.table]
    exact coherent.cached f cached

theorem Effect.keeps {before : FlowStore} {rekeyed : Bool} (effect : Effect m rekeyed before after)
    (coherent : Coherent before) (allocated : Allocated before m) :
    Keeps Allowed before after := by
  cases effect with
  | unmoved unmoved => exact unmoved.keeps coherent
  | rekeyed start f rewrite exchanged => ?_
  have begun : Keeps Allowed before start := exchanged.begun.keeps coherent
  have unguided : Guided Allowed (start.value f) := by
    intro balanced
    have earlier := (exchanged.begun.course f balanced).1
    rw [unbalanced_of_undecided exchanged.undecided] at earlier
    cases earlier
  have inside := (allocated f exchanged.carried).trans_le begun.next_le
  have exchanges := begun.trans (.replaceReplyKey begun.coherent inside unguided rekeyed rewrite)
  exact exchanges.trans (exchanged.finished.keeps exchanges.coherent)

theorem tx_trims (conf : DpConf) (rules : Nat) : Trims store (tx conf rules store m) := by
  unfold tx
  split
  · exact Trims.refl store
  apply Trims.modify
  unfold FlowValue.markDefault
  split
  · exact ⟨rfl, rfl, rfl, rfl⟩
  · exact ⟨rfl, rfl, rfl, rfl⟩

end DpService.Nodes

import DpService.Flow.Withdrawal
import DpService.Nodes.FlowSteps
import DpService.Nodes.Snat

/-!
# What the nodes do to the references of flows

Behind `conntrack` a node counts nothing, or it exchanges the key of the
answers of a flow that nobody has decided about yet.  This is said once for
each node, whatever insertions and allocations fail in it.
-/

namespace DpService.Nodes

open Foundations Packet Dataplane Flow

variable {visit : Visit} {outcomes : SnatOutcomes} {after before : FlowStore}

/-- Besides, no flow is led elsewhere. -/
structure Steady (before after : FlowStore) : Prop extends Unmoved before after where
  course : ∀ f, (after.value f).flowFlags.dstLb = true → (before.value f).flowFlags.dstLb = true ∧
      (after.value f).nfInfo.underlayDst = (before.value f).nfInfo.underlayDst

/-- The flow of the packet is decided about by the packet, and gets another key
for its answers. -/
structure Rekeyed
    (m : Mbuf) (before start after : FlowStore) (f : Handle) (added : Bool)
    (rewrite : FlowKey → FlowKey) : Prop where
  carried : m.df.conntrack = some f
  undecided : (before.value f).Undecided
  begun : Steady before start
  decided : ¬ (start.value f).Undecided
  finished : Steady (replaceReplyKey added start f rewrite).1 after

/-- What a node behind `conntrack` does to the flows for a packet. -/
inductive Effect (m : Mbuf) (rekeyed : Bool) (before after : FlowStore) : Prop
  | unmoved (unmoved : Steady before after)
  | rekeyed (start : FlowStore) (f : Handle) (rewrite : FlowKey → FlowKey)
      (exchanged : Rekeyed m before start after f rekeyed rewrite)

variable {env : NodeEnv} {store : FlowStore} {m : Mbuf} {f : Handle}

theorem Steady.refl (store : FlowStore) : Steady store store :=
  ⟨Unmoved.refl store, fun _ balanced => ⟨balanced, rfl⟩⟩

theorem Steady.trans {middle : FlowStore} (left : Steady before middle)
    (right : Steady middle after) : Steady before after where
  toUnmoved := left.toUnmoved.trans right.toUnmoved
  course := by
    intro f balanced
    obtain ⟨between, same⟩ := right.course f balanced
    obtain ⟨first, earlier⟩ := left.course f between
    exact ⟨first, same.trans earlier⟩

theorem Steady.setPorts (store : FlowStore) (ports : NatPorts) :
    Steady store { store with ports } :=
  ⟨Unmoved.setPorts store ports, fun _ balanced => ⟨balanced, rfl⟩⟩

theorem Steady.modify {change : FlowValue → FlowValue}
    (unmoved : Unmoved store (store.modify f change))
    (course : (change (store.value f)).flowFlags.dstLb = true →
      (store.value f).flowFlags.dstLb = true ∧
        (change (store.value f)).nfInfo.underlayDst = (store.value f).nfInfo.underlayDst) :
    Steady store (store.modify f change) := by
  refine ⟨unmoved, fun g balanced => ?_⟩
  by_cases same : g = f
  · rw [same, FlowStore.modify_value_self] at balanced ⊢
    exact course balanced
  · rw [FlowStore.modify_value_of_ne store change same] at balanced ⊢
    exact ⟨balanced, rfl⟩

theorem unbalanced_of_undecided {value : FlowValue} (undecided : value.Undecided) :
    value.flowFlags.dstLb = false :=
  congrArg FlowFlags.dstLb undecided

theorem steady_of_undecided (undecided : (store.value f).Undecided) {change : FlowValue → FlowValue}
    (org : (change (store.value f)).org = (store.value f).org)
    (reply : (change (store.value f)).reply = (store.value f).reply)
    (refCount : (change (store.value f)).refCount = (store.value f).refCount)
    (rules : (change (store.value f)).rules = (store.value f).rules)
    (dstLb : (change (store.value f)).flowFlags.dstLb = (store.value f).flowFlags.dstLb) :
    Steady store (store.modify f change) := by
  refine .modify (.modify org reply refCount rules fun _ => undecided) fun balanced => ?_
  rw [dstLb, unbalanced_of_undecided undecided] at balanced
  cases balanced

theorem Effect.refl (m : Mbuf) (rekeyed : Bool) (store : FlowStore) :
    Effect m rekeyed store store :=
  .unmoved (Steady.refl store)

theorem lb_effect (result : lb env store m = some visit) : Unmoved store visit.flows := by
  have same := Unmoved.refl store
  unfold lb at result
  split at result
  · rw [← Option.some_inj.mp result]
    exact same
  rw [Option.map_eq_some_iff] at result
  obtain ⟨f, _, result⟩ := result
  rw [← result]
  dsimp only
  split
  · rename_i new
    rw [Bool.and_eq_true, Bool.and_eq_true] at new
    unfold lbNewFlow
    split
    · exact same
    split
    · exact same
    split
    · exact same
    · exact Unmoved.modify rfl rfl rfl rfl fun _ => eq_of_beq new.1.1
  split
  · exact same
  split
  · exact same
  · exact same

/-! ## `dnat` -/

theorem dnatNewFlow_effect (carried : m.df.conntrack = some f)
    (undecided : (store.value f).Undecided) (rekeyed : Bool) :
    Effect m rekeyed store (dnatNewFlow env rekeyed store f m).flows := by
  unfold dnatNewFlow
  split
  · exact Effect.refl m rekeyed store
  rename_i dnatIp _
  split
  · unfold dnatNetworkNat
    split
    · dsimp only
      exact .unmoved (steady_of_undecided undecided rfl rfl rfl rfl rfl)
    split
    · exact Effect.refl m rekeyed store
    · dsimp only
      exact .unmoved (steady_of_undecided undecided rfl rfl rfl rfl rfl)
  unfold dnatVip
  dsimp only
  generalize changeDstIp env m (setIpv4Dst m.frame dnatIp) dnatIp = changed
  have marked : Steady store (store.modify f FlowValue.raiseDstNat) :=
    steady_of_undecided undecided rfl rfl rfl rfl rfl
  have decided : ¬ ((store.modify f FlowValue.raiseDstNat).value f).Undecided := by
    rw [FlowStore.modify_value_self]
    intro now
    have raised : true = false := congrArg FlowFlags.dstNat now
    cases raised
  refine
    .rekeyed (store.modify f FlowValue.raiseDstNat) f
      (fun reply => { reply with l3Src := .v4 (ipv4Dst changed.frame) })
      ⟨carried, undecided, marked, decided, ?_⟩
  split
  · rename_i exchanged
    rw [exchanged]
    exact Steady.refl _
  · rename_i exchanged
    rw [exchanged]
    exact Steady.refl _

theorem dnat_effect {rekeyed : Bool} (result : dnat env rekeyed store m = some visit) :
    Effect m rekeyed store visit.flows := by
  rw [dnat, Option.map_eq_some_iff] at result
  obtain ⟨f, carried, result⟩ := result
  rw [← result]
  dsimp only
  split
  · rename_i new
    rw [Bool.and_eq_true, Bool.and_eq_true] at new
    exact dnatNewFlow_effect carried (eq_of_beq new.1.1) rekeyed
  · exact Effect.refl m rekeyed store

/-! ## `snat` -/

theorem releasePort_steady (store : FlowStore) (f : Handle) : Steady store (releasePort store f) :=
  Steady.setPorts store _

theorem expectAnswers_effect {noted : FlowStore} (carried : m.df.conntrack = some f)
    (undecided : (store.value f).Undecided)
    (steady : Steady store noted) (rekeyed : Bool) (packet : Mbuf) (natPort : Option UInt16) :
    Effect m rekeyed store (expectAnswers rekeyed noted f packet natPort).1 := by
  have marked : Steady noted (noted.modify f FlowValue.raiseSrcNat) := by
    refine .modify (.modify rfl rfl rfl rfl fun now => ?_) fun balanced => ⟨balanced, rfl⟩
    have raised : true = false := congrArg FlowFlags.srcNat now
    cases raised
  have decided : ¬ ((noted.modify f FlowValue.raiseSrcNat).value f).Undecided := by
    rw [FlowStore.modify_value_self]
    intro now
    have raised : true = false := congrArg FlowFlags.srcNat now
    cases raised
  refine
    .rekeyed (noted.modify f FlowValue.raiseSrcNat) f
      (fun reply =>
        { reply with
          l3Dst := .v4 (ipv4Src packet.frame)
          portDst := natPort.getD reply.portDst })
      ⟨carried, undecided, steady.trans marked, decided, ?_⟩
  unfold expectAnswers
  split
  · rename_i exchanged
    rw [exchanged]
    exact Steady.refl _
  rename_i exchanged
  rw [exchanged]
  dsimp only
  split
  · exact releasePort_steady _ f
  · exact Steady.refl _

theorem expectAnswers64_effect {noted : FlowStore} (carried : m.df.conntrack = some f)
    (undecided : (store.value f).Undecided)
    (steady : Steady store noted) (rekeyed : Bool) (packet : Mbuf)
    (vni : Vni) (dst natIp : Ipv4) (natPort : UInt16) :
    Effect m rekeyed store (expectAnswers64 rekeyed noted f packet vni dst natIp natPort).1 := by
  -- the flag that is raised
  have raises : ∀ value : FlowValue,
      ¬ (FlowValue.raiseSrcNat64
        (FlowValue.natLocally value vni packet.df.l4Type (packet.frame.be16At 4))).Undecided := by
    intro value now
    have raised : true = false := congrArg FlowFlags.srcNat64 now
    cases raised
  unfold expectAnswers64
  generalize start : noted.modify f (fun value =>
      FlowValue.raiseSrcNat64
        (FlowValue.natLocally value vni packet.df.l4Type (packet.frame.be16At 4))) = marked
  have begun : Steady noted marked := by
    rw [← start]
    exact
      .modify (.modify rfl rfl rfl rfl fun now => absurd now (raises _))
        fun balanced => ⟨balanced, rfl⟩
  have decided : ¬ (marked.value f).Undecided := by
    rw [← start, FlowStore.modify_value_self]
    exact raises _
  refine
    .rekeyed marked f (nat64ReplyKey packet.df.l4Type dst natIp natPort)
      ⟨carried, undecided, steady.trans begun, decided, ?_⟩
  split
  · rename_i exchanged
    rw [exchanged]
    exact Steady.refl _
  · rename_i exchanged
    rw [exchanged]
    exact releasePort_steady _ f

theorem vipFlow_steady (data : SnatData) (store : FlowStore) (f : Handle) :
    Steady store (vipFlow data store f) := by
  unfold vipFlow
  split
  · exact .modify (.modify rfl rfl rfl rfl id) fun balanced => ⟨balanced, rfl⟩
  · exact Steady.refl store

theorem dpProcessIpv4Snat_effect (carried : m.df.conntrack = some f)
    (undecided : (store.value f).Undecided) (outcomes : SnatOutcomes)
    (port : Port) (data : SnatData) :
    Effect m outcomes.rekeyed store (dpProcessIpv4Snat env outcomes store f m port data).1 := by
  have noted := vipFlow_steady data store f
  unfold dpProcessIpv4Snat
  generalize vipFlow data store f = vip at noted ⊢
  dsimp only
  split
  · exact expectAnswers_effect carried undecided noted _ _ _
  split
  · exact .unmoved (noted.trans (Steady.setPorts vip _))
  rename_i ports natPort _
  have allocated := noted.trans (Steady.setPorts vip ports)
  refine expectAnswers_effect carried undecided (allocated.trans ?_) _ _ _
  exact .modify (.modify rfl rfl rfl rfl id) fun balanced => ⟨balanced, rfl⟩

theorem dpProcessIpv6Nat64_effect (carried : m.df.conntrack = some f)
    (undecided : (store.value f).Undecided) {port : Port}
    {changed : Option Mbuf}
    (result : dpProcessIpv6Nat64 env outcomes store f m port = some (after, changed)) :
    Effect m outcomes.rekeyed store after := by
  unfold dpProcessIpv6Nat64 at result
  dsimp only at result
  split at result
  · obtain ⟨rfl, -⟩ := Prod.mk.inj (Option.some.inj result)
    exact .unmoved (Steady.setPorts store _)
  rename_i ports natPort _
  have charged := Steady.setPorts store ports
  rw [Option.map_eq_some_iff] at result
  obtain ⟨translated, -, result⟩ := result
  cases translated with
  | none =>
    obtain ⟨rfl, -⟩ := Prod.mk.inj result
    exact .unmoved (charged.trans (releasePort_steady _ f))
  | some packet => ?_
  have expects :=
    expectAnswers64_effect carried undecided charged
      outcomes.rekeyed (setSource packet natPort) port.iface.vni
      (nat64DestIp m.frame) port.iface.natIp natPort
  dsimp only at result
  rw [result] at expects
  exact expects

theorem snatNewFlow_effect (carried : m.df.conntrack = some f)
    (undecided : (store.value f).Undecided) {port : Port}
    (result : snatNewFlow env outcomes store f m port = some visit) :
    Effect m outcomes.rekeyed store visit.flows := by
  unfold snatNewFlow at result
  split at result
  · rename_i data _
    have effect :=
      @dpProcessIpv4Snat_effect env store m f carried undecided outcomes port data
    split at result
    · rename_i processed
      rw [processed] at effect
      rw [← Option.some.inj result]
      exact effect
    rename_i processed
    rw [processed] at effect
    rw [Option.map_eq_some_iff] at result
    obtain ⟨known, -, result⟩ := result
    rw [← result]
    exact effect
  split at result
  · rw [Option.map_eq_some_iff] at result
    obtain ⟨⟨after, changed⟩, processed, result⟩ := result
    have effect := dpProcessIpv6Nat64_effect carried undecided processed
    cases changed with
    | none =>
      rw [← result]
      exact effect
    | some packet =>
      rw [← result]
      exact effect
  rw [Option.map_eq_some_iff] at result
  obtain ⟨known, -, result⟩ := result
  rw [← result]
  exact Effect.refl m _ store

theorem snat_effect {red : Bool} (result : snat env outcomes red store m = some visit) :
    Effect m outcomes.rekeyed store visit.flows := by
  unfold snat at result
  dsimp only at result
  split at result
  · rw [← Option.some.inj result]
    exact Effect.refl m _ store
  rw [Option.bind_eq_some_iff] at result
  obtain ⟨f, carried, result⟩ := result
  split at result
  · rename_i new
    rw [Bool.and_eq_true] at new
    exact snatNewFlow_effect carried (eq_of_beq new.1) result
  rw [Option.map_eq_some_iff] at result
  obtain ⟨known, -, result⟩ := result
  rw [← result]
  exact Effect.refl m _ store

theorem firewall_effect (result : firewall env store m = some visit) :
    Steady store visit.flows := by
  rw [firewall, Option.map_eq_some_iff] at result
  obtain ⟨f, -, result⟩ := result
  rw [← result]
  dsimp only
  split
  · refine .modify (.modify rfl rfl rfl rfl fun now => ?_) fun balanced => ⟨balanced, rfl⟩
    have raised : true = false := congrArg FlowFlags.firewall now
    cases raised
  · exact Steady.refl store

/-- The flow of the packet was not freed, and it has both of its references
if nobody has decided about it. -/
def Holds (store : FlowStore) (m : Mbuf) : Prop :=
  ∀ f, m.df.conntrack = some f →
    store.Live f ∧ ((store.value f).Undecided → (store.value f).refCount = 2)

/-- What a visit of a packet does to the flows. -/
structure Lasts (before after : FlowStore) : Prop where
  sustained : Sustained after
  outlasts : Outlasts before after

theorem Holds.outlast (holds : Holds before m)
    (outlasts : Outlasts before after) : Holds after m := by
  intro f carried
  obtain ⟨live, two⟩ := holds f carried
  refine ⟨outlasts.live f live, fun undecided => ?_⟩
  obtain ⟨before, counts⟩ := outlasts.undecided f live undecided
  rw [counts]
  exact two before

theorem lasts_of_unmoved (sustained : Sustained before)
    (unmoved : Unmoved before after) : Lasts before after :=
  ⟨unmoved.sustained sustained, unmoved.outlasts⟩

theorem Effect.lasts {rekeyed : Bool} (effect : Effect m rekeyed before after)
    (sustained : Sustained before) (holds : Holds before m) : Lasts before after := by
  cases effect with
  | unmoved unmoved => exact lasts_of_unmoved sustained unmoved.toUnmoved
  | rekeyed start f rewrite exchanged => ?_
  obtain ⟨live, two⟩ := holds f exchanged.carried
  obtain ⟨kept, outlasts, _⟩ :=
    sustained.rekey live exchanged.undecided (two exchanged.undecided)
      exchanged.begun.toUnmoved exchanged.decided rekeyed rewrite
  exact ⟨exchanged.finished.sustained kept, outlasts.trans exchanged.finished.outlasts⟩

/-! ## `conntrack` -/

structure FindsFlow
    (before : FlowStore) (m : Mbuf) (after : FlowStore) (df : DpFlow)
    (found : Option Handle) : Prop where
  lasts : Lasts before after
  conntrack : df.conntrack = m.df.conntrack
  flow : ∀ f, found = some f → after.Live f ∧ after.Found f

theorem cacheFlow_lasts (sustained : Sustained store) {key : FlowKey}
    (filed : store.table.lookup key = some f) :
    Lasts store (dpCacheFlowVal store f) :=
  ⟨sustained.cacheFlow filed, fun _ => id, fun _ _ now => ⟨now, rfl⟩⟩

theorem dpGetFlowVal_finds (sustained : Sustained store) (env : NodeEnv)
    (outcomes : ConntrackOutcomes) (m : Mbuf) :
    FindsFlow store m (dpGetFlowVal env outcomes store m).1
      (dpGetFlowVal env outcomes store m).2.1
      (dpGetFlowVal env outcomes store m).2.2 := by
  unfold dpGetFlowVal
  split
  rename_i key ok built
  have keyed := lasts_of_unmoved sustained (Unmoved.setCurr store key)
  dsimp only
  split
  · exact ⟨keyed, rfl, nofun⟩
  split
  · rename_i f hit
    obtain ⟨held, _⟩ := Option.filter_eq_some_iff.mp hit
    refine ⟨keyed, rfl, ?_⟩
    intro g found
    obtain rfl := Option.some.inj found
    exact ⟨sustained.cached f held, Or.inr held⟩
  · rename_i f _ filed
    have cached := cacheFlow_lasts keyed.sustained filed
    refine ⟨⟨cached.sustained, keyed.outlasts.trans cached.outlasts⟩, rfl, ?_⟩
    intro g found
    obtain rfl := Option.some.inj found
    exact ⟨sustained.filed key f filed, Or.inr rfl⟩
  obtain ⟨kept, outlasts, filed⟩ :=
    keyed.sustained.insertEntry outcomes.insert key
      (newFlowNatType env (dpGetInPort env.tables.ports m) key)
      (dpGetInPort env.tables.ports m).portId
  split
  · rename_i after result
    rw [result] at kept outlasts
    exact ⟨⟨kept, keyed.outlasts.trans outlasts⟩, rfl, nofun⟩
  rename_i after f result
  rw [result] at kept outlasts filed
  have held := filed f rfl
  have cached := cacheFlow_lasts kept held
  refine ⟨⟨cached.sustained, (keyed.outlasts.trans outlasts).trans cached.outlasts⟩, rfl, ?_⟩
  intro g found
  obtain rfl := Option.some.inj found
  exact ⟨kept.filed key f held, Or.inr rfl⟩

theorem touchedFlow_unmoved (store : FlowStore) (f : Handle) (clock : UInt64) (df : DpFlow)
    (frame : Frame) :
    Unmoved store (store.modify f (touchedFlow clock df frame)) := by
  obtain ⟨timestamp, timeout, state, first, same⟩ := touchedFlow_eq clock df frame (store.value f)
  apply Unmoved.modify
  · rw [same]
  · rw [same]
  · rw [same]
  · rw [same]
  · rw [same]
    exact id

theorem dpCntrackHandle_lasts (sustained : Sustained store) (env : NodeEnv)
    (outcomes : ConntrackOutcomes) (holds : Holds store m) :
    Lasts store (dpCntrackHandle env outcomes store m).1 ∧
      Holds (dpCntrackHandle env outcomes store m).1
        (dpCntrackHandle env outcomes store m).2.1 := by
  have finds := dpGetFlowVal_finds sustained env outcomes m
  unfold dpCntrackHandle
  split
  · rename_i after df result
    rw [result] at finds
    refine ⟨finds.lasts, ?_⟩
    intro f carried
    exact holds.outlast finds.lasts.outlasts f (finds.conntrack.symm.trans carried)
  rename_i after df f result
  rw [result] at finds
  have touched :=
    lasts_of_unmoved finds.lasts.sustained (touchedFlow_unmoved after f outcomes.clock df m.frame)
  have lasts : Lasts store _ := ⟨touched.sustained, finds.lasts.outlasts.trans touched.outlasts⟩
  obtain ⟨live, found⟩ := finds.flow f rfl
  dsimp only
  split
  · refine ⟨lasts, ?_⟩
    intro g carried
    exact holds.outlast lasts.outlasts g (finds.conntrack.symm.trans carried)
  refine ⟨lasts, ?_⟩
  intro g carried
  obtain rfl := Option.some.inj carried
  have liveNow := touched.outlasts.live f live
  refine ⟨liveNow, fun undecided => ?_⟩
  exact (touched.sustained.intact f liveNow undecided).pair found

theorem conntrack_lasts (sustained : Sustained store) (env : NodeEnv)
    (outcomes : ConntrackOutcomes) (holds : Holds store m) :
    Lasts store (conntrack env outcomes store m).1 ∧
      Holds (conntrack env outcomes store m).1 (conntrack env outcomes store m).2.1 := by
  have held : Holds store (extractHeaders m).1 :=
    fun f carried => holds f (extractHeaders_conntrack m ▸ carried)
  have tracked := dpCntrackHandle_lasts sustained env outcomes held
  rcases conntrack_cases env outcomes store m with ⟨_, -, same⟩ | ⟨_, _, _, handled, same⟩
  · rw [same]
    exact ⟨lasts_of_unmoved sustained (Unmoved.refl store), held⟩
  · rw [handled] at tracked
    rw [same]
    exact tracked

/-! ## `tx` -/

theorem tx_lasts
    (sustained : Sustained store) (holds : Holds store m) (conf : DpConf)
    (rules : Nat) : Lasts store (tx conf rules store m) := by
  unfold tx
  split
  · exact lasts_of_unmoved sustained (Unmoved.refl store)
  rename_i f carried
  obtain ⟨live, _⟩ := holds f carried
  generalize (if conf.offloadEnabled = true then rules else 0) = installed
  have counted := sustained.counted f live
  obtain ⟨flags, marked, some⟩ := markDefault_eq (store.value f)
  obtain ⟨kept, outlasts⟩ :=
    @Sustained.modify store f sustained live
      (fun value => FlowValue.addRules (FlowValue.markDefault value) installed)
      (by rw [marked]; rfl) (by rw [marked]; rfl)
      (by
        rw [marked]
        change
          (store.table.holders f).card + ((store.value f).rules + installed) ≤
            (store.value f).refCount + installed
        omega)
      (fun undecided => absurd undecided (by rw [marked]; exact some))
  exact ⟨kept, outlasts⟩

end DpService.Nodes

import DpService.Flow.Sync
import DpService.Graph.Lifetime

/-!
# The flow that is remembered

`conntrack` remembers the flow of the last packet and spares the lookup when
the next packet has the same key.  Whatever takes an entry out of the table
makes it forget, but filing an entry over another one does not.
-/

namespace DpService.Graph

open Foundations Packet Dataplane Flow Ipsec Nodes

variable {before after store : FlowStore} {m : Mbuf}

/-- The flow that is remembered is the one that is filed. -/
def Current (store : FlowStore) : Prop :=
  ∀ f, store.cache.cached = some f → store.table.lookup store.cache.other = some f

theorem current_of_forgotten (forgotten : store.cache.cached = none) : Current store := by
  intro f held
  rw [forgotten] at held
  cases held

theorem flowTableInsertEntry_flush (outcomes : InsertOutcomes) (store : FlowStore) (key : FlowKey)
    (natType : FlowNatType) (port : PortId) :
    (flowTableInsertEntry outcomes (dpCntrackFlushCache store) key natType port).2 =
      (flowTableInsertEntry outcomes store key natType port).2 := by
  rcases outcomes with ⟨_ | _, _ | _, _ | _⟩
  all_goals try rfl
  rw [flowTableInsertEntry_unanswered, flowTableInsertEntry_unanswered]

section Lookup

variable {env : NodeEnv} {outcomes : ConntrackOutcomes} {key : FlowKey} {f : Handle}

theorem dpGetFlowVal_of_hit (built : dpBuildFlowKey env store.cache.curr m = (key, true))
    (hit : (store.cache.cached.filter fun _ => decide (key = store.cache.other)) = some f) :
    (dpGetFlowVal env outcomes store m).2 =
      (dpSetPktFlowDirection env.dpdk key (store.value f) m.df, some f) := by
  rw [dpGetFlowVal, built]
  simp only [Bool.not_true, Bool.false_eq_true, if_false, hit]

theorem dpGetFlowVal_of_filed (built : dpBuildFlowKey env store.cache.curr m = (key, true))
    (miss : (store.cache.cached.filter fun _ => decide (key = store.cache.other)) = none)
    (filed : store.table.lookup key = some f) :
    (dpGetFlowVal env outcomes store m).2 =
      (dpSetPktFlowDirection env.dpdk key (store.value f) m.df, some f) := by
  rw [dpGetFlowVal, built]
  simp only [Bool.not_true, Bool.false_eq_true, if_false, miss, filed]

end Lookup

theorem Current.dpGetFlowVal_eq (current : Current store) (env : NodeEnv)
    (outcomes : ConntrackOutcomes) (m : Mbuf) :
    (dpGetFlowVal env outcomes store m).2 =
      (dpGetFlowVal env outcomes (dpCntrackFlushCache store) m).2 := by
  cases built : dpBuildFlowKey env store.cache.curr m with
  | mk key ok =>
    have flushed : dpBuildFlowKey env (dpCntrackFlushCache store).cache.curr m = (key, ok) := built
    cases ok with
    | false =>
      rw [dpGetFlowVal, dpGetFlowVal, built, flushed]
      rfl
    | true => ?_
    have inserts := flowTableInsertEntry_flush outcomes.insert
      { store with cache := { store.cache with curr := key } } key
      (newFlowNatType env (dpGetInPort env.tables.ports m) key)
      (dpGetInPort env.tables.ports m).portId
    cases hit : store.cache.cached.filter fun _ => decide (key = store.cache.other) with
    | some f =>
      obtain ⟨held, matched⟩ := Option.filter_eq_some_iff.mp hit
      have filed := current f held
      rw [← of_decide_eq_true matched] at filed
      exact (dpGetFlowVal_of_hit built hit).trans (dpGetFlowVal_of_filed flushed rfl filed).symm
    | none => ?_
    cases filed : store.table.lookup key with
    | some f =>
      exact
        (dpGetFlowVal_of_filed built hit filed).trans
          (dpGetFlowVal_of_filed flushed rfl filed).symm
    | none => ?_
    rw [dpGetFlowVal, dpGetFlowVal, built, flushed]
    simp only [dpCntrackFlushCache] at inserts
    simp only [dpCntrackFlushCache, hit, filed, Option.filter_none]
    generalize flowTableInsertEntry _ _ key _ _ = flushed at inserts
    generalize flowTableInsertEntry _ _ key _ _ = kept at inserts
    obtain ⟨_, _⟩ := flushed
    obtain ⟨_, _ | f⟩ := kept
    · obtain rfl := inserts
      rfl
    · obtain rfl := inserts
      rfl

/-! ## One event -/

theorem Current.congr (current : Current before) (table : after.table = before.table)
    (cached : after.cache.cached = before.cache.cached)
    (other : after.cache.other = before.cache.other) : Current after := by
  intro f held
  rw [table, other]
  exact current f (cached ▸ held)

theorem Current.unmoved (current : Current before) (unmoved : Unmoved before after) :
    Current after :=
  current.congr unmoved.table unmoved.cached unmoved.other

theorem Current.trim (current : Current before) (trims : Trims before after) : Current after := by
  rcases trims.cache with forgotten | ⟨cached, other, table⟩
  · exact current_of_forgotten forgotten
  · exact current.congr table cached other

def Answerable (world : World) : Event → Prop
  | .visit id _ =>
    ∀ flight ∈ world.flights.lookup id, flight.node = .dnat ∨ flight.node = .snat →
      ∀ f ∈ (world.mbufs id).df.conntrack, (world.flows.value f).flowFlags = FlowFlags.none →
        (world.flows.table.lookup (world.flows.value f).reply).isSome = true
  | _ => True

instance (world : World) (event : Event) : Decidable (Answerable world event) :=
  match event with
  | .visit id _ =>
    inferInstanceAs (Decidable (∀ flight ∈ world.flights.lookup id, _ →
      ∀ f ∈ (world.mbufs id).df.conntrack, _ → _))
  | .receive .. | .ipsecBurst .. | .request _ | .ageFlows .. | .ageRule _ => isTrue trivial

theorem replaceReplyKey_forgets {f g : Handle}
    (filed : store.table.lookup (store.value f).reply = some g) (added : Bool)
    (rewrite : FlowKey → FlowKey) :
    (replaceReplyKey added store f rewrite).1.cache.cached = none := by
  have deleted : (dpRefDec (erased store (store.value f).reply) f).cache.cached = none :=
    dpRefDec_cached rfl f
  rw [replaceReplyKey_eq, dpDeleteFlow_of_filed filed]
  cases added with
  | true => exact deleted
  | false => exact deleted

theorem Current.effect {rekeyed : Bool} (current : Current before)
    (effect : Effect m rekeyed before after)
    (filed : ∀ f ∈ m.df.conntrack, (before.value f).flowFlags = FlowFlags.none →
      (before.table.lookup (before.value f).reply).isSome = true) :
    Current after := by
  cases effect with
  | unmoved unmoved => exact current.unmoved unmoved.toUnmoved
  | rekeyed start f rewrite exchanged => ?_
  obtain ⟨g, answers⟩ :=
    Option.isSome_iff_exists.mp (filed f exchanged.carried exchanged.undecided)
  rw [← exchanged.begun.table, ← exchanged.begun.reply] at answers
  have forgotten := replaceReplyKey_forgets answers rekeyed rewrite
  exact current_of_forgotten (exchanged.finished.cached.trans forgotten)

theorem current_cacheFlow {f : Handle} (filed : store.table.lookup store.cache.curr = some f) :
    Current (dpCacheFlowVal store f) := by
  intro g held
  rw [← Option.some.inj held]
  exact filed

theorem Current.insertEntry (current : Current store) (outcomes : InsertOutcomes) (key : FlowKey)
    (natType : FlowNatType) (port : PortId)
    (refused : (flowTableInsertEntry outcomes store key natType port).2 = none) :
    Current (flowTableInsertEntry outcomes store key natType port).1 := by
  rcases outcomes with ⟨_ | _, _ | _, _ | _⟩
  all_goals try exact current.congr rfl rfl rfl
  · have filed : (store.filedNew (FlowValue.keyed key natType port)).table.lookup key =
        some store.arena.next :=
      AList.lookup_insert _
    rw [flowTableInsertEntry_unanswered, dpDeleteFlow_of_filed filed]
    exact current_of_forgotten (dpRefDec_cached rfl _)
  · cases refused

theorem dpGetFlowVal_current (current : Current store) (env : NodeEnv)
    (outcomes : ConntrackOutcomes) (m : Mbuf) :
    Current (dpGetFlowVal env outcomes store m).1 := by
  unfold dpGetFlowVal
  split
  rename_i key ok built
  have keyed : Current { store with cache := { store.cache with curr := key } } :=
    current.congr rfl rfl rfl
  dsimp only
  split
  · exact keyed
  split
  · exact keyed
  · rename_i f _ filed
    exact current_cacheFlow filed
  have inserts := keyed.insertEntry outcomes.insert key
    (newFlowNatType env (dpGetInPort env.tables.ports m) key)
    (dpGetInPort env.tables.ports m).portId
  split
  · rename_i after result
    rw [result] at inserts
    exact inserts rfl
  rename_i after f result
  obtain ⟨filed, -, cache⟩ := flowTableInsertEntry_filed result
  refine current_cacheFlow ?_
  rw [cache]
  exact filed

theorem dpCntrackHandle_current (current : Current store) (env : NodeEnv)
    (outcomes : ConntrackOutcomes) (m : Mbuf) :
    Current (dpCntrackHandle env outcomes store m).1 := by
  have looked := dpGetFlowVal_current current env outcomes m
  unfold dpCntrackHandle
  split
  · rename_i result
    rw [result] at looked
    exact looked
  rename_i after df f result
  rw [result] at looked
  have touched := looked.unmoved (touchedFlow_unmoved after f outcomes.clock df m.frame)
  dsimp only
  split
  · exact touched
  · exact touched

theorem conntrack_current (current : Current store) (env : NodeEnv)
    (outcomes : ConntrackOutcomes) (m : Mbuf) :
    Current (conntrack env outcomes store m).1 := by
  have tracked := dpCntrackHandle_current current env outcomes (extractHeaders m).1
  rcases conntrack_cases env outcomes store m with ⟨_, -, same⟩ | ⟨_, _, _, handled, same⟩
  · rw [same]
    exact current
  · rw [handled] at tracked
    rw [same]
    exact tracked

theorem Current.step {world : World} (current : Current world.flows) (dpdk : Dpdk) {event : Event}
    (answerable : Answerable world event) : Current (world.step dpdk event).flows := by
  have change := step_flows world dpdk event
  generalize (world.step dpdk event).flows = after at change ⊢
  cases change with
  | same => exact current
  | tracked id outcomes => exact conntrack_current current _ _ _
  | passed unmoved => exact current.unmoved unmoved
  | translated found node effect =>
    exact current.effect effect (answerable _ found (node.imp And.left And.left))
  | sent id outcomes => exact current.trim (tx_trims _ _)
  | removed request chosen stored => exact current.trim (Trims.removeFlows chosen stored _)
  | aged now timerHz expired => exact current.trim (Trims.ageFlows now timerHz expired _)
  | ruleAged f => exact current.trim (Trims.dropRule _ f)

/-! ## Whole runs -/

theorem forgotten_dpDeleteFlow {key : FlowKey} {f : Handle} {deleted : Bool}
    (result : dpDeleteFlow store key f = (after, deleted))
    (forgotten : store.cache.cached = none) : after.cache.cached = none := by
  have trims := Trims.deleteFlow store key f
  rw [result] at trims
  rcases trims.cache with flushed | ⟨cached, -⟩
  · exact flushed
  · exact cached.trans forgotten

theorem forgotten_dpCntrackFromSyncNat (forgotten : store.cache.cached = none)
    (outcomes : InsertOutcomes) (key : PortoverloadKey) (allocation : Allocation)
    (icmp : IcmpMetadata) (timestamp : UInt64) :
    (dpCntrackFromSyncNat outcomes store key allocation icmp timestamp).1.cache.cached = none := by
  unfold dpCntrackFromSyncNat
  dsimp only
  split
  · exact forgotten
  split
  · exact forgotten
  rcases outcomes with ⟨_, _ | _, _ | _⟩
  · exact forgotten
  · exact forgotten
  · simp only [dpAddFlow, if_true, Bool.false_eq_true, if_false]
    split
    · rename_i deleted
      exact forgotten_dpDeleteFlow deleted forgotten
    · rename_i remaining deleted
      have kept : remaining.cache.cached = none := forgotten_dpDeleteFlow deleted forgotten
      exact kept
  · exact forgotten

/-- The flows of a service that starts, or of a backup that becomes active. -/
inductive Started : FlowStore → Prop
  | empty : Started FlowStore.empty
  | promoted (outcomes : PortoverloadKey → InsertOutcomes) (timestamp : UInt64) (backup : Backup) :
      Started (dpCreateSyncSnatFlows outcomes timestamp backup)

theorem Started.current (started : Started store) : Current store := by
  cases started with
  | empty => exact current_of_forgotten rfl
  | promoted outcomes timestamp backup => ?_
  apply current_of_forgotten
  unfold dpCreateSyncSnatFlows
  apply List.foldlRecOn (motive := fun store : FlowStore => store.cache.cached = none)
  · rfl
  · intro store forgotten entry _
    exact forgotten_dpCntrackFromSyncNat forgotten ..

/-- In every run in which the NAT nodes only translate flows that have the
entry of their answers, a packet gets the flow and the direction that it would
get without the cache. -/
theorem cache_of_run (dpdk : Dpdk) (start : StartUp) (world : World) (started : Started world.flows)
    (events : List Event) (answerable : (serviceMachine dpdk start).Along Answerable world events)
    (env : NodeEnv) (outcomes : ConntrackOutcomes) (m : Mbuf) :
    (dpGetFlowVal env outcomes ((serviceMachine dpdk start).runFrom world events).flows m).2 =
      (dpGetFlowVal env outcomes
        (dpCntrackFlushCache ((serviceMachine dpdk start).runFrom world events).flows) m).2 := by
  have current : Current ((serviceMachine dpdk start).runFrom world events).flows :=
    @Machine.runFrom_invariant_along _ _ (serviceMachine dpdk start)
      (fun world => Current world.flows) Answerable
      (fun _ _ answerable current => current.step dpdk answerable) world events answerable
      started.current
  exact current.dpGetFlowVal_eq env outcomes m

def guestRemembered : List Event :=
  createGuest false :: (guestSends 1 (guestFrame ipprotoUdp 0x08080808 (udpHeader 4000 53))).take 3

theorem guestRemembered_current :
    ((hostMachine hostConf).run guestRemembered).flows.cache.cached = some 0 ∧ ∀ env outcomes m,
        (dpGetFlowVal env outcomes ((hostMachine hostConf).run guestRemembered).flows m).2 =
          (dpGetFlowVal env outcomes
            (dpCntrackFlushCache ((hostMachine hostConf).run guestRemembered).flows) m).2 :=
  ⟨by decide +kernel, cache_of_run zeroDpdk (hostStart hostConf) _ .empty guestRemembered
    (Machine.along_of_check (fun _ _ => of_decide_eq_true) (by decide +kernel))⟩

theorem dpGetFlowVal_stale {env : NodeEnv} {outcomes : ConntrackOutcomes} {key : FlowKey}
    {f g : Handle} (built : dpBuildFlowKey env store.cache.curr m = (key, true))
    (remembered : store.cache.other = key ∧ store.cache.cached = some f)
    (filed : store.table.lookup key = some g) (different : f ≠ g) :
    (dpGetFlowVal env outcomes store m).2 ≠
      (dpGetFlowVal env outcomes (dpCntrackFlushCache store) m).2 := by
  have hit : (store.cache.cached.filter fun _ => decide (key = store.cache.other)) = some f := by
    rw [remembered.1, remembered.2]
    simp [Option.filter]
  rw [dpGetFlowVal_of_hit built hit,
    @dpGetFlowVal_of_filed (dpCntrackFlushCache store) m env outcomes key g built rfl filed]
  exact fun same => different (Option.some.inj (congrArg Prod.snd same))

/-- The flow of 10.0.0.2 has lost the entry of its answers as before, and
172.16.0.9 has become the VIP of that guest.  While its next datagram waits at
`snat`, a packet from the outside has its flow filed where the answers are
expected. -/
def filedOver : List Event :=
  [createNeighbour, .request (.configure Network.empty)] ++ neighbourSends 1 ++
    [removePort 0x0a000002 4000, .request (.configure hostNetwork),
      createVip "neighbour" 0xac100009 9] ++
    (neighbourSends 3).take 5 ++
    [.receive 4
      (tunnelled peerUnderlay { guestUnderlay with sfx := 9 }
        (ipv4Packet ipprotoUdp 0x08080808 0xac100009 (udpHeader 53 4000)))
      0] ++
    visits 4 3 ++ visits 3 1

def outsideKey : FlowKey where
  l3Dst := .v4 0xac100009
  proto := ipprotoUdp
  portDst := 4000
  l3Src := .v4 0x08080808
  vnfType := .undefined
  src := 53
  vni := 100

theorem filedOver_stale : ∃ env outcomes m,
      (dpGetFlowVal env outcomes ((hostMachine hostConf).run filedOver).flows m).2 ≠
        (dpGetFlowVal env outcomes
          (dpCntrackFlushCache ((hostMachine hostConf).run filedOver).flows) m).2 := by
  have ends :
      (((hostMachine hostConf).run filedOver).flows.table.entries.any fun entry =>
          entry.1 == outsideKey && entry.2 == 0) = true ∧
        ((hostMachine hostConf).run filedOver).flows.cache.other = outsideKey ∧
        ((hostMachine hostConf).run filedOver).flows.cache.cached = some 1 ∧
        dpBuildFlowKey (((hostMachine hostConf).run filedOver).env zeroDpdk)
            ((hostMachine hostConf).run filedOver).flows.cache.curr
            (((hostMachine hostConf).run filedOver).mbufs 4) = (outsideKey, true) := by
    decide +kernel
  generalize (hostMachine hostConf).run filedOver = world at ends
  obtain ⟨filed, other, cached, built⟩ := ends
  obtain ⟨⟨key, f⟩, member, same⟩ := List.any_eq_true.mp filed
  simp only [Bool.and_eq_true, beq_iff_eq] at same
  obtain ⟨rfl, rfl⟩ := same
  exact
    ⟨world.env zeroDpdk, NodeOutcomes.succeed.conntrack, world.mbufs 4,
      dpGetFlowVal_stale built ⟨other, cached⟩
        (FiniteTable.lookup_of_mem_entries world.flows.table member) (by decide)⟩

end DpService.Graph

import DpService.Flow.Exactness
import DpService.Graph.Lifetime
import DpService.Graph.Mappings

/-!
# No flow outlives its entries

Without offloading and as long as no packet takes an entry from another flow,
the references of a flow are its entries in every state of the service.  When
the last entries are gone, so are all flows and the NAT ports that they had.
A packet to the address and port that it came from has one key for both
directions, and its flow one entry for two references.
-/

namespace DpService.Graph

open Foundations Packet Dataplane Flow Ipsec Nodes

variable {world : World} {dpdk : Dpdk}

variable {before after flows : FlowStore} {m : Mbuf} {own : Option Handle}

/-! ## One node -/

theorem effect_wellCounted (effect : Effect m true before after) (sustained : Sustained before)
    (holds : Holds before m) (wellCounted : WellCounted before)
    (gentle : Gentle m.df.conntrack before after) : WellCounted after := by
  cases effect with
  | unmoved unmoved => exact unmoved.wellCounted wellCounted
  | rekeyed start f rewrite exchanged => ?_
  have undecided := exchanged.undecided
  have begun := exchanged.begun.toUnmoved
  have finished := exchanged.finished.toUnmoved
  obtain ⟨live, twice⟩ := holds f exchanged.carried
  have two := twice undecided
  rw [exchanged.carried] at gentle
  obtain ⟨_, _, refiles⟩ :=
    sustained.rekey live undecided two begun exchanged.decided true rewrite
  obtain ⟨different, holders⟩ :=
    wellCounted.holders_eq live (sustained.intact f live undecided) two
  rw [← begun.org, ← begun.reply] at different holders
  rw [← begun.table] at holders
  exact
    finished.wellCounted
      ((begun.wellCounted wellCounted).rekey
        ((begun.live_iff f).mpr live) different holders refiles
        (gentle.of_unmoved begun finished))

theorem tx_unmoved {conf : DpConf} (noOffload : conf.offloadEnabled = false) (rules : Nat)
    (store : FlowStore) (m : Mbuf) :
    Unmoved store (tx conf rules store m) := by
  unfold tx
  split
  · exact Unmoved.refl store
  rename_i f carried
  rw [noOffload]
  obtain ⟨flags, marked, some⟩ := markDefault_eq (store.value f)
  apply Unmoved.modify
  · rw [marked]
    rfl
  · rw [marked]
    rfl
  · rw [marked]
    rfl
  · rw [marked]
    rfl
  · rw [marked]
    intro undecided
    exact absurd undecided some

theorem dpGetFlowVal_wellCounted (env : NodeEnv) {outcomes : ConntrackOutcomes}
    (succeed : outcomes.insert = InsertOutcomes.succeed)
    (sustained : Sustained flows) (wellCounted : WellCounted flows)
    (gentle : Gentle own flows (dpGetFlowVal env outcomes flows m).1) :
    WellCounted (dpGetFlowVal env outcomes flows m).1 := by
  unfold dpGetFlowVal at gentle ⊢
  split
  rename_i key ok built
  rw [built] at gentle
  have keyed := Unmoved.setCurr flows key
  have counted := keyed.wellCounted wellCounted
  dsimp only at gentle ⊢
  split
  · exact counted
  rename_i isKey
  rw [if_neg isKey] at gentle
  split
  · exact counted
  · exact ⟨counted.exactly, counted.kept, counted.noRules⟩
  rename_i miss absent
  rw [succeed] at gentle ⊢
  simp only [miss, absent, flowTableInsertEntry_succeed] at gentle
  rw [flowTableInsertEntry_succeed]
  have inserted :=
    counted.inserted (keyed.sustained sustained).toLasting ⟨gentle.entries, gentle.apart⟩
  exact ⟨inserted.exactly, inserted.kept, inserted.noRules⟩

theorem conntrack_wellCounted (env : NodeEnv) {outcomes : ConntrackOutcomes}
    (succeed : outcomes.insert = InsertOutcomes.succeed)
    (sustained : Sustained flows) (wellCounted : WellCounted flows)
    (gentle : Gentle own flows (conntrack env outcomes flows m).1) :
    WellCounted (conntrack env outcomes flows m).1 := by
  have handled : ∀ packet : Mbuf, Gentle own flows (dpCntrackHandle env outcomes flows packet).1 →
        WellCounted (dpCntrackHandle env outcomes flows packet).1 := by
    intro packet gentle
    have looked :=
      @dpGetFlowVal_wellCounted flows packet own env outcomes succeed sustained wellCounted
    unfold dpCntrackHandle at gentle ⊢
    split
    · rename_i result
      rw [result] at gentle looked
      exact looked gentle
    rename_i store df f result
    rw [result] at gentle looked
    have touched := touchedFlow_unmoved store f outcomes.clock df packet.frame
    dsimp only at gentle ⊢
    split
    · rename_i refused
      rw [if_pos refused] at gentle
      exact touched.wellCounted (looked (gentle.of_unmoved (Unmoved.refl flows) touched))
    · rename_i passed
      rw [if_neg passed] at gentle
      exact touched.wellCounted (looked (gentle.of_unmoved (Unmoved.refl flows) touched))
  rcases conntrack_cases env outcomes flows m with ⟨_, -, same⟩ | ⟨_, _, _, tracked, same⟩
  · rw [same]
    exact wellCounted
  have counted := handled (extractHeaders m).1
  rw [tracked] at counted
  rw [same] at gentle ⊢
  exact counted gentle

/-! ## One event -/

/-- Every insertion succeeds, nothing is offloaded, no packet takes an entry
from another flow or has one key for both directions, and a removal takes the
entries of a flow that nobody has decided about together. -/
def GentleEvent (dpdk : Dpdk) (world : World) : Event → Prop
  | .visit id outcomes =>
    Succeeds outcomes ∧ world.tables.conf.offloadEnabled = false ∧
      Gentle (world.mbufs id).df.conntrack world.flows (world.visit dpdk id outcomes).flows
  | event => KeepsPairs world event

theorem step_wellCounted {event : Event} (lived : Lived world)
    (wellCounted : WellCounted world.flows) (gentle : GentleEvent dpdk world event) :
    WellCounted (world.step dpdk event).flows := by
  have sustained := lived.sustained
  have change := step_flows world dpdk event
  generalize after : (world.step dpdk event).flows = flows at change ⊢
  cases change with
  | same => exact wellCounted
  | tracked id outcomes =>
    obtain ⟨succeeds, -, gentle⟩ := gentle
    exact conntrack_wellCounted _ succeeds.inserted sustained wellCounted (after ▸ gentle)
  | passed unmoved => exact unmoved.wellCounted wellCounted
  | @translated id outcomes _ rekeyed flight found node effect =>
    obtain ⟨succeeds, -, gentle⟩ := gentle
    obtain rfl : rekeyed = true := by
      rcases node with ⟨-, rfl⟩ | ⟨-, rfl⟩
      · exact succeeds.rekeyed
      · exact succeeds.snatRekeyed
    have holds : Holds world.flows (world.mbufs id) := by
      have here := lived.packets id flight found
      rcases node with ⟨waits, -⟩ | ⟨waits, -⟩
      all_goals
        rw [waits] at here
        exact (here.resolve_left nofun).resolve_left nofun
    exact effect_wellCounted effect sustained holds wellCounted (after ▸ gentle)
  | sent id outcomes =>
    obtain ⟨-, noOffload, -⟩ := gentle
    exact (tx_unmoved noOffload _ _ _).wellCounted wellCounted
  | removed request chosen stored =>
    exact wellCounted.remove sustained.toLasting chosen stored
  | aged now timerHz expired =>
    exact wellCounted.age sustained.toLasting now timerHz expired
  | ruleAged f =>
    rw [dropRule, if_pos (wellCounted.noRules f)]
    exact wellCounted

theorem keepsPairs_of_gentle {event : Event}
    (gentle : GentleEvent dpdk world event) : KeepsPairs world event := by
  cases event with
  | visit id outcomes => trivial
  | _ => exact gentle

structure Exact (world : World) : Prop where
  lived : Lived world
  counted : WellCounted world.flows

theorem exact_run (dpdk : Dpdk) (start : StartUp) {events : List Event}
    (gentle : (serviceMachine dpdk start).Along (GentleEvent dpdk) start.world events) :
    Exact ((serviceMachine dpdk start).run events) := by
  refine Machine.runFrom_invariant_along ?_ events gentle ⟨lived_start start, wellCounted_empty⟩
  intro world event allowed kept
  exact
    ⟨kept.lived.step dpdk (keepsPairs_of_gentle allowed),
      step_wellCounted kept.lived kept.counted allowed⟩

/-- In every run of gentle events a flow that was not freed has exactly as many
references as entries.  Without entries there are no flows, and no port is in
use if every port belonged to a flow. -/
theorem exactlyCounted_of_run (dpdk : Dpdk) (start : StartUp) (events : List Event)
    (gentle : (serviceMachine dpdk start).Along (GentleEvent dpdk) start.world events) :
    ExactlyCounted ((serviceMachine dpdk start).run events).flows ∧
      (((serviceMachine dpdk start).run events).flows.table.entries = [] →
        (∀ f, ¬ ((serviceMachine dpdk start).run events).flows.Live f) ∧
          (OrderlyRun mappingDemands dpdk start events →
            ∀ key, ((serviceMachine dpdk start).run
              events).flows.ports.portoverload.lookup key = none)) := by
  have counted := (exact_run dpdk start gentle).counted
  refine ⟨counted.exactly, fun empty => ?_⟩
  have gone := counted.not_live empty
  refine ⟨gone, fun orderly key => ?_⟩
  have shared := (tracked_run dpdk start orderly).shared
  cases held : ((serviceMachine dpdk start).run events).flows.ports.portoverload.lookup key with
  | none => rfl
  | some allocation =>
    obtain ⟨f, live, _⟩ := shared.owned trivial key allocation held
    exact absurd live (gone f)

/-! ### The guest's datagrams -/

def checkGentle (own : Option Handle) (before after : FlowStore) : Bool :=
  (before.table.entries.all fun entry =>
    after.table.lookup entry.1 == some entry.2 ||
      (own == some entry.2 && (after.table.lookup entry.1).isNone)) &&
    (List.range after.arena.next).all fun f =>
      after.arena.freed f != 0 || (after.value f).org != (after.value f).reply

theorem gentle_of_check (checked : checkGentle own before after = true) :
    Gentle own before after := by
  rw [checkGentle, Bool.and_eq_true, List.all_eq_true, List.all_eq_true] at checked
  constructor
  · intro key g filed
    have entry := checked.1 ⟨key, g⟩ (FiniteTable.mem_entries_of_lookup before.table filed)
    simpa using entry
  · intro f live
    have keys := checked.2 f (List.mem_range.mpr live.1)
    simpa [live.2] using keys

def checkGentleEvent (dpdk : Dpdk) (world : World) : Event → Bool
  | .visit id outcomes =>
    decide (outcomes.conntrack.insert = InsertOutcomes.succeed) &&
      outcomes.rekeyed && outcomes.snat.rekeyed &&
      !world.tables.conf.offloadEnabled &&
      checkGentle (world.mbufs id).df.conntrack world.flows (world.visit dpdk id outcomes).flows
  | event => checkKeepsPairs world event

theorem gentleEvent_of_check (dpdk : Dpdk) (world : World) (event : Event)
    (checked : checkGentleEvent dpdk world event = true) :
    GentleEvent dpdk world event := by
  cases event with
  | visit id outcomes =>
    simp only [checkGentleEvent, Bool.and_eq_true, decide_eq_true_eq, Bool.not_eq_true'] at checked
    obtain ⟨⟨⟨⟨inserted, rekeyed⟩, snatRekeyed⟩, noOffload⟩, gentle⟩ := checked
    exact ⟨⟨inserted, rekeyed, snatRekeyed⟩, noOffload, gentle_of_check gentle⟩
  | request request => exact keepsPairs_of_check world (.request request) checked
  | _ => trivial

/-- When the flows of the datagrams have timed out, nothing is left. -/
theorem guestExpires_released : ((hostMachine hostConf).run guestExpires).flows.arena.next = 2 ∧
      (∀ f, ¬ ((serviceMachine zeroDpdk (hostStart hostConf)).run guestExpires).flows.Live f) ∧
      ∀ key, ((serviceMachine zeroDpdk (hostStart hostConf)).run
        guestExpires).flows.ports.portoverload.lookup key = none := by
  obtain ⟨_, released⟩ :=
    exactlyCounted_of_run zeroDpdk (hostStart hostConf) guestExpires
      (Machine.along_of_check (gentleEvent_of_check zeroDpdk) (by decide +kernel))
  obtain ⟨gone, freed⟩ := released (by decide +kernel)
  exact ⟨by decide +kernel, gone, freed (orderlyRun_of_check mappingDemands (by decide +kernel))⟩

def guestSendsToItself : List Event :=
  createGuest false :: guestSends 1 (guestFrame ipprotoUdp 0x0a000001 (udpHeader 4000 4000))

theorem guestSendsToItself_miscounted :
    ¬ ExactlyCounted ((hostMachine hostConf).run guestSendsToItself).flows := by
  have counts : (((hostMachine hostConf).run guestSendsToItself).flows.value 0).refCount = 2 ∧
        (((hostMachine hostConf).run guestSendsToItself).flows.table.holders 0).card = 1 ∧
        0 < ((hostMachine hostConf).run guestSendsToItself).flows.arena.next ∧
        ((hostMachine hostConf).run guestSendsToItself).flows.arena.freed 0 = 0 := by
    decide +kernel
  generalize ((hostMachine hostConf).run guestSendsToItself).flows = store at *
  obtain ⟨two, one, made, kept⟩ := counts
  intro exactly
  have same := exactly 0 ⟨made, kept⟩
  rw [two, one] at same
  cases same

end DpService.Graph

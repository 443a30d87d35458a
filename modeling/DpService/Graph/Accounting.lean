import DpService.Flow.Accounting
import DpService.Graph.Uniqueness

/-!
# Accounting in orderly runs

As long as no counter would have to count beyond sixteen bits, the counters of
NAT ports are right in every state of an orderly run in which a flow's port is
counted for the interface that the flow was created for.  A flow that could
not be filed anew gives its port back twice, and then they are wrong.
-/

namespace DpService.Graph

open Foundations Packet Dataplane Flow Ipsec Nodes

/-- A flow's port is counted for the interface that created the flow. -/
def accountDemands : Demands where
  charged := True
  owned := False

/-- The books are right, and entries have the ports of their mappings. -/
structure Booked (ports : NatPorts) : Prop where
  accounted : Accounted ports
  agreed : Agreed ports

section Steps

variable {demands : Demands} {before after : NatPorts}

theorem booked_of_visit (visit : PortVisit before after) (countable : Countable after)
    (booked : Booked before) : Booked after := by
  cases visit with
  | unchanged same =>
    exact ⟨same.accounted booked.accounted, same.agreed booked.agreed⟩
  | allocated key allocation allocates =>
    exact
      ⟨allocates.accounted booked.accounted countable,
        allocates.toRecords.agreed booked.accounted.toCounted booked.agreed⟩

theorem booked_of_returned (charged : demands.charged)
    (returned : PortReturned demands before after) (booked : Booked before) : Booked after := by
  rcases returned with same | ⟨key, allocation, portId, returns, counted⟩
  · rw [same]
    exact booked
  · exact
      ⟨returns.accounted (counted charged) booked.accounted, returns.toForgets.agreed booked.agreed⟩

theorem PortStep.booked (charged : demands.charged) (step : PortStep demands before after)
    (countable : Countable after) (booked : Booked before) :
    Booked after := by
  cases step with
  | visited visit => exact booked_of_visit visit countable booked
  | swept returned => ?_
  clear countable
  induction returned with
  | refl => exact booked
  | tail _ last ih =>
    exact booked_of_returned charged last ih

end Steps

/-- An event is orderly and leaves no counter behind that overruns. -/
structure Accountable
    (demands : Demands) (dpdk : Dpdk) (world : World) (event : Event) :
    Prop where
  orderly : Orderly demands dpdk world event
  countable : Countable (world.step dpdk event).flows.ports

def AccountableRun (demands : Demands) (dpdk : Dpdk) (start : StartUp) (events : List Event) :
    Prop :=
  (serviceMachine dpdk start).Along (Accountable demands dpdk) start.world events

theorem booked_run {demands : Demands} (charged : demands.charged) (dpdk : Dpdk) (start : StartUp)
    {events : List Event} (accountable : AccountableRun demands dpdk start events) :
    Tracked demands ((serviceMachine dpdk start).run events) ∧
      Booked ((serviceMachine dpdk start).run events).flows.ports := by
  have preserved : ∀ world event, Accountable demands dpdk world event →
      Tracked demands world ∧ Booked world.flows.ports → Tracked demands (world.step dpdk event) ∧
          Booked (world.step dpdk event).flows.ports := by
    intro world event allowed held
    have stepped := held.1.step allowed.orderly
    exact ⟨stepped.tracked, stepped.ports.booked charged allowed.countable held.2⟩
  exact
    Machine.runFrom_invariant_along preserved events accountable
      ⟨tracked_start demands start, accounted_empty, nofun⟩

theorem accounted_of_run (dpdk : Dpdk) (start : StartUp) (events : List Event)
    (accountable : AccountableRun accountDemands dpdk start events) :
    Accounted ((serviceMachine dpdk start).run events).flows.ports :=
  (booked_run trivial dpdk start accountable).2.accounted

/-! ## Checking a run -/

def checkAccountable (dpdk : Dpdk) (world : World) (event : Event) : Bool :=
  checkOrderly dpdk world event &&
    decide ((world.step dpdk event).flows.ports.portoverload.entries.length < 65536)

theorem accountableRun_of_check
    (demands : Demands) {dpdk : Dpdk} {start : StartUp} {events : List Event}
    (checked :
      (serviceMachine dpdk start).checkAlong (checkAccountable dpdk) start.world events = true) :
    AccountableRun demands dpdk start events := by
  refine Machine.along_of_check (fun world event holds => ?_) checked
  rw [checkAccountable, Bool.and_eq_true] at holds
  exact
    ⟨orderly_of_check demands dpdk world event holds.1,
      countable_of_few (of_decide_eq_true holds.2)⟩

def guestExpires : List Event :=
  guestDatagrams ++ [.ageFlows 1000000 1 fun _ => 0]

theorem guestExpires_accounted :
    Accounted ((serviceMachine zeroDpdk (hostStart hostConf)).run guestExpires).flows.ports ∧
      ((hostMachine hostConf).run guestExpires).flows.ports.usedPortCnt 2 = 0 :=
  ⟨accounted_of_run zeroDpdk (hostStart hostConf) guestExpires
      (accountableRun_of_check accountDemands (by decide +kernel)),
    by decide +kernel⟩

def guestAtSnat : List Event :=
  guestBehindNat onePort ++ [.receive 1 (guestFrame ipprotoUdp 0x08080808 (udpHeader 4000 53)) 2] ++
    visits 1 4

def unfiled : SnatOutcomes where
  ports := PortOutcomes.succeed
  rekeyed := false

def guestUnfiled : List Event :=
  guestAtSnat ++ [.visit 1 { NodeOutcomes.succeed with snat := unfiled }] ++ visits 1 1

/-- `snat` gives the port back, and the flow gives it back once more when it
times out. -/
def guestUnfiledExpires : List Event :=
  guestUnfiled ++ [.ageFlows 1000000 1 fun _ => 0]

theorem guestUnfiledExpires_wraps :
    ¬ Accounted ((hostMachine hostConf).run guestUnfiledExpires).flows.ports := by
  have used :
      ((hostMachine hostConf).run guestUnfiledExpires).flows.ports.usedPortCnt 2 = 65535 := by
    decide +kernel
  have entries :
      ((hostMachine hostConf).run
        guestUnfiledExpires).flows.ports.portoverload.entries.length = 0 := by
    decide +kernel
  generalize ((hostMachine hostConf).run guestUnfiledExpires).flows.ports = ports at *
  intro accounted
  have counted := accounted.usedPortCnt 2
  have few : (ports.ofInterface 2).card ≤ ports.portoverload.entries.length :=
    FiniteTable.card_keysWhere_le ports.portoverload _
  rw [used] at counted
  rw [← counted, entries] at few
  exact absurd few (by decide)

end DpService.Graph

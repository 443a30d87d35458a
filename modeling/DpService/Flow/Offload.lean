import DpService.Flow.Store
import DpService.Foundations.Machine

/-!
# Decisions to offload a flow

Conntrack advances a status for each direction of a flow with every packet
and copies it into the packet.  The tx node acts on the copy later: a packet
that carries `DP_FLOW_OFFLOAD_INSTALL` has its rules installed.  Between the
two, further packets of the flow may pass conntrack.
-/

namespace DpService.Flow

open Foundations Packet

inductive OffloadStatus where
  | nonOffload
  | offloadInstall
  | offloaded
  deriving DecidableEq, Repr

/-- The port a packet came in on. -/
inductive Ingress where
  | pf0
  | pf1
  | vf (port : PortId)
  deriving DecidableEq, Repr

def Ingress.isPf : Ingress → Bool
  | .vf _ => false
  | _ => true

/-- `offload_state` and `incoming_flow_offloaded_flag` of a flow. -/
structure OffloadFlags where
  status : FlowDir → OffloadStatus
  offloadedOn : Ingress → Bool

structure TrackedPacket where
  flowDir : FlowDir
  ingress : Ingress
  natType : FlowNatType
  vnfType : VnfType
  isTcp : Bool
  /-- The state of the TCP connection with this packet. -/
  tcpState : TcpState
  deriving DecidableEq

def dpCntrackInitFlowOffloadFlags (isTcp : Bool) : OffloadFlags where
  status
    | .org => if isTcp then .nonOffload else .offloadInstall
    | .reply => .nonOffload
  offloadedOn _ := false

def dpCntrackChangeFlowOffloadFlags (packet : TrackedPacket) (flags : OffloadFlags) :
    OffloadFlags :=
  let offloadOtherPf := packet.ingress.isPf && !flags.offloadedOn packet.ingress
  let status := flags.status packet.flowDir
  if status = .nonOffload || offloadOtherPf then
    { flags with status := Function.update flags.status packet.flowDir .offloadInstall }
  else if status = .offloadInstall then
    { flags with status := Function.update flags.status packet.flowDir .offloaded }
  else flags

def TrackedPacket.changesFound (packet : TrackedPacket) : Bool :=
  if packet.natType = .networkNeigh || packet.natType = .lbForward ||
      packet.natType = .lbLocalNeighTraffic then true
  else if packet.vnfType = .lb then false
  else !packet.isTcp

def changeWhen (moves : Bool) (packet : TrackedPacket) (flags : OffloadFlags) : OffloadFlags :=
  if moves then dpCntrackChangeFlowOffloadFlags packet flags else flags

/-- `dp_set_flow_offload_flag`, called for a flow that was found. -/
def dpSetFlowOffloadFlag (packet : TrackedPacket) (flags : OffloadFlags) : OffloadFlags :=
  changeWhen packet.changesFound packet flags

def TrackedPacket.changesTcp (packet : TrackedPacket) : Bool :=
  packet.isTcp && packet.vnfType ≠ .lb && (packet.tcpState = .established ||
    packet.tcpState = .finwait || packet.tcpState = .rstFin)

/-- What `dp_cntrack_handle` does to the flags of a TCP flow. -/
def changeTcpFlowOffloadFlags (packet : TrackedPacket) (flags : OffloadFlags) : OffloadFlags :=
  changeWhen packet.changesTcp packet flags

/-- A flow, what its packets on their way to tx are to install, and what was
installed for it. -/
structure Offloading where
  flags : OffloadFlags
  awaiting : List (FlowDir × Ingress)
  installed : List (FlowDir × Ingress)

/-- `dp_cntrack_set_pkt_offload_decision`. -/
def Offloading.decide (state : Offloading) (packet : TrackedPacket) (flags : OffloadFlags) :
    Offloading :=
  if flags.status packet.flowDir = .offloadInstall then
    { state with flags, awaiting := (packet.flowDir, packet.ingress) :: state.awaiting }
  else { state with flags }

def Offloading.leave (state : Offloading) (rule : FlowDir × Ingress) : Offloading :=
  { state with awaiting := state.awaiting.erase rule }

/-- `dp_offload_handler` with all `rte_flow` calls succeeding.  Only the
handler of decapsulated traffic notes the port. -/
def dpOffloadHandler (state : Offloading) (rule : FlowDir × Ingress) (outIsPf : Bool)
    (natType : FlowNatType) : Offloading :=
  let inNetwork : Bool := natType = .networkNeigh || natType = .lbForward
  let install := { state with installed := rule :: state.installed }
  if !rule.2.isPf && !outIsPf then install
  else if outIsPf then
    if inNetwork = rule.2.isPf then install else state
  else
    { install with
      flags.offloadedOn := Function.update state.flags.offloadedOn rule.2 true }

inductive OffloadEvent where
  /-- Conntrack handles a packet of the flow. -/
  | track (packet : TrackedPacket)
  /-- The snat and lb nodes keep the echo requests of a flow out of the
  hardware. -/
  | exempt (rule : FlowDir × Ingress)
  /-- A packet is dropped or recirculated, or dnat withdraws its decision. -/
  | release (rule : FlowDir × Ingress)
  | transmit (rule : FlowDir × Ingress) (outIsPf : Bool) (natType : FlowNatType)

def Offloading.step (state : Offloading) : OffloadEvent → Offloading
  | .track packet =>
    state.decide packet
      (changeTcpFlowOffloadFlags packet (dpSetFlowOffloadFlag packet state.flags))
  | .exempt rule => { state.leave rule with flags.status := fun _ => .offloaded }
  | .release rule => state.leave rule
  | .transmit rule outIsPf natType =>
    if rule ∈ state.awaiting then dpOffloadHandler (state.leave rule) rule outIsPf natType
    else state

/-- The flow is created for its first packet. -/
def offloadMachine (first : TrackedPacket) : Machine Offloading OffloadEvent where
  init :=
    let flags := dpCntrackInitFlowOffloadFlags first.isTcp
    Offloading.decide ⟨flags, [], []⟩ first (changeTcpFlowOffloadFlags first flags)
  step := Offloading.step

/-- A packet from a PF passes conntrack while no other packet from that PF
waits for its installation, a packet that finds its direction waiting moves
the status on, and what comes from a PF leaves through a VF. -/
def OneAtATime (state : Offloading) : OffloadEvent → Prop
  | .track packet =>
    (packet.ingress.isPf = true → ∀ rule ∈ state.awaiting, rule.2 ≠ packet.ingress) ∧
    (state.flags.status packet.flowDir = .offloadInstall →
      (packet.changesFound || packet.changesTcp) = true)
  | .transmit rule outIsPf _ => rule.2.isPf = true → outIsPf = false
  | _ => True

/-! ## Changes of the flags -/

section Change

variable {packet : TrackedPacket} {flags : OffloadFlags} {dir : FlowDir}

@[simp]
theorem offloadedOn_changeFlowOffloadFlags :
    (dpCntrackChangeFlowOffloadFlags packet flags).offloadedOn = flags.offloadedOn := by
  simp only [dpCntrackChangeFlowOffloadFlags]
  split
  · rfl
  · split <;> rfl

theorem status_changeFlowOffloadFlags_ne (started : flags.status dir ≠ .nonOffload) :
    (dpCntrackChangeFlowOffloadFlags packet flags).status dir ≠ .nonOffload := by
  simp only [dpCntrackChangeFlowOffloadFlags]
  by_cases same : dir = packet.flowDir
  · subst same
    split
    · simp
    · split <;> simp [started]
  · split
    · simpa [same] using started
    · split <;> simpa [same] using started

/-- A direction is asked to be installed for the first time, or on a PF that
has no rule of the flow. -/
theorem eq_of_changeFlowOffloadFlags_install
    (install : (dpCntrackChangeFlowOffloadFlags packet flags).status packet.flowDir =
      .offloadInstall) :
    flags.status packet.flowDir = .nonOffload ∨
      packet.ingress.isPf = true ∧ flags.offloadedOn packet.ingress = false := by
  by_cases asked : flags.status packet.flowDir = .nonOffload ∨
      packet.ingress.isPf = true ∧ flags.offloadedOn packet.ingress = false
  · exact asked
  · have ⟨started, known⟩ := not_or.mp asked
    cases status : flags.status packet.flowDir <;>
      simp_all [dpCntrackChangeFlowOffloadFlags]

@[simp]
theorem offloadedOn_changeWhen {moves : Bool} :
    (changeWhen moves packet flags).offloadedOn = flags.offloadedOn := by
  cases moves
  · rfl
  · exact offloadedOn_changeFlowOffloadFlags

theorem status_changeWhen_ne {moves : Bool} (started : flags.status dir ≠ .nonOffload) :
    (changeWhen moves packet flags).status dir ≠ .nonOffload := by
  cases moves
  · exact started
  · exact status_changeFlowOffloadFlags_ne started

theorem eq_of_changeWhen_install {moves : Bool}
    (install : (changeWhen moves packet flags).status packet.flowDir = .offloadInstall) :
    (moves = false ∧ flags.status packet.flowDir = .offloadInstall) ∨
      flags.status packet.flowDir = .nonOffload ∨
      packet.ingress.isPf = true ∧ flags.offloadedOn packet.ingress = false := by
  cases moves
  · exact .inl ⟨rfl, install⟩
  · exact .inr (eq_of_changeFlowOffloadFlags_install install)

end Change

/-! ## At most one installation -/

/-- Nothing is installed or waited for twice. -/
structure Offloading.Once (state : Offloading) : Prop where
  nodup : (state.awaiting ++ state.installed).Nodup
  started : ∀ rule ∈ state.awaiting ++ state.installed,
    state.flags.status rule.1 ≠ .nonOffload
  noted : ∀ rule ∈ state.installed, rule.2.isPf = true → state.flags.offloadedOn rule.2 = true

namespace Offloading.Once

variable {state : Offloading} {rule : FlowDir × Ingress}

theorem leave (once : state.Once) : (state.leave rule).Once := by
  have fewer : (state.awaiting.erase rule ++ state.installed).Sublist
      (state.awaiting ++ state.installed) := List.erase_sublist.append_right _
  constructor
  · exact once.nodup.sublist fewer
  · exact fun tested member => once.started tested (fewer.subset member)
  · exact once.noted

theorem decide (once : state.Once) {packet : TrackedPacket} {flags : OffloadFlags}
    (kept : ∀ dir, state.flags.status dir ≠ .nonOffload → flags.status dir ≠ .nonOffload)
    (notes : flags.offloadedOn = state.flags.offloadedOn)
    (unknown : flags.status packet.flowDir = .offloadInstall →
      (packet.flowDir, packet.ingress) ∉ state.awaiting ++ state.installed) :
    (state.decide packet flags).Once := by
  have started : ∀ rule ∈ state.awaiting ++ state.installed,
      flags.status rule.1 ≠ .nonOffload :=
    fun tested member => kept _ (once.started tested member)
  have noted : ∀ rule ∈ state.installed, rule.2.isPf = true → flags.offloadedOn rule.2 = true :=
    notes ▸ once.noted
  unfold Offloading.decide
  split
  · next install =>
    refine ⟨List.nodup_cons.mpr ⟨unknown install, once.nodup⟩, ?_, noted⟩
    intro tested member
    rcases List.mem_cons.mp member with rfl | before
    · exact fun none => nomatch install.symm.trans none
    · exact started tested before
  · exact ⟨once.nodup, started, noted⟩

theorem created (first : TrackedPacket) : (offloadMachine first).init.Once := by
  have empty : Offloading.Once ⟨dpCntrackInitFlowOffloadFlags first.isTcp, [], []⟩ := by
    constructor <;> simp
  apply empty.decide
  · exact fun _ => status_changeWhen_ne
  · exact offloadedOn_changeWhen
  · simp

/-- A packet that asks for a rule finds its direction untouched, or comes
from a PF that has no rule of the flow. -/
theorem track (once : state.Once) {packet : TrackedPacket}
    (alone : OneAtATime state (.track packet)) : (state.step (.track packet)).Once := by
  apply once.decide
  · exact fun _ started => status_changeWhen_ne (status_changeWhen_ne started)
  · exact offloadedOn_changeWhen.trans offloadedOn_changeWhen
  intro install known
  have started := once.started _ known
  have unnoted : packet.ingress.isPf = true ∧
      state.flags.offloadedOn packet.ingress = false := by
    rcases eq_of_changeWhen_install install with ⟨noTcp, waiting⟩ | untouched | unnoted
    · rcases eq_of_changeWhen_install waiting with ⟨notFound, waited⟩ | asked
      · have moves := alone.2 waited
        rw [noTcp, notFound] at moves
        cases moves
      · exact asked.resolve_left started
    · exact absurd untouched (status_changeWhen_ne started)
    · exact unnoted.imp_right (congrFun offloadedOn_changeWhen _).symm.trans
  rcases List.mem_append.mp known with waits | done
  · exact alone.1 unnoted.1 _ waits rfl
  · have noted := once.noted _ done unnoted.1
    exact absurd (noted.symm.trans unnoted.2) (by decide)

theorem install (once : state.Once) (waits : rule ∈ state.awaiting) {noted : Ingress → Bool}
    (kept : ∀ port, state.flags.offloadedOn port = true → noted port = true)
    (known : rule.2.isPf = true → noted rule.2 = true) :
    Once { state.leave rule with
      installed := rule :: state.installed, flags.offloadedOn := noted } := by
  have same : (state.awaiting.erase rule ++ rule :: state.installed).Perm
      (state.awaiting ++ state.installed) :=
    List.perm_middle.trans ((List.perm_cons_erase waits).symm.append_right _)
  constructor
  · exact same.nodup_iff.mpr once.nodup
  · exact fun tested member => once.started tested (same.mem_iff.mp member)
  · intro tested done isPf
    rcases List.mem_cons.mp done with rfl | before
    · exact known isPf
    · exact kept _ (once.noted tested before isPf)

theorem transmit (once : state.Once) {outIsPf : Bool} {natType : FlowNatType}
    (through : OneAtATime state (.transmit rule outIsPf natType)) :
    (state.step (.transmit rule outIsPf natType)).Once := by
  simp only [Offloading.step, dpOffloadHandler]
  by_cases waits : rule ∈ state.awaiting
  · rw [if_pos waits]
    cases isPf : rule.2.isPf with
    | false =>
      have plain := once.install waits (fun _ noted => noted) (by simp [isPf])
      cases outIsPf with
      | false => exact plain
      | true =>
        simp only [Bool.not_false, Bool.not_true, Bool.and_false, Bool.false_eq_true, if_false,
          if_true]
        split
        · exact plain
        · exact once.leave
    | true =>
      have toVf := through isPf
      subst toVf
      apply once.install waits
      · intro port noted
        by_cases same : port = rule.2
        · simp [same]
        · simpa [same, Offloading.leave] using noted
      · simp
  · rw [if_neg waits]
    exact once

theorem step (once : state.Once) {event : OffloadEvent} (alone : OneAtATime state event) :
    (state.step event).Once := by
  cases event with
  | track packet => exact once.track alone
  | exempt rule => exact ⟨once.leave.nodup, fun _ _ => nofun, once.noted⟩
  | release rule => exact once.leave
  | transmit rule outIsPf natType => exact once.transmit alone

end Offloading.Once

/-- While packets of a PF are handled one at a time and leave through a VF,
rules are installed at most once for each direction and ingress port. -/
theorem installed_nodup_of_run (first : TrackedPacket) (events : List OffloadEvent)
    (alone : (offloadMachine first).Along OneAtATime (offloadMachine first).init events) :
    ((offloadMachine first).run events).installed.Nodup := by
  have once : ((offloadMachine first).run events).Once :=
    @Machine.runFrom_invariant_along _ _ (offloadMachine first) Offloading.Once OneAtATime
      (fun _ _ allowed holds => holds.step allowed) _ events alone (.created first)
  exact (List.nodup_append.mp once.nodup).2.1

def udpPacket (flowDir : FlowDir) (ingress : Ingress) : TrackedPacket :=
  ⟨flowDir, ingress, .none, .undefined, false, .none⟩

def udpMachine : Machine Offloading OffloadEvent :=
  offloadMachine (udpPacket .org (.vf 1))

def udpReply : OffloadEvent :=
  .track (udpPacket .reply .pf0)

def deliverReply : OffloadEvent :=
  .transmit (.reply, .pf0) false .none

def oneByOne : List OffloadEvent :=
  [.transmit (.org, .vf 1) true .none, udpReply, deliverReply, udpReply, deliverReply]

theorem installed_nodup_oneByOne :
    (udpMachine.run oneByOne).installed = [(.reply, .pf0), (.org, .vf 1)] ∧
      (udpMachine.run oneByOne).installed.Nodup := by
  have toVf : ∀ state, OneAtATime state deliverReply := fun _ _ => rfl
  refine ⟨by decide, installed_nodup_of_run _ oneByOne
    ⟨nofun, ⟨?_, ?_⟩, toVf _, ⟨?_, ?_⟩, toVf _, trivial⟩⟩
  all_goals decide

/-- Two replies of one burst pass conntrack before the first one reaches tx. -/
theorem installed_twice_of_burst :
    ¬ (udpMachine.run [.transmit (.org, .vf 1) true .none, udpReply, udpReply, deliverReply,
      deliverReply]).installed.Nodup := by
  decide

/-! ## The rules of removed flows -/

inductive OffloadHandler where
  | localTraffic
  | inNetworkTraffic
  | tunnelEncapTraffic
  | tunnelDecapTraffic
  deriving DecidableEq, Repr

/-- An installed rule, of the flow that its age context refers to. -/
structure HardwareRule where
  flow : Handle
  l4Type : UInt8
  handler : OffloadHandler
  deriving DecidableEq, Repr

/-- `dp_install_rte_flow_with_indirect` stores the age context in the flow,
and only for TCP.  Traffic in the network is installed without it. -/
def HardwareRule.stored (rule : HardwareRule) : Bool :=
  rule.l4Type = ipprotoTcp && rule.handler ≠ .inNetworkTraffic

/-- The flows and the rules while flows are removed, and the flows that were. -/
structure Removal where
  store : FlowStore
  rules : List HardwareRule
  removed : List Handle

def dpRteFlowRemove (f : Handle) (rules : List HardwareRule) : List HardwareRule :=
  rules.filter fun rule => !(rule.stored && rule.flow = f)

def dpRemoveFlow (state : Removal) (key : FlowKey) (f : Handle) : Removal :=
  let rules := dpRteFlowRemove f state.rules
  { store := (dpDeleteFlow (dropRules (state.rules.length - rules.length) state.store f) key f).1
    rules
    removed := f :: state.removed }

/-- The loop of `dp_remove_nat_flows` and its like, each with its own choice. -/
def removeChosen (chosen : FlowKey → FlowValue → Bool) (state : Removal) : Removal :=
  state.store.table.entries.foldl (fun state entry =>
    if chosen entry.1 (state.store.value entry.2) then dpRemoveFlow state entry.1 entry.2
    else state) state

/-- Of the rules of removed flows, those that were not stored are left. -/
def Removal.Leaves (state : Removal) (rules : List HardwareRule) : Prop :=
  state.rules = rules.filter fun rule => !(rule.stored && rule.flow ∈ state.removed)

theorem Removal.Leaves.dpRemoveFlow {state : Removal} {rules : List HardwareRule}
    (leaves : state.Leaves rules) (key : FlowKey) (f : Handle) :
    (dpRemoveFlow state key f).Leaves rules := by
  change dpRteFlowRemove f state.rules =
    rules.filter fun rule => !(rule.stored && rule.flow ∈ f :: state.removed)
  rw [dpRteFlowRemove, leaves, List.filter_filter]
  congr 1
  funext rule
  grind

theorem leaves_removeChosen (chosen : FlowKey → FlowValue → Bool) (store : FlowStore)
    (rules : List HardwareRule) : (removeChosen chosen ⟨store, rules, []⟩).Leaves rules := by
  have start : Removal.Leaves ⟨store, rules, []⟩ rules := by simp [Removal.Leaves]
  rw [removeChosen]
  generalize store.table.entries = entries
  generalize (⟨store, rules, []⟩ : Removal) = state at start
  induction entries generalizing state with
  | nil => exact start
  | cons entry rest ih =>
    rw [List.foldl_cons]
    apply ih
    split
    · exact start.dpRemoveFlow ..
    · exact start

end DpService.Flow

import DpService.Flow.Coherence
import DpService.Foundations.Machine
import DpService.Nodes.Conntrack

/-!
# The TCP state of a flow

A flow follows the three-way handshake of its connection and gets a long
timeout once the connection is established.  Everything it remembers is a state
and the direction of the first SYN, and this is enough to know that the packets
of a whole handshake were seen since the connection was last closed.  The
converse fails: packets are compared with the exact flags of a handshake, and
not every state can be left by a new one.
-/

namespace DpService.Nodes

open Foundations Packet Dataplane Flow

/-! ## Segments -/

/-- What the state of a flow sees of a TCP packet. -/
structure Segment where
  dir : FlowDir
  flags : UInt8
  deriving DecidableEq, Repr

def FlowDir.opposite : FlowDir → FlowDir
  | .org => .reply
  | .reply => .org

theorem FlowDir.eq_opposite_of_ne {first second : FlowDir} (different : first ≠ second) :
    first = FlowDir.opposite second := by
  cases first with
  | org =>
    cases second with
    | org => exact absurd rfl different
    | reply => rfl
  | reply =>
    cases second with
    | org => rfl
    | reply => exact absurd rfl different

theorem FlowDir.opposite_ne (dir : FlowDir) : FlowDir.opposite dir ≠ dir := by
  cases dir with
  | org => exact nofun
  | reply => exact nofun

def Segment.closes (segment : Segment) : Bool :=
  segment.flags &&& tcpRst != 0 || segment.flags &&& tcpFin != 0

/-- What `dp_cntrack_handle` does to a flow for a TCP packet, apart from the
timestamp. -/
def handleSegment (value : FlowValue) (segment : Segment) : FlowValue :=
  dpCntrackSetTimeoutTcpFlow (dpCntrackTcpState value segment.dir segment.flags)

theorem touchedFlow_of_tcp (clock : UInt64) {df : DpFlow} (frame : Frame) (value : FlowValue)
    (tcp : df.l4Type = ipprotoTcp) (direct : df.vnfType ≠ .lb) :
    touchedFlow clock df frame value =
      handleSegment { value with timestamp := clock } ⟨df.flowDir, tcpFlags df frame⟩ := by
  rw [touchedFlow, if_pos ⟨tcp, direct⟩]
  rfl

def TimeoutFits (value : FlowValue) : Prop :=
  value.timeoutValue = dpFlowTcpExtendedTimeout ↔ value.tcpState = .established

theorem dpCntrackSetTimeoutTcpFlow_fits (value : FlowValue) :
    TimeoutFits (dpCntrackSetTimeoutTcpFlow value) := by
  unfold TimeoutFits dpCntrackSetTimeoutTcpFlow
  by_cases established : value.tcpState = .established
  · simp [established]
  · simp [established, dpFlowDefaultTimeout, dpFlowTcpExtendedTimeout]

/-! ### Transitions -/

/-- All that a flow remembers of the packets of its connection. -/
structure TcpView where
  state : TcpState
  first : FlowDir
  deriving DecidableEq, Repr

def FlowValue.tcpView (value : FlowValue) : TcpView where
  state := value.tcpState
  first := value.firstSynFlowDir

namespace TcpView

/-- A packet without RST and FIN: the state decides which one is waited
for. -/
def advance (view : TcpView) (segment : Segment) : TcpView :=
  match view.state with
  | .none | .rstFin =>
    if segment.flags = tcpSyn then ⟨.newSyn, segment.dir⟩ else view
  | .newSyn =>
    if segment.flags = tcpSyn ||| tcpAck ∧ segment.dir ≠ view.first then
      { view with state := .newSynack }
    else view
  | .newSynack =>
    if segment.flags = tcpAck ∧ segment.dir = view.first then { view with state := .established }
    else view
  | .established | .finwait => view

def close (view : TcpView) (segment : Segment) : TcpView :=
  if segment.flags &&& tcpRst = 0 ∧ view.state = .established then { view with state := .finwait }
  else { view with state := .rstFin }

def next (view : TcpView) (segment : Segment) : TcpView :=
  if segment.closes then view.close segment else view.advance segment

end TcpView

theorem dpCntrackTcpState_view (value : FlowValue) (segment : Segment) :
    FlowValue.tcpView (dpCntrackTcpState value segment.dir segment.flags) =
      (FlowValue.tcpView value).next segment := by
  unfold dpCntrackTcpState TcpView.next Segment.closes
  by_cases reset : segment.flags &&& tcpRst = 0
  · by_cases final : segment.flags &&& tcpFin = 0
    · rw [if_neg (not_not.mpr reset), if_neg (not_not.mpr final)]
      simp only [reset, final, bne_self_eq_false, Bool.or_self, Bool.false_eq_true, if_false]
      unfold TcpView.advance
      cases state : value.tcpState with
      | none | rstFin =>
        by_cases syn : segment.flags = tcpSyn
        · simp [FlowValue.tcpView, state, syn]
        · simp [FlowValue.tcpView, state, syn]
      | newSyn =>
        by_cases answers : segment.flags = tcpSyn ||| tcpAck ∧ segment.dir ≠ value.firstSynFlowDir
        · simp [FlowValue.tcpView, state, answers]
        · simp [FlowValue.tcpView, state, answers]
      | newSynack =>
        by_cases confirms : segment.flags = tcpAck ∧ segment.dir = value.firstSynFlowDir
        · simp [FlowValue.tcpView, state, confirms]
        · simp [FlowValue.tcpView, state, confirms]
      | established | finwait => simp [FlowValue.tcpView, state]
    rw [if_neg (not_not.mpr reset), if_pos final]
    by_cases established : value.tcpState = .established
    · simp [FlowValue.tcpView, TcpView.close, reset, final, established]
    · simp [FlowValue.tcpView, TcpView.close, reset, final, established]
  · rw [if_pos reset]
    simp [FlowValue.tcpView, TcpView.close, reset]

theorem handleSegment_view (value : FlowValue) (segment : Segment) :
    FlowValue.tcpView (handleSegment value segment) = (FlowValue.tcpView value).next segment :=
  dpCntrackTcpState_view value segment

/-! ## What must have been seen -/

def sinceClose (history : List Segment) : List Segment :=
  (history.reverse.takeWhile fun segment => !segment.closes).reverse

theorem sinceClose_append_of_open (history : List Segment) {segment : Segment}
    (stays : segment.closes = false) :
    sinceClose (history ++ [segment]) = sinceClose history ++ [segment] := by
  simp [sinceClose, stays]

def handshake (dir : FlowDir) : List Segment :=
  [⟨dir, tcpSyn⟩, ⟨FlowDir.opposite dir, tcpSyn ||| tcpAck⟩, ⟨dir, tcpAck⟩]

/-- How much of a handshake a state stands for. -/
def TcpView.progress (view : TcpView) : Nat :=
  match view.state with
  | .newSyn => 1
  | .newSynack => 2
  | .established => 3
  | .none | .rstFin | .finwait => 0

/-- The packets that a state stands for were seen, in this order. -/
def Backed (view : TcpView) (history : List Segment) : Prop :=
  ((handshake view.first).take view.progress).Sublist (sinceClose history)

theorem backed_of_progress_zero
    {view : TcpView} (none : view.progress = 0) (history : List Segment) :
    Backed view history := by
  rw [Backed, none]
  exact List.nil_sublist _

theorem TcpView.close_progress (view : TcpView) (segment : Segment) :
    (view.close segment).progress = 0 := by
  unfold TcpView.close
  split
  · rfl
  · rfl

theorem Backed.append {view : TcpView} {history : List Segment} (backed : Backed view history)
    {segment : Segment} (stays : segment.closes = false) :
    Backed view (history ++ [segment]) := by
  rw [Backed, sinceClose_append_of_open history stays]
  exact backed.trans (List.sublist_append_left _ _)

theorem Backed.extend {view after : TcpView} {history : List Segment}
    (backed : Backed view history) {segment : Segment}
    (stays : segment.closes = false)
    (extended : (handshake after.first).take after.progress =
        (handshake view.first).take view.progress ++ [segment]) :
    Backed after (history ++ [segment]) := by
  rw [Backed, sinceClose_append_of_open history stays, extended]
  exact List.Sublist.append backed (List.Sublist.refl _)

theorem Backed.advance {view : TcpView} {history : List Segment} (backed : Backed view history)
    {segment : Segment} (stays : segment.closes = false) :
    Backed (view.advance segment) (history ++ [segment]) := by
  obtain ⟨state, first⟩ := view
  obtain ⟨dir, flags⟩ := segment
  unfold TcpView.advance
  cases state with
  | none | rstFin =>
    dsimp only
    split
    · rename_i syn
      subst syn
      exact backed.extend stays rfl
    · exact backed.append stays
  | newSyn =>
    dsimp only
    split
    · rename_i answers
      obtain ⟨synAck, other⟩ := answers
      subst synAck
      rw [FlowDir.eq_opposite_of_ne other] at stays ⊢
      exact backed.extend stays rfl
    · exact backed.append stays
  | newSynack =>
    dsimp only
    split
    · rename_i confirms
      obtain ⟨ack, same⟩ := confirms
      subst ack same
      exact backed.extend stays rfl
    · exact backed.append stays
  | established | finwait => exact backed.append stays

theorem Backed.next {view : TcpView} {history : List Segment} (backed : Backed view history)
    (segment : Segment) :
    Backed (view.next segment) (history ++ [segment]) := by
  unfold TcpView.next
  cases closes : segment.closes with
  | true =>
    exact backed_of_progress_zero (view.close_progress segment) _
  | false => exact backed.advance closes

/-! ## Flows -/

structure ConntrackCall where
  env : NodeEnv
  outcomes : ConntrackOutcomes
  m : Mbuf

structure TcpTrace where
  store : FlowStore
  history : List Segment

/-- A packet of any flow is handled, and noted if it is one of `f`. -/
def TcpTrace.step (f : Handle) (trace : TcpTrace) (call : ConntrackCall) : TcpTrace where
  store := (dpCntrackHandle call.env call.outcomes trace.store call.m).1
  history :=
    match dpGetFlowVal call.env call.outcomes trace.store call.m with
    | (_, df, found) =>
      if found = some f ∧ df.l4Type = ipprotoTcp then
        trace.history ++ [⟨df.flowDir, tcpFlags df call.m.frame⟩]
      else trace.history

def tcpMachine (f : Handle) : Machine TcpTrace ConntrackCall where
  init := ⟨FlowStore.empty, []⟩
  step := TcpTrace.step f

/-- The packets of the flow do not come to a load balancer. -/
def Unbalanced (f : Handle) (trace : TcpTrace) (call : ConntrackCall) :
    Prop :=
  (dpGetFlowVal call.env call.outcomes trace.store call.m).2.2 = some f →
    (dpGetFlowVal call.env call.outcomes trace.store call.m).2.1.vnfType ≠ .lb

instance (f : Handle) (trace : TcpTrace) (call : ConntrackCall) :
    Decidable (Unbalanced f trace call) :=
  inferInstanceAs (Decidable (_ → _))

structure HandshakeSeen (f : Handle) (trace : TcpTrace) : Prop where
  backed : Backed (FlowValue.tcpView (trace.store.value f)) trace.history
  timeout : TimeoutFits (trace.store.value f)

section Steps

variable (env : NodeEnv) (outcomes : ConntrackOutcomes) (store : FlowStore)
variable (m : Mbuf)

theorem timeoutFits_of_fresh
    {value : FlowValue} {key : FlowKey} {natType : FlowNatType} {port : PortId}
    (fresh : ∃ reply refCount, value = { FlowValue.fresh key natType port with reply, refCount }) :
    (FlowValue.tcpView value).progress = 0 ∧ TimeoutFits value := by
  obtain ⟨reply, refCount, same⟩ := fresh
  have short : dpFlowDefaultTimeout ≠ dpFlowTcpExtendedTimeout := by
    decide
  rw [same]
  exact ⟨rfl, iff_of_false short nofun⟩

theorem dpGetFlowVal_value (f : Handle) :
    (dpGetFlowVal env outcomes store m).1.value f = store.value f ∨
      (FlowValue.tcpView ((dpGetFlowVal env outcomes store m).1.value f)).progress = 0 ∧
        TimeoutFits ((dpGetFlowVal env outcomes store m).1.value f) := by
  unfold dpGetFlowVal
  dsimp only
  split
  · exact Or.inl rfl
  split
  · exact Or.inl rfl
  · exact Or.inl rfl
  have created :=
    flowTableInsertEntry_value outcomes.insert
      { store with cache := { store.cache with curr := (dpBuildFlowKey env store.cache.curr m).1 } }
      (dpBuildFlowKey env store.cache.curr m).1
      (newFlowNatType env (dpGetInPort env.tables.ports m)
        (dpBuildFlowKey env store.cache.curr m).1)
      (dpGetInPort env.tables.ports m).portId f
  split
  · rename_i after result
    rw [result] at created
    exact created.imp_right timeoutFits_of_fresh
  · rename_i after new result
    rw [result] at created
    exact created.imp_right timeoutFits_of_fresh

theorem dpCntrackHandle_value (f : Handle) : (dpCntrackHandle env outcomes store m).1.value f =
      if (dpGetFlowVal env outcomes store m).2.2 = some f then
        touchedFlow outcomes.clock (dpGetFlowVal env outcomes store m).2.1
          m.frame ((dpGetFlowVal env outcomes store m).1.value f)
      else (dpGetFlowVal env outcomes store m).1.value f := by
  unfold dpCntrackHandle
  generalize dpGetFlowVal env outcomes store m = found
  obtain ⟨after, df, handle⟩ := found
  cases handle with
  | none => simp
  | some g => ?_
  have value : (after.modify g (touchedFlow outcomes.clock df m.frame)).value f =
        if some g = some f then touchedFlow outcomes.clock df m.frame (after.value f)
        else after.value f := by
    by_cases same : g = f
    · subst same
      rw [FlowStore.modify_value_self, if_pos rfl]
    · rw [FlowStore.modify_value_of_ne _ _ (Ne.symm same), if_neg]
      exact fun equal => same (Option.some_inj.mp equal)
  dsimp only
  split
  · exact value
  · exact value

end Steps

namespace HandshakeSeen

variable {f : Handle} {trace : TcpTrace}

theorem found (seen : HandshakeSeen f trace) (call : ConntrackCall) :
    Backed (FlowValue.tcpView ((dpGetFlowVal call.env call.outcomes trace.store call.m).1.value f))
        trace.history ∧
      TimeoutFits
        ((dpGetFlowVal call.env call.outcomes trace.store call.m).1.value f) := by
  rcases dpGetFlowVal_value call.env call.outcomes trace.store call.m f with
    same | ⟨unseen, fits⟩
  · rw [same]
    exact ⟨seen.backed, seen.timeout⟩
  · exact ⟨backed_of_progress_zero unseen _, fits⟩

theorem step (seen : HandshakeSeen f trace) {call : ConntrackCall}
    (unbalanced : Unbalanced f trace call) :
    HandshakeSeen f (trace.step f call) := by
  have value := dpCntrackHandle_value call.env call.outcomes trace.store call.m f
  have before := seen.found call
  unfold Unbalanced at unbalanced
  unfold TcpTrace.step
  generalize dpGetFlowVal call.env call.outcomes trace.store call.m = looked at *
  obtain ⟨after, df, handle⟩ := looked
  obtain ⟨backed, fits⟩ := before
  dsimp only at value unbalanced backed fits ⊢
  by_cases own : handle = some f
  · rw [if_pos own] at value
    by_cases tcp : df.l4Type = ipprotoTcp
    · rw [touchedFlow_of_tcp _ _ _ tcp (unbalanced own)] at value
      constructor
      · dsimp only
        rw [if_pos ⟨own, tcp⟩, value, handleSegment_view]
        exact backed.next _
      · dsimp only
        rw [value]
        exact dpCntrackSetTimeoutTcpFlow_fits _
    rw [touchedFlow, if_neg fun both => tcp both.1] at value
    constructor
    · dsimp only
      rw [if_neg fun both => tcp both.2, value]
      exact backed
    · dsimp only
      rw [value]
      exact fits
  rw [if_neg own] at value
  constructor
  · dsimp only
    rw [if_neg fun both => own both.1, value]
    exact backed
  · dsimp only
    rw [value]
    exact fits

end HandshakeSeen

/-- However its packets are mixed with those of other flows, a flow is
established only if a whole handshake was seen since it was last closed, and its
timeout is the long one exactly then. -/
theorem established_of_run (f : Handle) (calls : List ConntrackCall)
    (unbalanced : (tcpMachine f).Along (Unbalanced f) (tcpMachine f).init calls) :
    ((((tcpMachine f).run calls).store.value f).tcpState = .established →
        ∃ dir, (handshake dir).Sublist (sinceClose ((tcpMachine f).run calls).history)) ∧
      (((((tcpMachine f).run calls).store.value f).timeoutValue = dpFlowTcpExtendedTimeout) ↔
        (((tcpMachine f).run calls).store.value f).tcpState = .established) := by
  have short : dpFlowDefaultTimeout ≠ dpFlowTcpExtendedTimeout := by
    decide
  have start : HandshakeSeen f (tcpMachine f).init :=
    ⟨backed_of_progress_zero rfl _, iff_of_false short nofun⟩
  have seen : HandshakeSeen f ((tcpMachine f).run calls) :=
    Machine.runFrom_invariant_along
      (fun _ _ allowed seen => seen.step allowed) calls unbalanced start
  refine ⟨?_, seen.timeout⟩
  intro established
  have backed := seen.backed
  generalize (tcpMachine f).run calls = trace at *
  have whole : (FlowValue.tcpView (trace.store.value f)).progress = 3 := by
    simp [TcpView.progress, FlowValue.tcpView, established]
  rw [Backed, whole] at backed
  exact ⟨_, backed⟩

def bareEnv : NodeEnv where
  tables :=
    { conf := { underlayIp := Ipv6.zero, ipsecEnabled := false }
      ports := PortTable.empty
      vnfs := VnfTables.empty
      ifaceIds := fun _ => none
      pf0 := 0
      pf1 := 1 }
  network := Network.empty
  dpdk :=
    { flowHash := fun _ => 0
      portmapHash := fun _ => 0
      ipv4Cksum := fun _ => 0
      ipv4UdptcpCksum := fun _ => 0
      ipv6UdptcpCksum := fun _ => 0 }

def tcpCall (dir : FlowDir) (flags : UInt8) : ConntrackCall where
  env := bareEnv
  outcomes := { clock := 0, insert := InsertOutcomes.succeed }
  m :=
    { frame :=
        { data := List.replicate (l4Of4 + 13) 0 ++ [flags]
          stale := fun _ => 0
          headroom := 0
          packetType := 0
          olFlags := 0
          txOffload := ⟨0, 0, 0, 0, 0⟩ }
      port := 0
      df :=
        match dir with
        | .org =>
          { DpFlow.zeroed with
            l3Type := etherTypeIpv4
            l4Type := ipprotoTcp
            src := UnionAddr.zero.setAddr 0x0a000001
            dst := UnionAddr.zero.setAddr 0x0a000002
            l4Info := ⟨80, 4000⟩ }
        | .reply =>
          { DpFlow.zeroed with
            l3Type := etherTypeIpv4
            l4Type := ipprotoTcp
            src := UnionAddr.zero.setAddr 0x0a000002
            dst := UnionAddr.zero.setAddr 0x0a000001
            l4Info := ⟨4000, 80⟩ }
      mark := ⟨false, false⟩ }

def reopened : List ConntrackCall :=
  [tcpCall .org tcpSyn, tcpCall .reply tcpRst, tcpCall .org tcpSyn,
    tcpCall .reply (tcpSyn ||| tcpAck), tcpCall .org tcpAck]

theorem reopened_established :
    (((tcpMachine 0).run reopened).store.value 0).tcpState = .established ∧
      (∃ dir, (handshake dir).Sublist (sinceClose ((tcpMachine 0).run reopened).history)) ∧
      (((tcpMachine 0).run reopened).store.value 0).timeoutValue =
        dpFlowTcpExtendedTimeout := by
  have established : (((tcpMachine 0).run reopened).store.value 0).tcpState = .established := by
    decide +kernel
  have checked :
      (tcpMachine 0).checkAlong
        (fun trace call => decide (Unbalanced 0 trace call))
        (tcpMachine 0).init reopened = true := by
    decide +kernel
  have unbalanced : (tcpMachine 0).Along (Unbalanced 0) (tcpMachine 0).init reopened :=
    Machine.along_of_check (fun _ _ => of_decide_eq_true) checked
  have result := established_of_run 0 reopened unbalanced
  exact ⟨established, result.1 established, result.2.mpr established⟩

/-! ## New handshakes -/

def tcpEce : UInt8 := 0x40
def tcpCwr : UInt8 := 0x80

inductive HandshakeKind where
  | syn
  | synAck
  | ack
  deriving DecidableEq, Repr

structure HandshakePacket where
  kind : HandshakeKind
  ece : Bool
  cwr : Bool
  deriving DecidableEq, Repr

namespace HandshakePacket

def plain (kind : HandshakeKind) : HandshakePacket :=
  ⟨kind, false, false⟩

def flags (packet : HandshakePacket) : UInt8 :=
  (match packet.kind with
    | .syn => tcpSyn
    | .synAck => tcpSyn ||| tcpAck
    | .ack => tcpAck) |||
    (if packet.ece then tcpEce else 0) ||| if packet.cwr then tcpCwr else 0

def segment (dir : FlowDir) (packet : HandshakePacket) : Segment where
  dir :=
    match packet.kind with
    | .syn | .ack => dir
    | .synAck => FlowDir.opposite dir
  flags := packet.flags

theorem flags_injective : Function.Injective flags := by
  rintro ⟨kind, ece, cwr⟩ ⟨kind', ece', cwr'⟩
  cases kind <;> cases kind' <;> cases ece <;> cases ece' <;> cases cwr <;>
    cases cwr' <;> decide

theorem segment_closes (dir : FlowDir) (packet : HandshakePacket) :
    (packet.segment dir).closes = false := by
  obtain ⟨kind, ece, cwr⟩ := packet
  cases dir <;> cases kind <;> cases ece <;> cases cwr <;> decide

theorem segment_flags_eq_iff (dir : FlowDir) (packet : HandshakePacket) (kind : HandshakeKind) :
    (packet.segment dir).flags = (plain kind).flags ↔ packet = plain kind :=
  flags_injective.eq_iff

end HandshakePacket

/-- The packets that a handshake has to bring, in this order, for a flow to get
established.  A flow that is half closed, or waits for the end of a handshake
that was started in the other direction, does not get established at all. -/
def awaited (view : TcpView) (dir : FlowDir) : Option (List HandshakePacket) :=
  match view.state with
  | .established => some []
  | .none | .rstFin => some [.plain .syn, .plain .synAck, .plain .ack]
  | .newSyn =>
    if view.first = dir then some [.plain .synAck, .plain .ack] else none
  | .newSynack => if view.first = dir then some [.plain .ack] else none
  | .finwait => none

def Suffices (view : TcpView) (dir : FlowDir) (exchange : List HandshakePacket) : Prop :=
  ∃ packets, awaited view dir = some packets ∧ packets.Sublist exchange

def stillAwaited (packet : HandshakePacket) : List HandshakePacket → List HandshakePacket
  | [] => []
  | expected :: rest => if expected = packet then rest else expected :: rest

theorem stillAwaited_sublist_iff
    (packet : HandshakePacket) (packets exchange : List HandshakePacket) :
    (stillAwaited packet packets).Sublist exchange ↔ packets.Sublist (packet :: exchange) := by
  cases packets with
  | nil => simp [stillAwaited]
  | cons expected rest => ?_
  rw [List.cons_sublist_cons', stillAwaited]
  by_cases same : expected = packet
  · rw [if_pos same]
    constructor
    · exact fun brought => Or.inr ⟨same, brought⟩
    · rintro (brought | ⟨-, brought⟩)
      · exact List.sublist_of_cons_sublist brought
      · exact brought
  · simp [same]

theorem awaited_next (view : TcpView) (dir : FlowDir) (packet : HandshakePacket) :
    awaited (view.next (packet.segment dir)) dir =
      (awaited view dir).map (stillAwaited packet) := by
  obtain ⟨state, first⟩ := view
  rw [TcpView.next, HandshakePacket.segment_closes]
  have syn : (packet.segment dir).flags = tcpSyn ↔ packet = .plain .syn :=
    packet.segment_flags_eq_iff dir .syn
  have synAck : (packet.segment dir).flags = tcpSyn ||| tcpAck ↔ packet = .plain .synAck :=
    packet.segment_flags_eq_iff dir .synAck
  have ack : (packet.segment dir).flags = tcpAck ↔ packet = .plain .ack :=
    packet.segment_flags_eq_iff dir .ack
  simp only [Bool.false_eq_true, if_false, TcpView.advance, syn, synAck, ack]
  cases state with
  | none | rstFin =>
    by_cases awaits : packet = .plain .syn
    · subst awaits
      simp [awaited, stillAwaited, HandshakePacket.segment, HandshakePacket.plain]
    · simp [awaited, stillAwaited, awaits, Ne.symm awaits]
  | newSyn =>
    by_cases awaits : packet = .plain .synAck
    · subst awaits
      by_cases same : first = dir
      · subst same
        simp [awaited, stillAwaited, HandshakePacket.segment,
          HandshakePacket.plain, FlowDir.opposite_ne]
      · have answered : first = FlowDir.opposite dir := FlowDir.eq_opposite_of_ne same
        simp [awaited, HandshakePacket.segment, HandshakePacket.plain,
          answered, FlowDir.opposite_ne]
    by_cases same : first = dir
    · simp [awaited, stillAwaited, awaits, Ne.symm awaits, same]
    · simp [awaited, awaits, same]
  | newSynack =>
    by_cases awaits : packet = .plain .ack
    · subst awaits
      by_cases same : first = dir
      · subst same
        simp [awaited, stillAwaited, HandshakePacket.segment, HandshakePacket.plain]
      · simp [awaited, HandshakePacket.segment, HandshakePacket.plain, same, Ne.symm same]
    by_cases same : first = dir
    · simp [awaited, stillAwaited, awaits, Ne.symm awaits, same]
    · simp [awaited, awaits, same]
  | established | finwait => rfl

theorem established_foldl_iff (dir : FlowDir) (exchange : List HandshakePacket) (view : TcpView) :
    ((exchange.map (HandshakePacket.segment dir)).foldl TcpView.next view).state = .established ↔
      Suffices view dir exchange := by
  induction exchange generalizing view with
  | nil =>
    obtain ⟨state, first⟩ := view
    cases state <;> simp [Suffices, awaited]
  | cons packet exchange ih =>
    rw [List.map_cons, List.foldl_cons, ih, Suffices, awaited_next]
    simp [Suffices, stillAwaited_sublist_iff]

theorem foldl_handleSegment_view (value : FlowValue) (segments : List Segment) :
    FlowValue.tcpView (segments.foldl handleSegment value) =
      segments.foldl TcpView.next (FlowValue.tcpView value) := by
  induction segments generalizing value with
  | nil => rfl
  | cons segment segments ih =>
    rw [List.foldl_cons, List.foldl_cons, ih, handleSegment_view]

/-- After the last packet of a handshake, which may be sent in any state and
with any retransmissions, the flow is established with the long timeout exactly
if the packets that were awaited came without the ECN bits. -/
theorem handshake_established_iff (value : FlowValue) (dir : FlowDir)
    (exchange : List HandshakePacket) (last : HandshakePacket) :
    ((((exchange ++ [last]).map (HandshakePacket.segment dir)).foldl
          handleSegment value).tcpState = .established ∧
        (((exchange ++ [last]).map (HandshakePacket.segment dir)).foldl
          handleSegment value).timeoutValue = dpFlowTcpExtendedTimeout) ↔
      Suffices (FlowValue.tcpView value) dir (exchange ++ [last]) := by
  have fits :
      TimeoutFits
        (((exchange ++ [last]).map (HandshakePacket.segment dir)).foldl handleSegment value) := by
    rw [List.map_append, List.foldl_append]
    exact dpCntrackSetTimeoutTcpFlow_fits _
  have view :=
    foldl_handleSegment_view value ((exchange ++ [last]).map (HandshakePacket.segment dir))
  rw [← established_foldl_iff, ← view]
  constructor
  · exact fun both => both.1
  · exact fun established => ⟨established, fits.mpr established⟩

def plainHandshake : List HandshakePacket :=
  [.plain .syn, .plain .synAck, .plain .ack]

/-- A handshake that negotiates ECN: only the first two packets have its
bits. -/
def ecnHandshake : List HandshakePacket :=
  [⟨.syn, true, true⟩, ⟨.synAck, true, false⟩, .plain .ack]

def untouched : FlowValue :=
  FlowValue.fresh FlowKey.zeroed .none 0

def halfClosed : List Segment :=
  handshake .org ++ [⟨.org, tcpFin ||| tcpAck⟩]

/-- Handshakes that leave no connection: one with ECN, one after half of a
connection was closed, and one after a SYN of the other side. -/
theorem handshakes_not_established :
    ((ecnHandshake.map (HandshakePacket.segment .org)).foldl handleSegment
        untouched).tcpState = .none ∧
      ((halfClosed ++ plainHandshake.map (HandshakePacket.segment .org)).foldl
        handleSegment untouched).tcpState = .finwait ∧
      ((⟨.reply, tcpSyn⟩ :: plainHandshake.map (HandshakePacket.segment .org)).foldl
        handleSegment untouched).tcpState = .newSyn := by
  decide +kernel

end DpService.Nodes

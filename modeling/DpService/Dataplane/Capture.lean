import DpService.Dataplane.Roles
import DpService.Foundations.Machine

/-!
# Capturing packets

With offloading, the packets of a port can be mirrored to another node by a
rule in the capture group of the NIC.  `CaptureStart` installs the rules for
the ports it names, `CaptureStop` is to remove them from all ports, and
`CaptureStart` calls for the same when it fails halfway.
-/

namespace DpService.Dataplane

open Foundations Packet Flow

/-! ## Ports and their default rules -/

def dpGetPorts (ports : PortTable) : List Port :=
  (List.range dpMaxPorts).filterMap fun id => ports.entry id.toUInt16

inductive RteFlowGroup where
  | capture
  | vnet
  deriving DecidableEq, Repr

/-- `default_sync_rules` of a port.  The pointers are not cleared when the
rules are destroyed. -/
structure DefaultRules where
  jumpFlow : Option RteFlowGroup
  captureFlow : Bool
  deriving DecidableEq, Repr

structure CaptureHdrConfig where
  captureNodeIpv6Addr : Ipv6
  captureUdpSrcPort : UInt16
  captureUdpDstPort : UInt16
  deriving DecidableEq, Repr

/-- The ports, what is noted about capturing beside them, and
`capture_enabled`. -/
structure CaptureState where
  tables : Tables
  flows : FlowStore
  captured : PortId → Bool
  defaultRules : PortId → DefaultRules
  hdrConfig : CaptureHdrConfig
  enabled : Bool
  registered : ∀ id port, tables.ports.entry id = some port → id.toNat < dpMaxPorts

namespace CaptureState

def started (tables : Tables)
    (registered : ∀ id port, tables.ports.entry id = some port → id.toNat < dpMaxPorts) :
    CaptureState where
  tables
  flows := FlowStore.empty
  captured := fun _ => false
  defaultRules := fun _ => ⟨none, false⟩
  hdrConfig := ⟨Ipv6.zero, 0, 0⟩
  enabled := false
  registered

def setJumpFlow (state : CaptureState) (id : PortId) (group : RteFlowGroup) :
    CaptureState :=
  { state with
    defaultRules :=
      Function.update state.defaultRules id
        { state.defaultRules id with jumpFlow := some group } }

def setCaptured (state : CaptureState) (id : PortId) : CaptureState :=
  { state with
    captured := Function.update state.captured id true
    defaultRules :=
      Function.update state.defaultRules id
        { state.defaultRules id with captureFlow := true } }

end CaptureState

structure DestroyOutcomes where
  jump : Bool
  capture : Bool
  deriving DecidableEq, Repr

def dpDestroyDefaultFlow (outcomes : DestroyOutcomes) (rules : DefaultRules) : Bool :=
  (rules.jumpFlow.isNone || outcomes.jump) && (!rules.captureFlow || outcomes.capture)

structure EnableOutcomes where
  destroy : DestroyOutcomes
  jump : Bool
  capture : Bool
  destroyAgain : DestroyOutcomes
  jumpBack : Bool
  deriving DecidableEq, Repr

def EnableOutcomes.succeed : EnableOutcomes :=
  ⟨⟨true, true⟩, true, true, ⟨true, true⟩, true⟩

/-- The part for a VF whose jump rule was not installed yet. -/
def enableVfCapture (outcomes : EnableOutcomes) (state : CaptureState) (id : PortId) :
    CaptureState × Except GrpcErr Unit :=
  if !outcomes.jump then (state, .error .rteRuleAdd)
  else
    let jumping := state.setJumpFlow id .capture
    if outcomes.capture then (jumping.setCaptured id, .ok ())
    else if !dpDestroyDefaultFlow outcomes.destroyAgain (jumping.defaultRules id) then
      (jumping, .error .rollback)
    else if !outcomes.jumpBack then (jumping, .error .rollback)
    else (jumping.setJumpFlow id .vnet, .error .rteRuleAdd)

def dpEnablePktCapture (outcomes : EnableOutcomes) (state : CaptureState) (port : Port) :
    CaptureState × Except GrpcErr Unit :=
  if !port.allocated then (state, .error .noVm)
  else if state.captured port.portId then (state, .error .alreadyActive)
  else if !dpDestroyDefaultFlow outcomes.destroy (state.defaultRules port.portId) then
    (state, .error .rteRuleDel)
  else if port.isPf then
    if !outcomes.capture then (state, .error .rteRuleAdd)
    else (state.setCaptured port.portId, .ok ())
  else enableVfCapture outcomes state port.portId

/-- The loop of `dp_disable_pkt_capture_on_all_ifaces`.  It calls
`dp_enable_pkt_capture`. -/
def disableOnIfaces (outcomes : PortId → EnableOutcomes) (state : CaptureState)
    (count : Nat) : List Port → CaptureState × Except GrpcErr Nat
  | [] => (state, .ok count)
  | port :: rest =>
    if port.allocated && state.captured port.portId then
      match dpEnablePktCapture (outcomes port.portId) state port with
      | (state, .error error) => (state, .error error)
      | (state, .ok ()) => disableOnIfaces outcomes state (count + 1) rest
    else disableOnIfaces outcomes state count rest

def dpDisablePktCaptureOnAllIfaces (outcomes : PortId → EnableOutcomes) (state : CaptureState) :
    CaptureState × Except GrpcErr Nat :=
  disableOnIfaces outcomes state 0 (dpGetPorts state.tables.ports)

/-! ## Requests -/

def dpCaptureMaxPortNum : Nat := 16

inductive CaptureInterface where
  | vf (ifaceId : IfaceId)
  | pf (index : UInt8)
  deriving DecidableEq, Repr

/-- `struct dpgrpc_capture` of a request.  The gRPC thread refuses more
interfaces. -/
structure DpgrpcCapture where
  dstAddr6 : Ipv6
  udpSrcPort : UInt16
  udpDstPort : UInt16
  interfaces : List CaptureInterface
  fitting : interfaces.length ≤ dpCaptureMaxPortNum

def dpGetPortByPfIndex (tables : Tables) (index : UInt8) : Option Port :=
  if index = 0 then dpGetPortById tables.ports tables.pf0
  else if index = 1 then dpGetPortById tables.ports tables.pf1
  else none

def captureTarget (tables : Tables) : CaptureInterface → Option Port
  | .vf ifaceId => dpGetPortWithIfaceId tables ifaceId
  | .pf index => dpGetPortByPfIndex tables index

/-- The loop of `dp_process_capture_start`.  No port gets past the checks
twice, so that its identifier tells the calls apart. -/
def enableInterfaces (outcomes : PortId → EnableOutcomes) (state : CaptureState) :
    List CaptureInterface → CaptureState × Except GrpcErr Unit
  | [] => (state, .ok ())
  | interface :: rest =>
    match captureTarget state.tables interface with
    | none => (state, .error .notFound)
    | some port =>
      match dpEnablePktCapture (outcomes port.portId) state port with
      | (state, .error error) => (state, .error error)
      | (state, .ok ()) => enableInterfaces outcomes state rest

/-- The calls made for the interfaces, and those made after a failure. -/
structure StartOutcomes where
  enable : PortId → EnableOutcomes
  disable : PortId → EnableOutcomes

def StartOutcomes.succeed : StartOutcomes where
  enable := fun _ => EnableOutcomes.succeed
  disable := fun _ => EnableOutcomes.succeed

def CaptureState.setHdrConfig (state : CaptureState) (request : DpgrpcCapture) : CaptureState :=
  { state with hdrConfig := ⟨request.dstAddr6, request.udpSrcPort, request.udpDstPort⟩ }

def CaptureState.setEnabled (state : CaptureState) (enabled : Bool) :
    CaptureState :=
  { state with enabled }

def dpProcessCaptureStart (outcomes : StartOutcomes) (state : CaptureState)
    (request : DpgrpcCapture) : CaptureState × Except GrpcErr Unit :=
  if !state.tables.conf.offloadEnabled then (state, .error .notActive)
  else if state.enabled then (state, .error .alreadyActive)
  else
    match
      enableInterfaces outcomes.enable (state.setHdrConfig request) request.interfaces with
    | (state, .ok ()) => (state.setEnabled true, .ok ())
    | (state, .error error) =>
      match dpDisablePktCaptureOnAllIfaces outcomes.disable state with
      | (state, .error _) => (state, .error .rollback)
      | (state, .ok _) => (state, .error error)

def dpProcessCaptureStop (outcomes : PortId → EnableOutcomes) (state : CaptureState) :
    CaptureState × Except GrpcErr UInt16 :=
  if !state.enabled then (state, .error .notActive)
  else
    match dpDisablePktCaptureOnAllIfaces outcomes state with
    | (state, .error error) => (state, .error error)
    | (state, .ok count) => (state.setEnabled false, .ok count.toUInt16)

structure CaptureStatus where
  isActive : Bool
  dstAddr6 : Ipv6
  udpSrcPort : UInt16
  udpDstPort : UInt16
  interfaces : List CaptureInterface
  deriving DecidableEq, Repr

def capturedInterface (tables : Tables) (port : Port) : CaptureInterface :=
  if port.isPf then .pf (if port.portId = tables.pf0 then 0 else 1)
  else .vf port.iface.id

def dpProcessCaptureStatus (state : CaptureState) : Except GrpcErr CaptureStatus :=
  if !state.enabled then .ok ⟨false, Ipv6.zero, 0, 0, []⟩
  else
    let ports :=
      (dpGetPorts state.tables.ports).filter fun port =>
        port.allocated && state.captured port.portId
    if dpCaptureMaxPortNum < ports.length then .error .limitReached
    else
      .ok
        { isActive := true
          dstAddr6 := state.hdrConfig.captureNodeIpv6Addr
          udpSrcPort := state.hdrConfig.captureUdpSrcPort
          udpDstPort := state.hdrConfig.captureUdpDstPort
          interfaces := ports.map (capturedInterface state.tables) }

/-! ## What the requests do -/

theorem mem_dpGetPorts {ports : PortTable}
    (registered : ∀ id port, ports.entry id = some port → id.toNat < dpMaxPorts) {port : Port} :
    port ∈ dpGetPorts ports ↔ ports.entry port.portId = some port := by
  rw [dpGetPorts, List.mem_filterMap]
  constructor
  · rintro ⟨id, _, held⟩
    rw [ports.numbered _ port held]
    exact held
  intro held
  refine ⟨port.portId.toNat, ?_, ?_⟩
  · exact List.mem_range.mpr (registered _ port held)
  · rw [show port.portId.toNat.toUInt16 = port.portId from
      UInt16.ofNat_toNat]
    exact held

namespace CaptureState

def capturedPorts (state : CaptureState) : List Port :=
  (dpGetPorts state.tables.ports).filter fun port => state.captured port.portId

theorem mem_capturedPorts {state : CaptureState} {port : Port} : port ∈ state.capturedPorts ↔
      state.tables.ports.entry port.portId = some port ∧ state.captured port.portId = true := by
  rw [capturedPorts, List.mem_filter, mem_dpGetPorts state.registered]

/-- Both states have the same ports, and what is captured in the first is
captured in the second. -/
structure Extends (before after : CaptureState) : Prop where
  tables : after.tables = before.tables
  enabled : after.enabled = before.enabled
  captured : ∀ id, before.captured id = true → after.captured id = true

theorem Extends.refl (state : CaptureState) : state.Extends state where
  tables := rfl
  enabled := rfl
  captured := fun _ captured => captured

theorem Extends.trans {first second third : CaptureState}
    (left : first.Extends second) (right : second.Extends third) :
    first.Extends third where
  tables := right.tables.trans left.tables
  enabled := right.enabled.trans left.enabled
  captured := fun id captured => right.captured id (left.captured id captured)

theorem extends_setJumpFlow (state : CaptureState) (id : PortId) (group : RteFlowGroup) :
    state.Extends (state.setJumpFlow id group) :=
  ⟨rfl, rfl, fun _ captured => captured⟩

theorem extends_setCaptured (state : CaptureState) (id : PortId) :
    state.Extends (state.setCaptured id) where
  tables := rfl
  enabled := rfl
  captured := by
    intro other captured
    change Function.update state.captured id true other = true
    by_cases same : other = id
    · rw [same, Function.update_self]
    · rw [Function.update_of_ne same]
      exact captured

end CaptureState

structure Enables
    (outcomes : EnableOutcomes) (state : CaptureState) (port : Port) :
    Prop where
  allocated : port.allocated = true
  idle : state.captured port.portId = false
  destroyed : dpDestroyDefaultFlow outcomes.destroy (state.defaultRules port.portId) = true
  jumping : port.isPf = true ∨ outcomes.jump = true
  capturing : outcomes.capture = true

/-- Either the port is captured from now on, or what is captured stays the
same. -/
structure EnableResult
    (outcomes : EnableOutcomes) (state : CaptureState) (port : Port)
    (result : CaptureState × Except GrpcErr Unit) : Prop where
  extended : state.Extends result.1
  enabled : result.2 = .ok () → Enables outcomes state port
  marked : Enables outcomes state port → result.2 = .ok () ∧ result.1.captured port.portId = true
  failed : result.2 ≠ .ok () → result.1.captured = state.captured

theorem EnableResult.refused {outcomes : EnableOutcomes} {state after : CaptureState} {port : Port}
    {error : GrpcErr} (extended : state.Extends after) (kept : after.captured = state.captured)
    (refused : ¬Enables outcomes state port) :
    EnableResult outcomes state port (after, .error error) where
  extended
  enabled := nofun
  marked := fun enables => absurd enables refused
  failed := fun _ => kept

theorem EnableResult.succeeded {outcomes : EnableOutcomes} {state before : CaptureState}
    {port : Port} (extended : state.Extends before) (enables : Enables outcomes state port) :
    EnableResult outcomes state port (before.setCaptured port.portId, .ok ()) where
  extended := extended.trans (before.extends_setCaptured port.portId)
  enabled := fun _ => enables
  marked := fun _ => ⟨rfl, Function.update_self ..⟩
  failed := fun failed => absurd rfl failed

theorem enableVfCapture_result {outcomes : EnableOutcomes} {state : CaptureState} {port : Port}
    (allocated : port.allocated = true) (idle : state.captured port.portId = false)
    (destroyed : dpDestroyDefaultFlow outcomes.destroy (state.defaultRules port.portId) = true)
    (vf : port.isPf = false) :
    EnableResult outcomes state port (enableVfCapture outcomes state port.portId) := by
  have jumped := state.extends_setJumpFlow port.portId .capture
  unfold enableVfCapture
  cases jump : outcomes.jump with
  | false =>
    refine EnableResult.refused (CaptureState.Extends.refl state) rfl ?_
    intro enables
    rcases enables.jumping with pf | jumping
    · rw [vf] at pf
      cases pf
    · rw [jump] at jumping
      cases jumping
  | true =>
    cases capture : outcomes.capture with
    | true =>
      exact EnableResult.succeeded jumped ⟨allocated, idle, destroyed, Or.inr jump, capture⟩
    | false => ?_
    have refused : ¬Enables outcomes state port := by
      intro enables
      have capturing := enables.capturing
      rw [capture] at capturing
      cases capturing
    rw [if_neg (by decide), if_neg (by decide)]
    split
    · exact EnableResult.refused jumped rfl refused
    split
    · exact EnableResult.refused jumped rfl refused
    · refine EnableResult.refused (jumped.trans ?_) rfl refused
      exact CaptureState.extends_setJumpFlow _ _ _

theorem dpEnablePktCapture_result (outcomes : EnableOutcomes) (state : CaptureState) (port : Port) :
    EnableResult outcomes state port (dpEnablePktCapture outcomes state port) := by
  have same := CaptureState.Extends.refl state
  unfold dpEnablePktCapture
  cases allocated : port.allocated with
  | false =>
    refine EnableResult.refused same rfl fun enables => ?_
    exact absurd (allocated.symm.trans enables.allocated) (by decide)
  | true => ?_
  cases idle : state.captured port.portId with
  | true =>
    refine EnableResult.refused same rfl fun enables => ?_
    exact absurd (idle.symm.trans enables.idle) (by decide)
  | false => ?_
  cases destroyed : dpDestroyDefaultFlow outcomes.destroy (state.defaultRules port.portId) with
  | false =>
    refine EnableResult.refused same rfl fun enables => ?_
    exact absurd (destroyed.symm.trans enables.destroyed) (by decide)
  | true => ?_
  rw [if_neg (by decide), if_neg (by decide), if_neg (by decide)]
  cases pf : port.isPf with
  | false =>
    exact enableVfCapture_result allocated idle destroyed pf
  | true => ?_
  cases capture : outcomes.capture with
  | false =>
    refine EnableResult.refused same rfl fun enables => ?_
    exact absurd (capture.symm.trans enables.capturing) (by decide)
  | true =>
    exact EnableResult.succeeded same ⟨allocated, idle, destroyed, Or.inl pf, capture⟩

/-- A port that is captured cannot be captured again, so that the loop ends at
the first one that it is to release. -/
theorem disableOnIfaces_eq (outcomes : PortId → EnableOutcomes) (state : CaptureState) (count : Nat)
    (ports : List Port) :
    disableOnIfaces outcomes state count ports =
      (state,
        if ports.any fun port => port.allocated && state.captured port.portId then
          .error .alreadyActive
        else .ok count) := by
  induction ports with
  | nil => rfl
  | cons port rest ih =>
    rw [disableOnIfaces, List.any_cons]
    cases active : port.allocated && state.captured port.portId with
    | false => simpa using ih
    | true =>
      rw [Bool.and_eq_true] at active
      simp [dpEnablePktCapture, active.1, active.2]

theorem dpDisablePktCaptureOnAllIfaces_of_idle {outcomes : PortId → EnableOutcomes}
    {state : CaptureState} (idle : state.capturedPorts = []) :
    dpDisablePktCaptureOnAllIfaces outcomes state = (state, .ok 0) := by
  rw [dpDisablePktCaptureOnAllIfaces, disableOnIfaces_eq, if_neg]
  rw [List.any_eq_true]
  rintro ⟨port, member, active⟩
  rw [Bool.and_eq_true] at active
  have captured : port ∈ state.capturedPorts := List.mem_filter.mpr ⟨member, active.2⟩
  rw [idle] at captured
  cases captured

theorem dpDisablePktCaptureOnAllIfaces_state
    (outcomes : PortId → EnableOutcomes) (state : CaptureState) :
    (dpDisablePktCaptureOnAllIfaces outcomes state).1 = state := by
  rw [dpDisablePktCaptureOnAllIfaces, disableOnIfaces_eq]

theorem enableInterfaces_extends (outcomes : PortId → EnableOutcomes) (state : CaptureState)
    (interfaces : List CaptureInterface) :
    state.Extends (enableInterfaces outcomes state interfaces).1 := by
  induction interfaces generalizing state with
  | nil => exact CaptureState.Extends.refl state
  | cons interface rest ih =>
    rw [enableInterfaces]
    cases captureTarget state.tables interface with
    | none => exact CaptureState.Extends.refl state
    | some port => ?_
    have extended := (dpEnablePktCapture_result (outcomes port.portId) state port).extended
    dsimp only
    split
    · rename_i after error result
      rw [result] at extended
      exact extended
    · rename_i after result
      rw [result] at extended
      exact extended.trans (ih after)

/-- Capturing what was asked for decides about the ports, whether it is then
given up or not. -/
theorem dpProcessCaptureStart_state {outcomes : StartOutcomes} {state : CaptureState}
    {request : DpgrpcCapture} (offloading : state.tables.conf.offloadEnabled = true)
    (inactive : state.enabled = false) :
    ∃ enabled, (dpProcessCaptureStart outcomes state request).1 =
      (enableInterfaces outcomes.enable (state.setHdrConfig request)
        request.interfaces).1.setEnabled enabled := by
  rw [dpProcessCaptureStart, offloading, inactive, if_neg (by decide), if_neg (by decide)]
  split
  · next after result => exact ⟨true, by rw [result]⟩
  next after error result =>
  rw [result]
  have same := dpDisablePktCaptureOnAllIfaces_state outcomes.disable after
  refine ⟨after.enabled, ?_⟩
  split
  · next helped => exact (congrArg Prod.fst helped).symm.trans same
  · next helped => exact (congrArg Prod.fst helped).symm.trans same

theorem dpProcessCaptureStart_keeps (outcomes : StartOutcomes) (state : CaptureState)
    (request : DpgrpcCapture) :
    (dpProcessCaptureStart outcomes state request).1.tables = state.tables ∧
      ∀ id, state.captured id = true →
        (dpProcessCaptureStart outcomes state request).1.captured id = true := by
  cases offloading : state.tables.conf.offloadEnabled with
  | false =>
    rw [dpProcessCaptureStart, offloading, if_pos (by decide)]
    exact ⟨rfl, fun _ => id⟩
  | true => ?_
  cases inactive : state.enabled with
  | true =>
    rw [dpProcessCaptureStart, offloading, inactive, if_neg (by decide), if_pos rfl]
    exact ⟨rfl, fun _ => id⟩
  | false => ?_
  obtain ⟨enabled, result⟩ := @dpProcessCaptureStart_state outcomes _ request offloading inactive
  have extended :=
    enableInterfaces_extends outcomes.enable (state.setHdrConfig request) request.interfaces
  rw [result]
  exact ⟨extended.tables, extended.captured⟩

theorem entry_of_captureTarget {tables : Tables} {interface : CaptureInterface} {port : Port}
    (found : captureTarget tables interface = some port) :
    tables.ports.entry port.portId = some port := by
  have named : ∃ id, tables.ports.entry id = some port := by
    cases interface with
    | vf ifaceId =>
      change (tables.ifaceIds ifaceId).bind tables.ports.entry = some port at found
      obtain ⟨id, _, held⟩ := Option.bind_eq_some_iff.mp found
      exact ⟨id, held⟩
    | pf index => ?_
    change dpGetPortByPfIndex tables index = some port at found
    unfold dpGetPortByPfIndex at found
    split at found
    · exact ⟨_, dpGetPortById_eq_some found⟩
    split at found
    · exact ⟨_, dpGetPortById_eq_some found⟩
    cases found
  obtain ⟨id, held⟩ := named
  rw [tables.ports.numbered id port held]
  exact held

/-! ## Runs -/

section Interfaces

variable {tables : Tables} {request : DpgrpcIface} {port : Port}

theorem setupInterface_ports (outcomes : CreateOutcomes) : ∃ new : Port, new.portId = port.portId ∧
      (setupInterface outcomes tables request port).1.ports = tables.ports.update new := by
  unfold setupInterface
  split
  · exact ⟨{ port with iface := { port.iface with id := request.ifaceId } }, rfl, rfl⟩
  have metered :=
    meterInterface_sameUse tables.conf outcomes.meter
      { port with iface := requestedIface port.iface request }
      request.totalFlowRateCap request.publicFlowRateCap
  dsimp only
  split
  · exact ⟨{ port with iface := PortIface.zeroed }, rfl, rfl⟩
  · exact ⟨startedPort outcomes _, metered.portId, rfl⟩

theorem dpProcessCreateInterface_ports
    (outcomes : CreateOutcomes) (tables : Tables) (request : DpgrpcIface) :
    (dpProcessCreateInterface outcomes tables request).1.ports = tables.ports ∨ ∃ old new : Port,
        tables.ports.entry new.portId = some old ∧ old.allocated = false ∧
          (dpProcessCreateInterface outcomes tables request).1.ports = tables.ports.update new := by
  unfold dpProcessCreateInterface
  split
  · exact Or.inl rfl
  split
  · exact Or.inl rfl
  rename_i port named
  split
  · exact Or.inl rfl
  rename_i unused
  have held := entry_of_dpGetPortByName named
  split
  · rename_i after ulAddr6 result
    have same : after.ports = tables.ports := by
      rw [← show _ = after from congrArg Prod.fst result]
      rfl
    exact Or.inl same
  rename_i after ulAddr6 result
  have same : after.ports = tables.ports := by
    rw [← show _ = after from congrArg Prod.fst result]
    rfl
  unfold mapInterface
  split
  · exact Or.inl same
  obtain ⟨new, numbered, updated⟩ :=
    @setupInterface_ports
      { after with ifaceIds := Function.update after.ifaceIds request.ifaceId (some port.portId) }
      { request with ulAddr6 } port outcomes
  refine Or.inr ⟨port, new, ?_, ?_, ?_⟩
  · rw [numbered]
    exact held
  · exact Bool.eq_false_of_not_eq_true unused
  · rw [updated, ← same]

theorem dpProcessDeleteInterface_ports (outcomes : DeleteOutcomes) (tables : Tables)
    (flows : FlowStore) (ifaceId : IfaceId) :
    (dpProcessDeleteInterface outcomes tables flows ifaceId).1.ports = tables.ports ∨
      ∃ old new : Port,
        tables.ifaceIds ifaceId = some new.portId ∧ tables.ports.entry new.portId = some old ∧
          (dpProcessDeleteInterface outcomes tables flows ifaceId).1.ports =
            tables.ports.update new := by
  unfold dpProcessDeleteInterface
  split
  · exact Or.inl rfl
  rename_i port found
  obtain ⟨id, mapped, held⟩ := Option.bind_eq_some_iff.mp found
  rw [← tables.ports.numbered id port held] at mapped held
  let cleared : Port :=
    { port with
      allocated := if outcomes.stopped then false else port.allocated
      iface := PortIface.zeroed }
  exact Or.inr ⟨port, cleared, mapped, held, rfl⟩

end Interfaces

theorem registered_update {ports : PortTable} {old new : Port}
    (registered : ∀ id port, ports.entry id = some port → id.toNat < dpMaxPorts)
    (held : ports.entry new.portId = some old) :
    ∀ id port, (ports.update new).entry id = some port → id.toNat < dpMaxPorts :=
  @PortTable.update_forall ports new (fun id _ => id.toNat < dpMaxPorts)
    (registered _ old held) registered

namespace CaptureState

/-- `CreateInterface`.  `dp_init_port` gives the port of a VF its first default
rule, and aborts if it cannot. -/
def createInterface (outcomes : CreateOutcomes) (state : CaptureState)
    (request : DpgrpcIface) : CaptureState where
  tables := (dpProcessCreateInterface outcomes state.tables request).1
  flows := state.flows
  captured := state.captured
  defaultRules :=
    match
      dpGetPortByName state.tables.ports request.pciName,
      (dpProcessCreateInterface outcomes state.tables request).2 with
    | some port, .ok () =>
      if state.tables.conf.offloadEnabled && !port.isPf then
        (state.setJumpFlow port.portId .vnet).defaultRules
      else state.defaultRules
    | _, _ => state.defaultRules
  hdrConfig := state.hdrConfig
  enabled := state.enabled
  registered := by
    rcases dpProcessCreateInterface_ports outcomes state.tables request with
      same | ⟨old, new, held, _, updated⟩
    · rw [same]
      exact state.registered
    · rw [updated]
      exact registered_update state.registered held

/-- `DeleteInterface`.  What is noted about capturing stays. -/
def deleteInterface (outcomes : DeleteOutcomes) (state : CaptureState)
    (ifaceId : IfaceId) : CaptureState where
  tables := (dpProcessDeleteInterface outcomes state.tables state.flows ifaceId).1
  flows := (dpProcessDeleteInterface outcomes state.tables state.flows ifaceId).2.1
  captured := state.captured
  defaultRules := state.defaultRules
  hdrConfig := state.hdrConfig
  enabled := state.enabled
  registered := by
    rcases dpProcessDeleteInterface_ports outcomes state.tables state.flows ifaceId with
      same | ⟨old, new, _, held, updated⟩
    · rw [same]
      exact state.registered
    · rw [updated]
      exact registered_update state.registered held

end CaptureState

inductive CaptureEvent where
  | start (outcomes : StartOutcomes) (request : DpgrpcCapture)
  | stop (outcomes : PortId → EnableOutcomes)
  | createInterface (outcomes : CreateOutcomes) (request : DpgrpcIface)
  | deleteInterface (outcomes : DeleteOutcomes) (ifaceId : IfaceId)

def CaptureState.step (state : CaptureState) : CaptureEvent → CaptureState
  | .start outcomes request => (dpProcessCaptureStart outcomes state request).1
  | .stop outcomes => (dpProcessCaptureStop outcomes state).1
  | .createInterface outcomes request => state.createInterface outcomes request
  | .deleteInterface outcomes ifaceId => state.deleteInterface outcomes ifaceId

def captureMachine (init : CaptureState) : Machine CaptureState CaptureEvent where
  init
  step := CaptureState.step

/-! ## The protocol -/

namespace CaptureState

theorem step_captured (state : CaptureState) (event : CaptureEvent) :
    state.captured ≤ (state.step event).captured := by
  cases event with
  | start outcomes request => exact (dpProcessCaptureStart_keeps outcomes state request).2
  | stop outcomes =>
    have same := dpDisablePktCaptureOnAllIfaces_state outcomes state
    rw [step, dpProcessCaptureStop]
    split
    · exact le_rfl
    split
    all_goals
      rename_i result
      rw [result] at same
      exact same ▸ le_rfl
  | _ => exact le_rfl

/-- No request ends the capture of a port, not even `CaptureStop`. -/
theorem captured_le_run (init state : CaptureState) (events : List CaptureEvent) :
    state.captured ≤ ((captureMachine init).runFrom state events).captured := by
  induction events generalizing state with
  | nil => exact le_rfl
  | cons event events ih => exact (step_captured state event).trans (ih _)

def Inactive (state : CaptureState) : Prop :=
  match dpProcessCaptureStatus state with
  | .ok status => status.isActive = false
  | .error _ => False

theorem inactive_iff {state : CaptureState} : state.Inactive ↔ state.enabled = false := by
  unfold Inactive dpProcessCaptureStatus
  cases state.enabled with
  | false => exact iff_of_true rfl rfl
  | true => ?_
  refine iff_of_false ?_ (by decide)
  dsimp only
  split
  · rename_i status replied
    rw [if_neg (by decide)] at replied
    split at replied
    · cases replied
    cases replied
    exact Bool.noConfusion
  · exact id

/-- `CaptureStop` succeeds when its `rte_flow` calls do, it reports the ports
that were captured and releases them, and the same request can be started
again. -/
def Stops (state : CaptureState) (request : DpgrpcCapture) : Prop :=
  match dpProcessCaptureStop (fun _ => EnableOutcomes.succeed) state with
  | (_, .error _) => False
  | (after, .ok portCnt) =>
    portCnt.toNat = state.capturedPorts.length ∧ after.capturedPorts = [] ∧ after.Inactive ∧
      (dpProcessCaptureStart StartOutcomes.succeed after request).2 = .ok ()

/-- A `CaptureStart` that fails leaves nothing behind, and one that succeeds
can be undone. -/
def FollowsProtocol (outcomes : StartOutcomes) (state : CaptureState)
    (request : DpgrpcCapture) : Prop :=
  match dpProcessCaptureStart outcomes state request with
  | (after, .error _) => after.capturedPorts = [] ∧ after.Inactive
  | (after, .ok ()) => after.Stops request

variable {outcomes : StartOutcomes} {state : CaptureState}
variable {request : DpgrpcCapture}

theorem Stops.capturedPorts (stops : state.Stops request) : state.capturedPorts = [] := by
  have same := dpDisablePktCaptureOnAllIfaces_state (fun _ => EnableOutcomes.succeed) state
  unfold Stops dpProcessCaptureStop at stops
  split at stops
  · exact stops.elim
  rename_i after portCnt stopped
  split at stopped
  · cases stopped
  split at stopped
  · cases stopped
  rename_i helped count result
  rw [result] at same
  cases stopped
  rw [show helped = state from same] at stops
  exact stops.2.1

theorem FollowsProtocol.capturedPorts (follows : FollowsProtocol outcomes state request) :
    (dpProcessCaptureStart outcomes state request).1.capturedPorts = [] := by
  unfold FollowsProtocol at follows
  split at follows
  · rename_i result
    rw [result]
    exact follows.1
  · rename_i result
    rw [result]
    exact follows.capturedPorts

theorem FollowsProtocol.inactive (follows : FollowsProtocol outcomes state request) :
    state.enabled = false := by
  by_contra active
  rw [Bool.not_eq_false] at active
  have refused : ∃ error, dpProcessCaptureStart outcomes state request = (state, .error error) := by
    unfold dpProcessCaptureStart
    split
    · exact ⟨_, rfl⟩
    · exact ⟨_, rfl⟩
  obtain ⟨error, result⟩ := refused
  rw [FollowsProtocol, result] at follows
  have inactive := inactive_iff.mp follows.2
  rw [active] at inactive
  cases inactive

theorem mem_capturedPorts_dpProcessCaptureStart
    {port : Port} (member : port ∈ state.capturedPorts) :
    port ∈ (dpProcessCaptureStart outcomes state request).1.capturedPorts := by
  have kept := dpProcessCaptureStart_keeps outcomes state request
  rw [mem_capturedPorts] at member ⊢
  rw [kept.1]
  exact ⟨member.1, kept.2 _ member.2⟩

theorem mem_capturedPorts_of_enables (offloading : state.tables.conf.offloadEnabled = true)
    (inactive : state.enabled = false) {interface : CaptureInterface} {rest : List CaptureInterface}
    (named : request.interfaces = interface :: rest) {port : Port}
    (found : captureTarget state.tables interface = some port)
    (enables : Enables (outcomes.enable port.portId) state port) :
    port ∈ (dpProcessCaptureStart outcomes state request).1.capturedPorts := by
  obtain ⟨enabled, answered⟩ := @dpProcessCaptureStart_state outcomes _ request offloading inactive
  rw [mem_capturedPorts, (dpProcessCaptureStart_keeps ..).1]
  refine ⟨entry_of_captureTarget found, ?_⟩
  rw [answered, named, enableInterfaces]
  rw [show captureTarget (state.setHdrConfig request).tables interface = some port from found]
  have result :=
    dpEnablePktCapture_result (outcomes.enable port.portId) (state.setHdrConfig request) port
  obtain ⟨succeeded, captured⟩ :=
    result.marked
      ⟨enables.allocated, enables.idle, enables.destroyed, enables.jumping, enables.capturing⟩
  dsimp only
  split
  · rename_i failed
    rw [failed] at succeeded
    cases succeeded
  · rename_i after enabled
    rw [enabled] at captured
    exact (enableInterfaces_extends outcomes.enable after rest).captured _ captured

/-- The first interface of the request, if there is one, gets captured. -/
def Starts (outcomes : StartOutcomes) (state : CaptureState) (request : DpgrpcCapture) : Prop :=
  state.tables.conf.offloadEnabled = true ∧ ∃ interface ∈ request.interfaces.head?,
      ∃ port ∈ captureTarget state.tables interface,
        Enables (outcomes.enable port.portId) state port

theorem FollowsProtocol.not_starts (follows : FollowsProtocol outcomes state request) :
    ¬Starts outcomes state request := by
  rintro ⟨offloading, interface, first, port, found, enables⟩
  obtain ⟨rest, named⟩ := List.head?_eq_some_iff.mp first
  have member := mem_capturedPorts_of_enables offloading follows.inactive named found enables
  rw [follows.capturedPorts] at member
  cases member

theorem FollowsProtocol.idle (follows : FollowsProtocol outcomes state request) :
    state.capturedPorts = [] := by
  rw [List.eq_nil_iff_forall_not_mem]
  intro port member
  have kept := @mem_capturedPorts_dpProcessCaptureStart outcomes state request port member
  rw [follows.capturedPorts] at kept
  cases kept

theorem stops_of_empty (offloading : state.tables.conf.offloadEnabled = true)
    (idle : state.capturedPorts = []) (empty : request.interfaces = []) :
    ((state.setHdrConfig request).setEnabled true).Stops request := by
  have released :
      dpDisablePktCaptureOnAllIfaces (fun _ => EnableOutcomes.succeed)
          ((state.setHdrConfig request).setEnabled true) =
        ((state.setHdrConfig request).setEnabled true, .ok 0) :=
    dpDisablePktCaptureOnAllIfaces_of_idle idle
  rw [Stops, dpProcessCaptureStop, released]
  refine ⟨?_, idle, inactive_iff.mpr rfl, ?_⟩
  · rw [show
      ((state.setHdrConfig request).setEnabled true).capturedPorts = [] from
        idle]
    rfl
  rw [dpProcessCaptureStart, empty]
  change
    (if (!state.tables.conf.offloadEnabled) = true then _ else _ :
      CaptureState × Except GrpcErr Unit).2 = .ok ()
  rw [offloading]
  rfl

theorem enableInterfaces_of_refused
    {enable : PortId → EnableOutcomes} {interface : CaptureInterface}
    (refused : ∀ port ∈ captureTarget state.tables interface,
      ¬Enables (enable port.portId) state port)
    (rest : List CaptureInterface) :
    ∃ after error, enableInterfaces enable state (interface :: rest) = (after, .error error) ∧
        after.tables = state.tables ∧ after.captured = state.captured ∧
        after.enabled = state.enabled := by
  rw [enableInterfaces]
  cases found : captureTarget state.tables interface with
  | none => exact ⟨state, _, rfl, rfl, rfl, rfl⟩
  | some port => ?_
  have result := dpEnablePktCapture_result (enable port.portId) state port
  dsimp only
  split
  · rename_i after error failed
    rw [failed] at result
    exact
      ⟨after, error, rfl, result.extended.tables,
        result.failed (by exact nofun), result.extended.enabled⟩
  · rename_i after enabled
    rw [enabled] at result
    exact absurd (result.enabled rfl) (refused port found)

def vfTables : Tables where
  conf := { underlayIp := ⟨1, 0⟩, ipsecEnabled := false, offloadEnabled := true }
  ports :=
    PortTable.empty.update
      { Port.absent with portId := 2, devName := "vf0" }
  vnfs := VnfTables.empty
  ifaceIds := fun _ => none
  pf0 := 0
  pf1 := 1

def vfInterface : DpgrpcIface where
  ifaceId := "vm1"
  pciName := "vf0"
  vni := 100
  ip4Addr := 10
  ip6Addr := Ipv6.zero
  ulAddr6 := ⟨1, 1⟩
  totalFlowRateCap := 0
  publicFlowRateCap := 0
  encrypt := false

def vfCreated : CreateOutcomes where
  generated := ⟨1, 1⟩
  vnf := ⟨true, true⟩
  mapped := true
  routeTables := true
  route4 := none
  route6 := none
  meter := ⟨.set, true, true⟩
  started := true
  pfLinkUp := true

def vfCapture : DpgrpcCapture where
  dstAddr6 := ⟨2, 0⟩
  udpSrcPort := 3000
  udpDstPort := 3001
  interfaces := [.vf "vm1"]
  fitting := by decide

theorem vfTables_registered :
    ∀ id port, vfTables.ports.entry id = some port → id.toNat < dpMaxPorts :=
  @PortTable.update_forall PortTable.empty
    { Port.absent with portId := 2, devName := "vf0" }
    (fun id _ => id.toNat < dpMaxPorts) (by decide) nofun

end CaptureState

end DpService.Dataplane

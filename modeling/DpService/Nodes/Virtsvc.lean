import DpService.Foundations.Machine
import DpService.Foundations.Table
import DpService.Nodes.Conntrack

/-!
# Connections to virtual services

A virtual service gives each connection of a guest one of its ports.  A hash
table finds the slot of a connection for the requests of the guest, and the
port leads back to the slot for the replies.
-/

namespace DpService.Nodes

open Foundations Packet Dataplane

def dpNbSystemPorts : UInt16 := 1024

def dpVirtsvcPortCount : Nat := 64512

structure VirtsvcConnKey where
  vfPortId : PortId
  vfL4Port : UInt16
  vfIp : Ipv4
  deriving DecidableEq, Repr

inductive VirtsvcConnState where
  | transient
  | transientSyn
  | transientSynack
  | established
  deriving DecidableEq, Repr

structure VirtsvcConn where
  lastPktTimestamp : UInt64
  key : VirtsvcConnKey
  state : VirtsvcConnState
  deriving DecidableEq, Repr

/-- A service, and the slots that were ever given to a connection. -/
structure Virtsvc where
  lastAssignedPort : Nat
  openPorts : VirtsvcConnKey → Option Nat
  connections : Nat → VirtsvcConn
  assigned : Nat → Bool

namespace Virtsvc

/-- A new service.  What lies behind its array in memory can be anything. -/
def created (behind : Nat → VirtsvcConn) : Virtsvc where
  lastAssignedPort := 0
  openPorts := fun _ => none
  connections slot :=
    if slot < dpVirtsvcPortCount then ⟨0, ⟨0, 0, 0⟩, .transient⟩ else behind slot
  assigned := fun _ => false

structure Timeouts where
  port : UInt64
  established : UInt64

def dpVirtsvcIsConnectionOld (timeouts : Timeouts) (conn : VirtsvcConn) (currentTsc : UInt64) :
    Bool :=
  currentTsc > conn.lastPktTimestamp +
    if conn.state = .established then timeouts.established else timeouts.port

def dpVirtsvcGetFreePort (timeouts : Timeouts) (currentTsc : UInt64) (service : Virtsvc) :
    Option Nat :=
  let next := service.lastAssignedPort + 1
  (List.range' next (dpVirtsvcPortCount - next) ++ List.range' 0 next).find? fun port =>
    dpVirtsvcIsConnectionOld timeouts (service.connections port) currentTsc

def dpVirtsvcUsePort (service : Virtsvc) (key : VirtsvcConnKey) (connPort : Nat) : Virtsvc :=
  let conn := service.connections connPort
  let openPorts :=
    if conn.lastPktTimestamp ≠ 0 then assign service.openPorts conn.key none
    else service.openPorts
  { service with
    openPorts := assign openPorts key (some connPort)
    connections := assign service.connections connPort { conn with key, state := .transient }
    assigned := assign service.assigned connPort true }

def virtsvcTcpStateChange (tcpFlags : UInt8) (state : VirtsvcConnState) : VirtsvcConnState :=
  if tcpFlags &&& tcpRst ≠ 0 then .transient
  else if tcpFlags &&& tcpFin ≠ 0 then .transient
  else
    match state with
    | .transient => if tcpFlags = tcpSyn then .transientSyn else state
    | .transientSyn => if tcpFlags = tcpSyn ||| tcpAck then .transientSynack else state
    | .transientSynack => if tcpFlags = tcpAck then .established else state
    | .established => state

/-- A packet of the connection, with its flags if it is a TCP packet. -/
def touch (service : Virtsvc) (slot : Nat) (cycles : UInt64) (tcpFlags : Option UInt8) :
    Virtsvc :=
  let conn := service.connections slot
  let state := tcpFlags.elim conn.state fun flags => virtsvcTcpStateChange flags conn.state
  { service with
    connections :=
      assign service.connections slot { conn with lastPktTimestamp := cycles, state } }

/-- `virtsvc_request_next`, as far as the connection goes. -/
def virtsvcRequestNext (timeouts : Timeouts) (service : Virtsvc) (key : VirtsvcConnKey)
    (currentTsc cycles : UInt64) (tcpFlags : Option UInt8) : Virtsvc :=
  match service.openPorts key with
  | some slot => service.touch slot cycles tcpFlags
  | none =>
    match dpVirtsvcGetFreePort timeouts currentTsc service with
    | none => service
    | some slot =>
      { (service.dpVirtsvcUsePort key slot).touch slot cycles tcpFlags with
        lastAssignedPort := slot }

def virtsvcGetConnOnPort (l4Port : UInt16) : Nat :=
  (l4Port - dpNbSystemPorts).toNat

def virtsvcReplyTarget (service : Virtsvc) (l4Port : UInt16) : Option VirtsvcConnKey :=
  let conn := service.connections (virtsvcGetConnOnPort l4Port)
  if conn.lastPktTimestamp = 0 then none else some conn.key

def virtsvcReplyNext (service : Virtsvc) (l4Port : UInt16) (cycles : UInt64)
    (tcpFlags : Option UInt8) : Virtsvc :=
  if (service.virtsvcReplyTarget l4Port).isNone then service
  else service.touch (virtsvcGetConnOnPort l4Port) cycles tcpFlags

/-- A connection is given up together with its key. -/
def release (service : Virtsvc) (key : VirtsvcConnKey) (slot : Nat) : Virtsvc :=
  let conn := service.connections slot
  { service with
    openPorts := assign service.openPorts key none
    connections := assign service.connections slot { conn with lastPktTimestamp := 0 } }

def dpVirtsvcDelIface (service : Virtsvc) (portId : PortId) : Virtsvc :=
  (List.range' 0 dpVirtsvcPortCount).foldl (fun service slot =>
    let conn := service.connections slot
    if conn.key.vfPortId = portId ∧ conn.lastPktTimestamp ≠ 0 then service.release conn.key slot
    else service) service

def dpVirtsvcOpenSyncConnection (service : Virtsvc) (key : VirtsvcConnKey) (connPort : Nat)
    (cycles : UInt64) : Virtsvc :=
  let cleared := (service.openPorts key).elim service fun slot => service.release key slot
  { (cleared.dpVirtsvcUsePort key connPort).touch connPort cycles none with
    lastAssignedPort := connPort }

inductive Event where
  | request (key : VirtsvcConnKey) (currentTsc cycles : UInt64) (tcpFlags : Option UInt8)
  | reply (l4Port : UInt16) (cycles : UInt64) (tcpFlags : Option UInt8)
  | delIface (portId : PortId)
  | openSync (key : VirtsvcConnKey) (connPort : Nat) (cycles : UInt64)

def step (timeouts : Timeouts) (service : Virtsvc) : Event → Virtsvc
  | .request key currentTsc cycles tcpFlags =>
    virtsvcRequestNext timeouts service key currentTsc cycles tcpFlags
  | .reply l4Port cycles tcpFlags => service.virtsvcReplyNext l4Port cycles tcpFlags
  | .delIface portId => service.dpVirtsvcDelIface portId
  | .openSync key connPort cycles => service.dpVirtsvcOpenSyncConnection key connPort cycles

def machine (timeouts : Timeouts) (behind : Nat → VirtsvcConn) : Machine Virtsvc Event where
  init := created behind
  step := step timeouts

/-! ## Slots and keys -/

def InUse (service : Virtsvc) (slot : Nat) : Prop :=
  slot < dpVirtsvcPortCount ∧ (service.connections slot).lastPktTimestamp ≠ 0

/-- The keys are those of the slots in use. -/
structure Paired (service : Virtsvc) : Prop where
  last : service.lastAssignedPort < dpVirtsvcPortCount
  slots : ∀ key slot,
    service.openPorts key = some slot ↔
      service.InUse slot ∧ (service.connections slot).key = key

variable {service : Virtsvc} {slot : Nat} {key : VirtsvcConnKey} {cycles : UInt64}

theorem Paired.release (paired : service.Paired) (held : service.openPorts key = some slot) :
    (service.release key slot).Paired := by
  refine ⟨paired.last, fun other place => ?_⟩
  have named := paired.slots other place
  have owner := paired.slots key slot
  have shared := paired.slots key place
  simp only [Virtsvc.release, InUse, assign] at *
  grind

/-- The loop over the slots keeps what giving up a connection keeps. -/
theorem delIface_invariant {Invariant : Virtsvc → Prop}
    (kept : ∀ service slot, service.InUse slot → Invariant service →
      Invariant (service.release (service.connections slot).key slot))
    (holds : Invariant service) (portId : PortId) :
    Invariant (service.dpVirtsvcDelIface portId) := by
  have range : ∀ slot ∈ List.range' 0 dpVirtsvcPortCount, slot < dpVirtsvcPortCount := by
    intro slot member
    simpa using member
  rw [dpVirtsvcDelIface]
  generalize List.range' 0 dpVirtsvcPortCount = slots at range
  induction slots generalizing service with
  | nil => exact holds
  | cons slot rest ih =>
    rw [List.foldl_cons]
    apply ih _ fun other member => range other (List.mem_cons_of_mem _ member)
    dsimp only
    split
    · next used => exact kept service slot ⟨range slot List.mem_cons_self, used.2⟩ holds
    · exact holds

theorem Paired.touch (paired : service.Paired) (ticking : cycles ≠ 0)
    (used : slot < dpVirtsvcPortCount → service.InUse slot) (tcpFlags : Option UInt8) :
    (service.touch slot cycles tcpFlags).Paired := by
  refine ⟨paired.last, fun key other => ?_⟩
  have named := paired.slots key other
  simp only [Virtsvc.touch, InUse, assign] at *
  grind

theorem Paired.use (paired : service.Paired) (within : slot < dpVirtsvcPortCount)
    (new : service.openPorts key = none) (ticking : cycles ≠ 0) (tcpFlags : Option UInt8) :
    Paired { (service.dpVirtsvcUsePort key slot).touch slot cycles tcpFlags with
      lastAssignedPort := slot } := by
  refine ⟨within, fun other place => ?_⟩
  have named := paired.slots other place
  have held := paired.slots (service.connections slot).key slot
  have shared := paired.slots (service.connections slot).key place
  have unknown := paired.slots key place
  simp only [Virtsvc.touch, dpVirtsvcUsePort, InUse, assign] at *
  split <;> grind [assign]

theorem Paired.request (paired : service.Paired) (ticking : cycles ≠ 0) (timeouts : Timeouts)
    (key : VirtsvcConnKey) (currentTsc : UInt64) (tcpFlags : Option UInt8) :
    (virtsvcRequestNext timeouts service key currentTsc cycles tcpFlags).Paired := by
  unfold virtsvcRequestNext
  cases held : service.openPorts key with
  | some slot => exact paired.touch ticking (fun _ => ((paired.slots key slot).mp held).1) tcpFlags
  | none =>
    cases found : dpVirtsvcGetFreePort timeouts currentTsc service with
    | none => exact paired
    | some slot =>
      have member := List.mem_of_find?_eq_some found
      have last := paired.last
      have within : slot < dpVirtsvcPortCount := by
        simp at member
        omega
      exact paired.use within held ticking tcpFlags

theorem Paired.reply (paired : service.Paired) (ticking : cycles ≠ 0) (l4Port : UInt16)
    (tcpFlags : Option UInt8) : (service.virtsvcReplyNext l4Port cycles tcpFlags).Paired := by
  unfold virtsvcReplyNext virtsvcReplyTarget
  by_cases idle : (service.connections (virtsvcGetConnOnPort l4Port)).lastPktTimestamp = 0
  · simpa [idle] using paired
  · simpa [idle] using paired.touch ticking (fun within => ⟨within, idle⟩) tcpFlags

theorem Paired.openSync (paired : service.Paired) (within : slot < dpVirtsvcPortCount)
    (ticking : cycles ≠ 0) :
    (service.dpVirtsvcOpenSyncConnection key slot cycles).Paired := by
  unfold dpVirtsvcOpenSyncConnection
  cases held : service.openPorts key with
  | none => exact paired.use within held ticking none
  | some old => exact (paired.release held).use within (assign_self ..) ticking none

/-- The cycle counter has left zero, and a sync message names a slot. -/
def Event.Valid : Event → Prop
  | .request _ _ cycles _ => cycles ≠ 0
  | .reply _ cycles _ => cycles ≠ 0
  | .delIface _ => True
  | .openSync _ connPort cycles => connPort < dpVirtsvcPortCount ∧ cycles ≠ 0

theorem Paired.step (paired : service.Paired) (timeouts : Timeouts) {event : Event}
    (valid : event.Valid) : (service.step timeouts event).Paired := by
  cases event with
  | request key currentTsc cycles tcpFlags => exact paired.request valid timeouts ..
  | reply l4Port cycles tcpFlags => exact paired.reply valid ..
  | delIface portId =>
    apply delIface_invariant _ paired
    exact fun service slot used paired =>
      paired.release ((paired.slots _ slot).mpr ⟨used, rfl⟩)
  | openSync key connPort cycles => exact paired.openSync valid.1 valid.2

theorem Paired.created (behind : Nat → VirtsvcConn) : (created behind).Paired := by
  refine ⟨Nat.zero_lt_succ 64511, fun key slot => ?_⟩
  simp [Virtsvc.created, InUse]
  grind

theorem virtsvcGetConnOnPort_toUInt16 (within : slot < dpVirtsvcPortCount) :
    virtsvcGetConnOnPort (slot.toUInt16 + dpNbSystemPorts) = slot := by
  rw [virtsvcGetConnOnPort, UInt16.add_sub_cancel]
  change slot < 64512 at within
  exact Nat.mod_eq_of_lt (by omega)

/-- What is in use was given to a connection. -/
structure Noted (service : Virtsvc) : Prop where
  slots : ∀ slot, service.InUse slot → service.assigned slot = true
  keys : ∀ key slot, service.openPorts key = some slot → service.assigned slot = true

theorem Noted.release (noted : service.Noted) (key : VirtsvcConnKey) (slot : Nat) :
    (service.release key slot).Noted := by
  have ⟨slots, keys⟩ := noted
  constructor <;> simp only [Virtsvc.release, InUse, assign] at * <;> grind

theorem Noted.touch (noted : service.Noted)
    (given : slot < dpVirtsvcPortCount → service.assigned slot = true) (cycles : UInt64)
    (tcpFlags : Option UInt8) : (service.touch slot cycles tcpFlags).Noted := by
  have ⟨slots, keys⟩ := noted
  constructor <;> simp only [Virtsvc.touch, InUse, assign] at * <;> grind

theorem Noted.use (noted : service.Noted) (key : VirtsvcConnKey) (slot : Nat) :
    (service.dpVirtsvcUsePort key slot).Noted := by
  have ⟨slots, keys⟩ := noted
  constructor <;> simp only [dpVirtsvcUsePort, InUse, assign] at * <;> grind [assign]

theorem Noted.step (noted : service.Noted) (timeouts : Timeouts) (event : Event) :
    (service.step timeouts event).Noted := by
  have taken : ∀ (service : Virtsvc), service.Noted → ∀ key slot cycles tcpFlags,
      Noted { (service.dpVirtsvcUsePort key slot).touch slot cycles tcpFlags with
        lastAssignedPort := slot } := by
    intro service noted key slot cycles tcpFlags
    have touched := (noted.use key slot).touch (fun _ => assign_self ..) cycles tcpFlags
    exact ⟨touched.slots, touched.keys⟩
  cases event with
  | request key currentTsc cycles tcpFlags =>
    change (virtsvcRequestNext timeouts service key currentTsc cycles tcpFlags).Noted
    unfold virtsvcRequestNext
    cases held : service.openPorts key with
    | some slot => exact noted.touch (fun _ => noted.keys key slot held) cycles tcpFlags
    | none =>
      cases dpVirtsvcGetFreePort timeouts currentTsc service with
      | none => exact noted
      | some slot => exact taken service noted key slot cycles tcpFlags
  | reply l4Port cycles tcpFlags =>
    change (service.virtsvcReplyNext l4Port cycles tcpFlags).Noted
    unfold virtsvcReplyNext virtsvcReplyTarget
    by_cases idle : (service.connections (virtsvcGetConnOnPort l4Port)).lastPktTimestamp = 0
    · simpa [idle] using noted
    · simpa [idle] using
        noted.touch (fun within => noted.slots _ ⟨within, idle⟩) cycles tcpFlags
  | delIface portId => exact delIface_invariant (fun _ _ _ noted => noted.release ..) noted portId
  | openSync key connPort cycles =>
    change (service.dpVirtsvcOpenSyncConnection key connPort cycles).Noted
    unfold dpVirtsvcOpenSyncConnection
    cases held : service.openPorts key with
    | none => exact taken service noted key connPort cycles none
    | some slot => exact taken _ (noted.release key slot) key connPort cycles none

theorem virtsvcGetConnOnPort_lt_iff (l4Port : UInt16) :
    virtsvcGetConnOnPort l4Port < dpVirtsvcPortCount ↔ 1024 ≤ l4Port.toNat := by
  have bound := l4Port.toNat_lt
  rw [virtsvcGetConnOnPort, UInt16.toNat_sub]
  change (2 ^ 16 - 1024 + l4Port.toNat) % 2 ^ 16 < 64512 ↔ _
  omega

/-- The slot of a reply lies in the array, and a reply to a port that was
never given away is dropped, exactly if the port is none of the system's. -/
theorem reply_inTable_iff (timeouts : Timeouts) (behind : Nat → VirtsvcConn)
    (events : List Event) (l4Port : UInt16) :
    let service := (machine timeouts behind).run events
    (virtsvcGetConnOnPort l4Port < dpVirtsvcPortCount ∧
      (service.assigned (virtsvcGetConnOnPort l4Port) = false →
        service.virtsvcReplyTarget l4Port = none)) ↔
      1024 ≤ l4Port.toNat := by
  intro service
  have noted : service.Noted := by
    apply Machine.run_invariant _ fun _ event noted => noted.step timeouts event
    constructor <;> simp only [machine, created, InUse] <;> grind
  rw [virtsvcGetConnOnPort_lt_iff]
  refine ⟨And.left, fun high => ⟨high, fun never => ?_⟩⟩
  by_contra answered
  have used : service.InUse (virtsvcGetConnOnPort l4Port) :=
    ⟨(virtsvcGetConnOnPort_lt_iff l4Port).mpr high, by grind [virtsvcReplyTarget]⟩
  exact absurd (noted.slots _ used) (by simp [never])

/-- A reply to port 80 is looked up behind the array, and goes wherever the
memory there says. -/
theorem reply_behindTable :
    let behind : Nat → VirtsvcConn := fun _ => ⟨1, ⟨3, 0, 0⟩, .transient⟩
    let service := (machine ⟨1, 2⟩ behind).run []
    ¬ virtsvcGetConnOnPort 80 < dpVirtsvcPortCount ∧
      service.assigned (virtsvcGetConnOnPort 80) = false ∧
      service.virtsvcReplyTarget 80 = some ⟨3, 0, 0⟩ := by
  decide +kernel

end Virtsvc

end DpService.Nodes

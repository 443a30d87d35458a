import DpService.Flow.Store

/-!
# Synchronisation of NAT ports

An active instance sends a message for every port that it gives away or takes
back, and for every flow that has one when it is asked for a dump.  A backup
instance keeps nothing but the two tables of NAT ports, with enough beside an
entry to make a flow of it when the backup becomes active.
-/

namespace DpService.Flow

open Foundations Packet Dataplane

structure NatCreate where
  portmapKey : PortmapKey
  portoverloadKey : PortoverloadKey
  createdPortId : PortId
  icmpTypeSrc : UInt16
  icmpErrIpCksum : UInt16
  deriving DecidableEq, Repr

/-- Whom the port of a message was given to. -/
def NatCreate.allocation (message : NatCreate) : Allocation where
  portmapKey := message.portmapKey
  portId := message.createdPortId

structure NatDelete where
  portmapKey : PortmapKey
  portoverloadKey : PortoverloadKey
  deriving DecidableEq, Repr

/-- The messages about NAT, and the request of a backup that starts. -/
inductive SyncMessage where
  | natCreate (message : NatCreate)
  | natDelete (message : NatDelete)
  | requestDump
  deriving DecidableEq, Repr

/-- What `dp_allocate_network_snat_port` sends for a port that it has given
away.  The type of a packet that is no ICMP message is a byte of its port. -/
def natCreateOf (nat : NatRange) (df : DpFlow) (port : Port)
    (icmpErrIpCksum natPort : UInt16) : Option NatCreate :=
  (natAddresses df).map fun (srcIp, dstIp) =>
    { portmapKey := portmapKeyOf df port.iface.vni srcIp
      portoverloadKey := overloadKeyOf df nat.natIp dstIp natPort
      createdPortId := port.portId
      icmpTypeSrc := df.l4Info.icmpType.toUInt16
      icmpErrIpCksum }

def allocationMessages (nat : NatRange) (df : DpFlow) (port : Port) (icmpErrIpCksum : UInt16)
    (allocated : Option UInt16) : List SyncMessage :=
  (allocated.bind (natCreateOf nat df port icmpErrIpCksum)).toList.map .natCreate

def releaseMessages (value : FlowValue) : List SyncMessage :=
  (dpFlowToSnatKeys value).toList.map fun (portmapKey, portoverloadKey) =>
    .natDelete { portmapKey, portoverloadKey }

/-! ## The backup -/

structure IcmpMetadata where
  icmpTypeSrc : UInt16
  icmpErrIpCksum : UInt16
  deriving DecidableEq, Repr

/-- The tables of a backup.  What a port was given away for is kept with its
entry here, `icmp` being the part of it that `Allocation` does not have. -/
structure Backup where
  ports : NatPorts
  icmp : PortoverloadKey → IcmpMetadata

def Backup.empty : Backup where
  ports := NatPorts.empty
  icmp := fun _ => ⟨0, 0⟩

/-- Which allocations and insertions succeed while a message is handled. -/
structure SyncOutcomes where
  allocMetadata : Bool
  ports : PortOutcomes
  deriving DecidableEq, Repr

def SyncOutcomes.succeed : SyncOutcomes where
  allocMetadata := true
  ports := PortOutcomes.succeed

/-- The tables with what a message says about an entry that was added. -/
def Backup.note (backup : Backup) (ports : NatPorts) (key : PortoverloadKey)
    (message : NatCreate) : Backup where
  ports
  icmp := assign backup.icmp key ⟨message.icmpTypeSrc, message.icmpErrIpCksum⟩

def dpAllocateSyncSnatPort (outcomes : SyncOutcomes) (backup : Backup) (message : NatCreate) :
    Backup :=
  if !outcomes.allocMetadata then backup
  else
    match
      dpUseExistingPortmapEntry outcomes.ports message.createdPortId
        backup.ports message.portmapKey message.portoverloadKey with
    | (ports, .reused natPort) => backup.note ports { message.portoverloadKey with natPort } message
    -- a repeated message is ignored, like any failure
    | (_, .failed) => backup
    | (_, .absent) =>
      -- the port is not searched for, and a key that is there is replaced
      match
        dpCreateNewPortmapEntry outcomes.ports message.createdPortId
          backup.ports message.portmapKey message.portoverloadKey with
      | (ports, false) => { backup with ports }
      | (ports, true) => backup.note ports message.portoverloadKey message

def dpRemoveSyncSnatPort (backup : Backup) (message : NatDelete) : Backup :=
  { backup with
    ports := dpDeleteSnatEntries backup.ports message.portmapKey message.portoverloadKey }

def processPacket (outcomes : SyncOutcomes) (backup : Backup) : SyncMessage → Backup
  | .natCreate message => dpAllocateSyncSnatPort outcomes backup message
  | .natDelete message => dpRemoveSyncSnatPort backup message
  | .requestDump => backup

/-! ## Becoming active -/

def syncKey (key : PortoverloadKey) (allocation : Allocation) (icmp : IcmpMetadata) : FlowKey where
  l3Dst := .v4 key.dstIp
  proto := key.l4Type
  portDst := key.dstPort
  l3Src := allocation.portmapKey.srcIp
  vnfType := .nat
  src :=
    if key.l4Type = ipprotoIcmp ∨ key.l4Type = ipprotoIcmpv6 then icmp.icmpTypeSrc
    else allocation.portmapKey.ifaceSrcPort
  vni := allocation.portmapKey.vni

/-- The answers to ICMPv6 come back as ICMP. -/
def syncReplyKey (org : FlowKey) (natIp : Ipv4) (natPort : UInt16) : FlowKey :=
  let reply := { dpInvertFlowKey org with l3Dst := .v4 natIp, portDst := natPort }
  if org.proto = ipprotoIcmpv6 then
    { reply with proto := ipprotoIcmp, src := nat64AnsweringType reply.src }
  else reply

/-- The key that the packets of a flow are filed under.  It is changed for
NAT64 after it was stored. -/
def syncFiledKey (org : FlowKey) : FlowKey :=
  match org.l3Src, org.l3Dst with
  | .v6 _, .v4 dst => { org with l3Dst := .v6 (dpSetIpv6Nat64 dst) }
  | _, _ => org

def FlowValue.fromSync (key : PortoverloadKey) (allocation : Allocation) (icmp : IcmpMetadata)
    (timestamp : UInt64) : FlowValue :=
  let org := syncKey key allocation icmp
  { FlowValue.fresh org .networkLocal allocation.portId with
    reply := syncReplyKey org key.natIp key.natPort
    nfInfo :=
      { vni := org.vni
        icmpErrIpCksum :=
          if org.proto = ipprotoIcmp ∨ org.proto = ipprotoIcmpv6 then icmp.icmpErrIpCksum
          else 0
        natType := .networkLocal
        underlayDst := Ipv6.zero
        l4Type := org.proto }
    timestamp
    flowFlags :=
      match org.l3Src with
      | .v4 _ => { FlowFlags.none with srcNat := true }
      | .v6 _ => { FlowFlags.none with srcNat64 := true } }

def dpCntrackFromSyncNat (outcomes : InsertOutcomes) (store : FlowStore) (key : PortoverloadKey)
    (allocation : Allocation) (icmp : IcmpMetadata) (timestamp : UInt64) :
    FlowStore × Bool :=
  let org := syncKey key allocation icmp
  match store.table.lookup org with
  | some _ => (store, true)
  | none =>
    if !outcomes.alloc then (store, false)
    else
      let f := store.arena.next
      let value := FlowValue.fromSync key allocation icmp timestamp
      let allocated :=
        { store with
          arena := store.arena.alloc
          value := Function.update store.value f value }
      match dpAddFlow allocated outcomes.addOrg (syncFiledKey org) f with
      | (store, false) => ({ store with arena := store.arena.free f }, false)
      | (store, true) =>
        match dpAddFlow store outcomes.addReply value.reply f with
        | (store, true) => (dpRefInc store f, true)
        | (store, false) =>
          match dpDeleteFlow store (syncFiledKey org) f with
          | (store, true) => (store, false)
          | (store, false) => ({ store with arena := store.arena.free f }, false)

/-- A flow is made of an entry, and the port is counted whether that succeeded
or not. -/
def syncEntry (outcomes : PortoverloadKey → InsertOutcomes) (timestamp : UInt64)
    (icmp : PortoverloadKey → IcmpMetadata) (store : FlowStore)
    (key : PortoverloadKey) (allocation : Allocation) : FlowStore :=
  let store := (dpCntrackFromSyncNat (outcomes key) store key allocation (icmp key) timestamp).1
  { store with ports := store.ports.incUsedPortCnt allocation.portId }

/-- The flows of a backup that has become active.  It has had none so far. -/
def dpCreateSyncSnatFlows (outcomes : PortoverloadKey → InsertOutcomes) (timestamp : UInt64)
    (backup : Backup) : FlowStore :=
  backup.ports.portoverload.entries.foldl
    (fun store entry => syncEntry outcomes timestamp backup.icmp store entry.1 entry.2)
    { FlowStore.empty with ports := backup.ports }

end DpService.Flow

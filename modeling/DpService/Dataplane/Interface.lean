import DpService.Flow.Store

/-!
# Interfaces and their endpoints

The request handlers that create and delete an interface, turn its encryption
on and off, and register underlay addresses for it.  Routes and load balancers
are not kept here: what a handler does to them is part of the network's
configuration.
-/

namespace DpService.Dataplane

open Foundations Packet Flow

/-! ## Registration of underlay addresses -/

/-- `dp_create_vnf_route`.  An address that is not given is generated. -/
def dpCreateVnfRoute (outcomes : VnfOutcomes) (generated : Ipv6) (tables : Tables)
    (ulAddr6 : Ipv6) (vnf : Vnf) : Tables × Ipv6 × Bool :=
  let ulAddr6 := if ulAddr6 = Ipv6.zero then generated else ulAddr6
  match dpAddVnf outcomes tables.vnfs ulAddr6 vnf with
  | (vnfs, added) => ({ tables with vnfs }, ulAddr6, added)

def dpGetPortWithIfaceId (tables : Tables) (ifaceId : IfaceId) : Option Port :=
  (tables.ifaceIds ifaceId).bind tables.ports.entry

/-- The endpoints that an interface can have besides its own address. -/
inductive IfaceVnf where
  | vip
  | nat
  | lbAliasPfx
  | aliasPfx
  deriving DecidableEq, Repr

def IfaceVnf.type : IfaceVnf → VnfType
  | .vip => .vip
  | .nat => .nat
  | .lbAliasPfx => .lbAliasPfx
  | .aliasPfx => .aliasPfx

/-- Who an underlay address is registered for: a load balancer, which lives on
the first PF, or an interface. -/
inductive VnfOwner where
  | lb (vni : Vni)
  | iface (ifaceId : IfaceId) (kind : IfaceVnf)
  deriving DecidableEq, Repr

structure VnfRequest where
  owner : VnfOwner
  ulAddr6 : Ipv6
  aliasPfx : VnfPrefix
  deriving DecidableEq, Repr

def VnfRequest.vnf (tables : Tables) (request : VnfRequest) : Option Vnf :=
  match request.owner with
  | .lb vni => some ⟨.lb, vni, tables.pf0, request.aliasPfx⟩
  | .iface ifaceId kind =>
    (dpGetPortWithIfaceId tables ifaceId).map fun port =>
      ⟨kind.type, port.iface.vni, port.portId, request.aliasPfx⟩

/-- The step that `dp_process_create_lb`, `_vip`, `_nat`, `_lbprefix` and
`_prefix` share. -/
def registerVnf (outcomes : VnfOutcomes) (generated : Ipv6) (tables : Tables)
    (request : VnfRequest) : Tables :=
  match request.vnf tables with
  | none => tables
  | some vnf => (dpCreateVnfRoute outcomes generated tables request.ulAddr6 vnf).1

/-- The step that the handlers for deletion share. -/
def unregisterVnf (tables : Tables) (ulAddr6 : Ipv6) : Tables :=
  { tables with vnfs := (dpDelVnf tables.vnfs ulAddr6).1 }

/-- What `dp_process_create_nat` and `dp_process_delete_nat` note in the
interface. -/
def setIfaceNat (tables : Tables) (port : Port) (natIp : Ipv4) (natPortRange : PortRange) :
    Tables :=
  { tables with
    ports :=
      tables.ports.update
        { port with iface := { port.iface with natIp, natPortRange } } }

inductive MeterResult where
  | set
  | unsupported
  | failed
  deriving DecidableEq, Repr

structure MeterOutcomes where
  total : MeterResult
  publicSet : Bool
  reset : Bool
  deriving DecidableEq, Repr

def setTotalFlowRateCap (port : Port) (totalFlowRateCap : UInt64) : Port :=
  { port with iface := { port.iface with totalFlowRateCap } }

def setPublicFlowRateCap (port : Port) (publicFlowRateCap : UInt64) : Port :=
  { port with iface := { port.iface with publicFlowRateCap } }

/-- The second half of `dp_port_meter_config`.  When the public meter fails and
the total one can be reset, success is reported. -/
def configurePublicMeter (outcomes : MeterOutcomes) (port : Port) (publicFlowRateCap : UInt64) :
    Port × Bool :=
  if outcomes.publicSet then (setPublicFlowRateCap port publicFlowRateCap, true)
  else if outcomes.reset then (setTotalFlowRateCap port 0, true)
  else (port, false)

def dpPortMeterConfig (conf : DpConf) (outcomes : MeterOutcomes) (port : Port)
    (totalFlowRateCap publicFlowRateCap : UInt64) : Port × Bool :=
  if !conf.mellanoxNic then (port, true)
  else if totalFlowRateCap.toNat ≥ 2 ^ 32 ∨ publicFlowRateCap > totalFlowRateCap then (port, false)
  else
    match outcomes.total with
    | .failed => (port, false)
    | .unsupported => configurePublicMeter outcomes port publicFlowRateCap
    | .set =>
      configurePublicMeter outcomes (setTotalFlowRateCap port totalFlowRateCap) publicFlowRateCap

def meterInterface (conf : DpConf) (outcomes : MeterOutcomes) (port : Port)
    (totalFlowRateCap publicFlowRateCap : UInt64) : Port × Bool :=
  if port.isPf then (port, true)
  else dpPortMeterConfig conf outcomes port totalFlowRateCap publicFlowRateCap

/-! ## Creation -/

structure DpgrpcIface where
  ifaceId : IfaceId
  pciName : String
  vni : Vni
  ip4Addr : Ipv4
  ip6Addr : Ipv6
  ulAddr6 : Ipv6
  totalFlowRateCap : UInt64
  publicFlowRateCap : UInt64
  encrypt : Bool
  deriving DecidableEq, Repr

structure CreateOutcomes where
  generated : Ipv6
  vnf : VnfOutcomes
  mapped : Bool
  routeTables : Bool
  route4 : Option GrpcErr
  route6 : Option GrpcErr
  meter : MeterOutcomes
  started : Bool
  pfLinkUp : Bool

/-- Device names are unique. -/
def dpGetPortByName (ports : PortTable) (pciName : String) : Option Port :=
  if pciName = "" then none
  else
    (List.range dpMaxPorts).findSome? fun id =>
      (ports.entry id.toUInt16).filter fun port => port.devName = pciName

/-- The interface that a request asks for, in the state of `dp_setup_iface`
and the assignments behind it. -/
def requestedIface (iface : PortIface) (request : DpgrpcIface) : PortIface :=
  { iface with
    id := request.ifaceId
    vni := request.vni
    ready := true
    ulIpv6 := request.ulAddr6
    ownIp := request.ip4Addr
    ownIpv6 := request.ip6Addr
    encrypt := request.encrypt }

def setupError (outcomes : CreateOutcomes) (request : DpgrpcIface)
    (metered : Bool) : Option GrpcErr :=
  if request.ip4Addr ≠ 0 ∧ outcomes.route4.isSome then outcomes.route4
  else if request.ip6Addr ≠ Ipv6.zero ∧ outcomes.route6.isSome then outcomes.route6
  else if !metered then some .portMeter
  else if !outcomes.started then some .portStart
  else none

def withdrawInterface (tables : Tables) (request : DpgrpcIface) (port : Port) :
    Tables :=
  { tables with
    ports := tables.ports.update port
    ifaceIds := Function.update tables.ifaceIds request.ifaceId none
    vnfs := (dpDelVnf tables.vnfs request.ulAddr6).1 }

def startedPort (outcomes : CreateOutcomes) (port : Port) : Port :=
  { port with
    linkUp := if port.isPf then outcomes.pfLinkUp else true
    allocated := true }

/-- `dp_process_create_interface` from `dp_setup_iface` on, for an interface
that is mapped. -/
def setupInterface (outcomes : CreateOutcomes) (tables : Tables) (request : DpgrpcIface)
    (port : Port) : Tables × Except GrpcErr Unit :=
  if !outcomes.routeTables then
    (withdrawInterface tables request
        { port with iface := { port.iface with id := request.ifaceId } },
      .error .vniInit4)
  else
    match
      meterInterface tables.conf outcomes.meter
        { port with iface := requestedIface port.iface request }
        request.totalFlowRateCap request.publicFlowRateCap with
    | (metered, ok) =>
      match setupError outcomes request ok with
      | some error =>
        -- `dp_delete_iface` clears whatever was set
        (withdrawInterface tables request
            { port with iface := PortIface.zeroed },
          .error error)
      | none =>
        ({ tables with
           ports := tables.ports.update (startedPort outcomes metered) },
          .ok ())

def mapInterface (outcomes : CreateOutcomes) (tables : Tables) (request : DpgrpcIface)
    (port : Port) : Tables × Except GrpcErr Unit :=
  if (tables.ifaceIds request.ifaceId).isSome || !outcomes.mapped then
    (unregisterVnf tables request.ulAddr6, .error .vmHandle)
  else
    setupInterface outcomes
      { tables with ifaceIds := Function.update tables.ifaceIds request.ifaceId (some port.portId) }
      request port

def dpProcessCreateInterface (outcomes : CreateOutcomes) (tables : Tables) (request : DpgrpcIface) :
    Tables × Except GrpcErr Unit :=
  if request.encrypt && !tables.conf.ipsecEnabled then (tables, .error .ipsecDisabled)
  else
    match dpGetPortByName tables.ports request.pciName with
    | none => (tables, .error .notFound)
    | some port =>
      if port.allocated then (tables, .error .alreadyExists)
      else
        match
          dpCreateVnfRoute outcomes.vnf outcomes.generated tables request.ulAddr6
            ⟨.interfaceIp, request.vni, port.portId, ⟨.v4 0, 0⟩⟩ with
        | (tables, _, false) => (tables, .error .vnfInsert)
        | (tables, ulAddr6, true) => mapInterface outcomes tables { request with ulAddr6 } port

structure DeleteOutcomes where
  meter : MeterOutcomes
  stopped : Bool
  storedRules : FlowKey → Nat

/-- Everything is cleaned up even when a step fails. -/
def dpProcessDeleteInterface (outcomes : DeleteOutcomes) (tables : Tables) (flows : FlowStore)
    (ifaceId : IfaceId) : Tables × FlowStore × Except GrpcErr Unit :=
  match dpGetPortWithIfaceId tables ifaceId with
  | none => (tables, flows, .error .notFound)
  | some port =>
    let metered := (meterInterface tables.conf outcomes.meter port 0 0).2
    ({ tables with
       ports :=
         tables.ports.update
           { port with
             allocated := if outcomes.stopped then false else port.allocated
             iface := PortIface.zeroed }
       ifaceIds := Function.update tables.ifaceIds ifaceId none
       vnfs := (dpDelVnf tables.vnfs port.iface.ulIpv6).1 },
      dpRemoveIfaceFlows port.portId port.iface.ownIp port.iface.vni outcomes.storedRules flows,
      if !outcomes.stopped then .error .portStop
      else if !metered then .error .portMeter
      else .ok ())

def setEncryption (tables : Tables) (port : Port) (encrypt : Bool) : Tables :=
  { tables with ports := tables.ports.update (port.setEncrypt encrypt) }

def dpProcessEnableInterfaceEncryption
    (tables : Tables) (ifaceId : IfaceId) : Tables × Except GrpcErr Unit :=
  if !tables.conf.ipsecEnabled then (tables, .error .ipsecDisabled)
  else
    match dpGetPortWithIfaceId tables ifaceId with
    | none => (tables, .error .notFound)
    | some port =>
      if port.iface.encrypt then (tables, .error .alreadyActive)
      else (setEncryption tables port true, .ok ())

def dpProcessDisableInterfaceEncryption
    (tables : Tables) (ifaceId : IfaceId) : Tables × Except GrpcErr Unit :=
  match dpGetPortWithIfaceId tables ifaceId with
  | none => (tables, .error .notFound)
  | some port =>
    if !port.iface.encrypt then (tables, .error .notActive)
    else (setEncryption tables port false, .ok ())

end DpService.Dataplane

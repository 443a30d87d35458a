import DpService.Control.Config
import DpService.Graph.World

/-!
# Interface requests, and all requests

Creation of an interface with its ladder of labels, deletion, and the machine
that handles one request after another.
-/

namespace DpService.Control

open Foundations Packet Flow Firewall
open Dataplane

/-! ## Interfaces -/

/-- How the calls of `dp_process_create_interface` end that depend on more
than the configuration. -/
structure InterfaceOutcomes where
  generated : Ipv6
  vnf : VnfOutcomes
  mapped : Bool
  vniAllocated : Bool
  route4 : Bool
  route6 : Bool
  meter : MeterOutcomes
  started : Bool
  pfLinkUp : Bool

def Config.setPort (config : Config) (port : Port) : Config :=
  { config with tables := { config.tables with ports := config.tables.ports.update port } }

def Config.mapIfaceId (config : Config) (ifaceId : IfaceId) (entry : Option PortId) : Config :=
  { config with
    tables :=
      { config.tables with ifaceIds := Function.update config.tables.ifaceIds ifaceId entry } }

/-- The host routes of an interface are deleted whether it has set them or
not. -/
def dpDeleteIface (config : Config) (port : Port) : Config :=
  let vnis4 := (dpDelRoute config.vnis port port.iface.vni port.iface.ownIp 32).1
  let vnis6 := (dpDelRoute6 vnis4 port port.iface.vni port.iface.ownIpv6 128).1
  let released :=
    { config with vnis := vnis6 }.setVnis
      (dpDeleteVniRouteTables ⟨vnis6, config.network⟩ port.iface.vni).1
  { released with fwall := assign released.fwall port.portId [] }.setPort
    { port with iface := PortIface.zeroed }

def handleErr (config : Config) (request : DpgrpcIface) : Config :=
  (config.mapIfaceId request.ifaceId none).delVnf request.ulAddr6

def ifaceErr (config : Config) (request : DpgrpcIface) (port : Port) :
    Config :=
  handleErr (dpDeleteIface config port) request

def routeErr (config : Config) (request : DpgrpcIface) (port : Port) :
    Config :=
  ifaceErr
    { config with vnis := (dpDelRoute config.vnis port request.vni request.ip4Addr 32).1 }
    request port

def route6Err (config : Config) (request : DpgrpcIface) (port : Port) :
    Config :=
  routeErr
    { config with vnis := (dpDelRoute6 config.vnis port request.vni request.ip6Addr 128).1 }
    request port

def addOwnRoute (inserted : Bool) (vnis : VniTable) (request : DpgrpcIface) (port : Port) :
    VniTable × Option GrpcErr :=
  if request.ip4Addr ≠ 0 then
    dpAddRoute inserted vnis port request.vni 0 request.ip4Addr Ipv6.zero 32
  else (vnis, none)

def addOwnRoute6 (inserted : Bool) (vnis : VniTable) (request : DpgrpcIface) (port : Port) :
    VniTable × Option GrpcErr :=
  if request.ip6Addr ≠ Ipv6.zero then
    dpAddRoute6 inserted vnis port request.vni 0 request.ip6Addr Ipv6.zero 128
  else (vnis, none)

def startPort (outcomes : InterfaceOutcomes) (port : Port) : Port :=
  { port with
    linkUp := if port.isPf then outcomes.pfLinkUp else true
    allocated := true }

/-- `dp_process_create_interface` for an interface that has its routes. -/
def startInterface (outcomes : InterfaceOutcomes) (config : Config) (request : DpgrpcIface)
    (port : Port) : Config × Except GrpcErr Unit :=
  match
    meterInterface config.tables.conf outcomes.meter port
      request.totalFlowRateCap request.publicFlowRateCap with
  | (metered, false) => (route6Err (config.setPort metered) request metered, .error .portMeter)
  | (metered, true) =>
    if outcomes.started then (config.setPort (startPort outcomes metered), .ok ())
    else (route6Err (config.setPort metered) request metered, .error .portStart)

/-- `dp_process_create_interface` for an interface that is set up. -/
def routeInterface (outcomes : InterfaceOutcomes) (config : Config) (request : DpgrpcIface)
    (port : Port) : Config × Except GrpcErr Unit :=
  match addOwnRoute outcomes.route4 config.vnis request port with
  | (vnis, some error) => (ifaceErr { config with vnis } request port, .error error)
  | (vnis, none) =>
    match addOwnRoute6 outcomes.route6 vnis request port with
    | (vnis, some error) => (routeErr { config with vnis } request port, .error error)
    | (vnis, none) => startInterface outcomes { config with vnis } request port

/-- `dp_process_create_interface` for an identifier that is mapped.  The
interface has kept the identifier when the VNI cannot be set up. -/
def setupInterface (outcomes : InterfaceOutcomes) (config : Config) (request : DpgrpcIface)
    (port : Port) : Config × Except GrpcErr Unit :=
  match
    dpCreateVniRouteTables outcomes.vniAllocated config.vnis request.vni with
  | (vnis, false) =>
    (handleErr
        ({ config with vnis }.setPort
          { port with iface := { port.iface with id := request.ifaceId } })
        request,
      .error .vniInit4)
  | (vnis, true) =>
    let port := { port with iface := requestedIface port.iface request }
    routeInterface outcomes
      ({ config with
         vnis, fwall := assign config.fwall port.portId [] }.setPort port)
      request port

/-- `dp_process_create_interface` for an endpoint that is registered. -/
def mapInterface (outcomes : InterfaceOutcomes) (config : Config) (request : DpgrpcIface)
    (port : Port) : Config × Except GrpcErr Unit :=
  if (config.tables.ifaceIds request.ifaceId).isSome || !outcomes.mapped then
    (config.delVnf request.ulAddr6, .error .vmHandle)
  else setupInterface outcomes (config.mapIfaceId request.ifaceId (some port.portId)) request port

def ifaceVnf (request : DpgrpcIface) (port : Port) : Vnf where
  type := .interfaceIp
  vni := request.vni
  portId := port.portId
  aliasPfx := ⟨.v4 0, 0⟩

def dpProcessCreateInterface
    (outcomes : InterfaceOutcomes) (config : Config) (request : DpgrpcIface) :
    Config × Except GrpcErr Unit :=
  if request.encrypt && !config.tables.conf.ipsecEnabled then (config, .error .ipsecDisabled)
  else
    match dpGetPortByName config.tables.ports request.pciName with
    | none => (config, .error .notFound)
    | some port =>
      if port.allocated then (config, .error .alreadyExists)
      else
        match
          dpCreateVnfRoute outcomes.vnf outcomes.generated config.tables
            request.ulAddr6 (ifaceVnf request port) with
        | (tables, _, false) => ({ config with tables }, .error .vnfInsert)
        | (tables, ulAddr6, true) =>
          mapInterface outcomes { config with tables } { request with ulAddr6 } port

/-- Everything is cleaned up even when a step fails. -/
def dpProcessDeleteInterface (outcomes : DeleteOutcomes) (config : Config) (ifaceId : IfaceId) :
    Config × Except GrpcErr Unit :=
  match dpGetPortWithIfaceId config.tables ifaceId with
  | none => (config, .error .notFound)
  | some port =>
    let metered := (meterInterface config.tables.conf outcomes.meter port 0 0).2
    let stopped := { port with allocated := if outcomes.stopped then false else port.allocated }
    let deleted := dpDeleteIface ((config.delVnf port.iface.ulIpv6).mapIfaceId ifaceId none) stopped
    ({ deleted with
       flows :=
         dpRemoveIfaceFlows port.portId port.iface.ownIp port.iface.vni
           outcomes.storedRules deleted.flows },
      if !outcomes.stopped then .error .portStop
      else if !metered then .error .portMeter
      else .ok ())

/-! ## All requests -/

inductive ConfigRequest where
  | createInterface (outcomes : InterfaceOutcomes) (request : DpgrpcIface)
  | deleteInterface (outcomes : DeleteOutcomes) (ifaceId : IfaceId)
  | createVip (outcomes : NatOutcomes) (request : DpgrpcVip)
  | deleteVip (storedRules : FlowKey → Nat) (ifaceId : IfaceId)
  | createNat (outcomes : NatOutcomes) (request : DpgrpcNat)
  | deleteNat (storedRules : FlowKey → Nat) (ifaceId : IfaceId)
  | createNeighnat (outcomes : NeighnatOutcomes) (request : DpgrpcNeighnat)
  | deleteNeighnat (storedRules : FlowKey → Nat) (request : DpgrpcNeighnat)
  | createLb (outcomes : CreateLbOutcomes) (request : DpgrpcLb)
  | deleteLb (lbId : LbId)
  | createPrefix (outcomes : PrefixOutcomes) (request : DpgrpcPrefix)
  | deletePrefix (request : DpgrpcPrefix)
  | createLbPrefix (outcomes : PrefixOutcomes) (request : DpgrpcPrefix)
  | deleteLbPrefix (request : DpgrpcPrefix)
  | createRoute (inserted : Bool) (request : DpgrpcRoute)
  | deleteRoute (request : DpgrpcRoute)
  | createFwrule (allocated : Bool) (ifaceId : IfaceId) (rule : DpFwallRule)
  | deleteFwrule (ifaceId : IfaceId) (ruleId : List UInt8)
  | initializeCall (outcome : ResetOutcome) (fill : FillOutcomes)

def errorOf {Reply : Type} : Except GrpcErr Reply → Option GrpcErr
  | .ok _ => none
  | .error error => some error

def answered {Reply : Type} (result : Config × Except GrpcErr Reply) : Config × Option GrpcErr :=
  (result.1, errorOf result.2)

def Config.handle (config : Config) : ConfigRequest → Config × Option GrpcErr
  | .createInterface outcomes request => answered (dpProcessCreateInterface outcomes config request)
  | .deleteInterface outcomes ifaceId => answered (dpProcessDeleteInterface outcomes config ifaceId)
  | .createVip outcomes request => answered (dpProcessCreateVip outcomes config request)
  | .deleteVip storedRules ifaceId => answered (dpProcessDeleteVip storedRules config ifaceId)
  | .createNat outcomes request => answered (dpProcessCreateNat outcomes config request)
  | .deleteNat storedRules ifaceId => answered (dpProcessDeleteNat storedRules config ifaceId)
  | .createNeighnat outcomes request => answered (dpProcessCreateNeighnat outcomes config request)
  | .deleteNeighnat storedRules request =>
    answered (dpProcessDeleteNeighnat storedRules config request)
  | .createLb outcomes request => answered (dpProcessCreateLb outcomes config request)
  | .deleteLb lbId => answered (dpProcessDeleteLb config lbId)
  | .createPrefix outcomes request => answered (dpProcessCreatePrefix outcomes config request)
  | .deletePrefix request => answered (dpProcessDeletePrefix config request)
  | .createLbPrefix outcomes request => answered (dpProcessCreateLbPrefix outcomes config request)
  | .deleteLbPrefix request => answered (dpProcessDeleteLbPrefix config request)
  | .createRoute inserted request => answered (dpProcessCreateRoute inserted config request)
  | .deleteRoute request => answered (dpProcessDeleteRoute config request)
  | .createFwrule allocated ifaceId rule =>
    answered (dpProcessCreateFwrule allocated config ifaceId rule)
  | .deleteFwrule ifaceId ruleId => answered (dpProcessDeleteFwrule config ifaceId ruleId)
  | .initializeCall outcome fill => answered (dpProcessInitialize outcome fill config)

def Config.initial (start : Graph.StartUp) : Config where
  tables := start.world.tables
  network := Network.empty
  vnis := fun _ => none
  lbs := LbTables.empty
  fwall := fun _ => []
  flows := FlowStore.empty

def configMachine (start : Graph.StartUp) : Machine Config ConfigRequest where
  init := Config.initial start
  step := fun config request => (config.handle request).1

end DpService.Control

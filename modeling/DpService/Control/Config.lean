import DpService.Control.Routing
import DpService.Firewall.Rules
import DpService.Foundations.Holders
import DpService.Lb.Maglev

/-!
# The configuration

Everything that the request handlers keep: ports, endpoints and NAT as the
packet graph sees them, and behind these the VNIs with their routes, the load
balancers and the firewall rules.  The handlers follow their source step by
step, with the undo ladders for steps that fail.
-/

namespace DpService.Control

open Foundations Packet Flow Firewall Lb
open Dataplane

/-! ## Load balancers -/

abbrev LbId := String

@[ext]
structure LbKey where
  vni : Vni
  ip : IpAddress
  deriving Repr

instance : DecidableEq LbKey :=
  fun _ _ => decidable_of_iff _ LbKey.ext_iff.symm

structure LbPort where
  port : UInt16
  protocol : UInt8
  deriving DecidableEq, Repr

/-- Behind `ports` the array is zero. -/
structure LbValue where
  lbId : LbId
  ports : List LbPort
  backends : LbBackends
  lbUlAddr : Ipv6

/-- An entry of `lb_table`.  When the identifier cannot be mapped, the value
is freed and the entry stays. -/
inductive LbEntry where
  | value (value : LbValue)
  | freed

structure LbTables where
  lbTable : FiniteTable LbKey LbEntry
  idMap : LbId → Option LbKey

def LbTables.empty : LbTables where
  lbTable := ∅
  idMap := fun _ => none

structure DpgrpcLb where
  lbId : LbId
  vni : Vni
  addr : IpAddress
  lbports : List LbPort
  ulAddr6 : Ipv6
  deriving DecidableEq, Repr

/-- `htons` and `ntohs`: ports stand in network byte order in the tables. -/
def LbPort.swap (entry : LbPort) : LbPort :=
  { entry with port := swapBytes entry.port }

def newLb (request : DpgrpcLb) (ulIp : Ipv6) : LbValue where
  lbId := request.lbId
  ports := request.lbports.map LbPort.swap
  backends := .zeroed
  lbUlAddr := ulIp

def DpgrpcLb.key (request : DpgrpcLb) : LbKey where
  vni := request.vni
  ip := request.addr

/-- Which steps of `dp_create_lb` succeed: the insertion of the value and the
mapping of the identifier. -/
structure LbOutcomes where
  inserted : Bool
  mapped : Bool
  deriving DecidableEq, Repr

def dpCreateLb (outcomes : LbOutcomes) (lbs : LbTables) (request : DpgrpcLb)
    (ulIp : Ipv6) : LbTables × Option GrpcErr :=
  if (lbs.lbTable.lookup request.key).isSome then (lbs, some .alreadyExists)
  else if !outcomes.inserted then (lbs, some .outOfMemory)
  else if !outcomes.mapped then
    ({ lbs with lbTable := lbs.lbTable.insert request.key .freed }, some .outOfMemory)
  else
    -- an identifier that is in use is mapped anew
    ({ lbTable :=
         lbs.lbTable.insert request.key (.value (newLb request ulIp))
       idMap := assign lbs.idMap request.lbId (some request.key) },
      none)

def dpGetLb (lbs : LbTables) (lbId : LbId) : Except GrpcErr (LbKey × LbValue) :=
  match lbs.idMap lbId with
  | none => .error .notFound
  | some key =>
    match lbs.lbTable.lookup key with
    | some (.value value) => .ok (key, value)
    | _ => .error .noBackip

def dpDeleteLb (lbs : LbTables) (lbId : LbId) : LbTables × Option GrpcErr :=
  match lbs.idMap lbId with
  | none => (lbs, some .notFound)
  | some key =>
    ({ lbTable := lbs.lbTable.erase key
       idMap := assign lbs.idMap lbId none },
      none)

structure Config where
  tables : Tables
  network : Network
  vnis : VniTable
  lbs : LbTables
  fwall : PortId → List DpFwallRule
  flows : FlowStore

namespace Config

variable (config : Config)

def natConfig : NatConfig where
  tables := config.tables
  network := config.network

def setNat (nat : NatConfig) : Config :=
  { config with tables := nat.tables, network := nat.network }

def vniState : VniState where
  vnis := config.vnis
  network := config.network

def setVnis (state : VniState) : Config :=
  { config with vnis := state.vnis, network := state.network }

def delVnf (ulAddr6 : Ipv6) : Config :=
  { config with tables := unregisterVnf config.tables ulAddr6 }

end Config

/-! ## Load balancer requests -/

/-- The endpoint of a load balancer, whose address is left out. -/
def lbVnf (tables : Tables) (request : DpgrpcLb) : Vnf where
  type := .lb
  vni := request.vni
  portId := tables.pf0
  aliasPfx :=
    ⟨match request.addr with
      | .v4 _ => .v4 0
      | .v6 _ => .v6 Ipv6.zero, 0⟩

structure CreateLbOutcomes where
  generated : Ipv6
  vnf : VnfOutcomes
  lb : LbOutcomes
  vniAllocated : Bool

def dpProcessCreateLb (outcomes : CreateLbOutcomes) (config : Config) (request : DpgrpcLb) :
    Config × Except GrpcErr Ipv6 :=
  match
    dpCreateVnfRoute outcomes.vnf outcomes.generated config.tables
      request.ulAddr6 (lbVnf config.tables request) with
  | (tables, _, false) => ({ config with tables }, .error .vnfInsert)
  | (tables, ulAddr6, true) =>
    match dpCreateLb outcomes.lb config.lbs request ulAddr6 with
    | (lbs, some error) => ({ config with tables, lbs }.delVnf ulAddr6, .error error)
    | (lbs, none) =>
      match
        dpCreateVniRouteTables outcomes.vniAllocated config.vnis request.vni with
      | (vnis, true) => ({ config with tables, lbs, vnis }, .ok ulAddr6)
      | (vnis, false) =>
        ({ config with
           tables, lbs := (dpDeleteLb lbs request.lbId).1, vnis }.delVnf ulAddr6,
          .error .vniInit4)

def dpProcessDeleteLb (config : Config) (lbId : LbId) : Config × Except GrpcErr Unit :=
  match dpGetLb config.lbs lbId with
  | .error error => (config, .error error)
  | .ok (key, value) =>
    let withdrawn := config.delVnf value.lbUlAddr
    match dpDeleteLb withdrawn.lbs lbId with
    | (lbs, some error) => ({ withdrawn with lbs }, .error error)
    | (lbs, none) =>
      match dpDeleteVniRouteTables withdrawn.vniState key.vni with
      | (state, released) =>
        ({ withdrawn with lbs }.setVnis state,
          if released then .ok () else .error .vniFree4)

/-! ## Prefix requests -/

structure DpgrpcPrefix where
  ifaceId : IfaceId
  addr : IpAddress
  length : UInt8
  ulAddr6 : Ipv6
  deriving DecidableEq, Repr

def prefixVnf (type : VnfType) (port : Port) (request : DpgrpcPrefix) : Vnf where
  type := type
  vni := port.iface.vni
  portId := port.portId
  aliasPfx := ⟨request.addr, request.length⟩

structure PrefixOutcomes where
  generated : Ipv6
  vnf : VnfOutcomes
  routeInserted : Bool

def dpProcessCreateLbPrefix (outcomes : PrefixOutcomes) (config : Config) (request : DpgrpcPrefix) :
    Config × Except GrpcErr Ipv6 :=
  match dpGetPortWithIfaceId config.tables request.ifaceId with
  | none => (config, .error .noVm)
  | some port =>
    if dpVnfLbprefixExists config.tables.vnfs port.portId port.iface.vni
        request.addr request.length then
      (config, .error .alreadyExists)
    else
      match
        dpCreateVnfRoute outcomes.vnf outcomes.generated config.tables
          request.ulAddr6 (prefixVnf .lbAliasPfx port request) with
      | (tables, _, false) => ({ config with tables }, .error .vnfInsert)
      | (tables, ulAddr6, true) => ({ config with tables }, .ok ulAddr6)

/-- An endpoint that is found but has lost its address is not found either. -/
def dpDelVnfByValue (vnfs : VnfTables) (vnf : Vnf) : VnfTables × Option GrpcErr :=
  match vnfs.value vnf with
  | none => (vnfs, some .notFound)
  | some ulAddr6 =>
    match dpDelVnf vnfs ulAddr6 with
    | (deleted, true) => (deleted, none)
    | (deleted, false) =>
      (deleted,
        some
          (if (vnfs.handle ulAddr6).isNone then .notFound
            else .vnfDelete))

def dpProcessDeleteLbPrefix (config : Config) (request : DpgrpcPrefix) :
    Config × Except GrpcErr Unit :=
  match dpGetPortWithIfaceId config.tables request.ifaceId with
  | none => (config, .error .noVm)
  | some port =>
    match
      dpDelVnfByValue config.tables.vnfs (prefixVnf .lbAliasPfx port request) with
    | (vnfs, none) => ({ config with tables := { config.tables with vnfs } }, .ok ())
    | (vnfs, some error) => ({ config with tables := { config.tables with vnfs } }, .error error)

def dpProcessCreatePrefix (outcomes : PrefixOutcomes) (config : Config) (request : DpgrpcPrefix) :
    Config × Except GrpcErr Ipv6 :=
  match dpGetPortWithIfaceId config.tables request.ifaceId with
  | none => (config, .error .noVm)
  | some port =>
    match
      dpGrpcAddRoute outcomes.routeInserted config.vnis port port.iface.vni
        0 request.addr Ipv6.zero request.length with
    | (vnis, some error) => ({ config with vnis }, .error error)
    | (vnis, none) =>
      match
        dpCreateVnfRoute outcomes.vnf outcomes.generated config.tables
          request.ulAddr6 (prefixVnf .aliasPfx port request) with
      | (tables, _, false) =>
        ({ config with
           tables
           vnis := (dpGrpcDelRoute vnis port port.iface.vni request.addr request.length).1 },
          .error .vnfInsert)
      | (tables, ulAddr6, true) => ({ config with tables, vnis }, .ok ulAddr6)

/-- The endpoint is deleted even if there is no route. -/
def dpProcessDeletePrefix (config : Config) (request : DpgrpcPrefix) :
    Config × Except GrpcErr Unit :=
  match dpGetPortWithIfaceId config.tables request.ifaceId with
  | none => (config, .error .noVm)
  | some port =>
    match
      dpGrpcDelRoute config.vnis port port.iface.vni request.addr request.length,
      dpDelVnfByValue config.tables.vnfs (prefixVnf .aliasPfx port request) with
    | (vnis, routeError), (vnfs, vnfError) =>
      ({ config with tables := { config.tables with vnfs }, vnis },
        match routeError.or vnfError with
        | some error => .error error
        | none => .ok ())

def dpProcessCreateVip (outcomes : NatOutcomes) (config : Config) (request : DpgrpcVip) :
    Config × Except GrpcErr Ipv6 :=
  match Dataplane.dpProcessCreateVip outcomes config.natConfig request with
  | (nat, result) => (config.setNat nat, result)

def dpProcessCreateNat (outcomes : NatOutcomes) (config : Config) (request : DpgrpcNat) :
    Config × Except GrpcErr Ipv6 :=
  match Dataplane.dpProcessCreateNat outcomes config.natConfig request with
  | (nat, result) => (config.setNat nat, result)

def dpProcessDeleteVip (storedRules : FlowKey → Nat) (config : Config) (ifaceId : IfaceId) :
    Config × Except GrpcErr Ipv4 :=
  match
    Dataplane.dpProcessDeleteVip config.natConfig config.flows storedRules ifaceId with
  | (nat, flows, result) => ({ config.setNat nat with flows }, result)

def dpProcessDeleteNat (storedRules : FlowKey → Nat) (config : Config) (ifaceId : IfaceId) :
    Config × Except GrpcErr Ipv4 :=
  match
    Dataplane.dpProcessDeleteNat config.natConfig config.flows storedRules ifaceId with
  | (nat, flows, result) => ({ config.setNat nat with flows }, result)

/-! ## Neighbour NAT requests -/

structure DpgrpcNeighnat where
  addr : IpAddress
  vni : Vni
  range : PortRange
  neighAddr6 : Ipv6
  deriving DecidableEq, Repr

def dpIsSameNetworkNatEntry
    (entry : NatEntry) (natIp : Ipv4) (vni : Vni) (range : PortRange) : Bool :=
  entry.vni == vni && entry.natIp == natIp && entry.portRange == (range.minPort, range.maxPort)

/-- The VNI is not compared. -/
def dpIsNetworkNatEntryPortOverlap (entry : NatEntry) (natIp : Ipv4) (range : PortRange) : Bool :=
  entry.natIp == natIp && decide (range.maxPort > entry.portRange.1) &&
    decide (range.minPort < entry.portRange.2)

def dpAddNeighnatEntry (allocated : Bool) (network : Network) (natIp : Ipv4) (vni : Vni)
    (range : PortRange) (ulIpv6 : Ipv6) : Network × Option GrpcErr :=
  if network.neighnat.any fun entry => dpIsNetworkNatEntryPortOverlap entry natIp range then
    (network, some .alreadyExists)
  else if allocated then
    ({ network with
       neighnat := network.neighnat ++ [⟨natIp, (range.minPort, range.maxPort), vni, ulIpv6⟩] },
      none)
  else (network, some .outOfMemory)

def dpDelNeighnatEntry (network : Network) (natIp : Ipv4) (vni : Vni) (range : PortRange) :
    Network × Option GrpcErr :=
  if network.neighnat.any fun entry => dpIsSameNetworkNatEntry entry natIp vni range then
    ({ network with
       neighnat :=
         network.neighnat.eraseP fun entry => dpIsSameNetworkNatEntry entry natIp vni range },
      none)
  else (network, some .notFound)

structure NeighnatOutcomes where
  allocated : Bool
  dnatCreated : Bool
  deriving DecidableEq, Repr

def dpProcessCreateNeighnat (outcomes : NeighnatOutcomes) (config : Config)
    (request : DpgrpcNeighnat) : Config × Except GrpcErr Unit :=
  match request.addr with
  | .v6 _ => (config, .error .badIpver)
  | .v4 natIp =>
    match
      dpAddNeighnatEntry outcomes.allocated config.network natIp request.vni
        request.range request.neighAddr6 with
    | (network, some error) => ({ config with network }, .error error)
    | (network, none) =>
      match
        dpSetDnatIp outcomes.dnatCreated network natIp 0 request.vni with
      | (network, some .dnatCreate) =>
        ({ config with
           network := (dpDelNeighnatEntry network natIp request.vni request.range).1 },
          .error .dnatCreate)
      | (network, _) => ({ config with network }, .ok ())

def dpProcessDeleteNeighnat (storedRules : FlowKey → Nat) (config : Config)
    (request : DpgrpcNeighnat) : Config × Except GrpcErr Unit :=
  match request.addr with
  | .v6 _ => (config, .error .badIpver)
  | .v4 natIp =>
    match
      dpDelNeighnatEntry config.network natIp request.vni request.range with
    | (network, some error) => ({ config with network }, .error error)
    | (network, none) =>
      ({ config with
         network := dpDelVipFromDnat network natIp request.vni
         flows :=
           dpRemoveNeighnatFlows natIp request.vni request.range.minPort
             request.range.maxPort storedRules config.flows },
        .ok ())

structure DpgrpcRoute where
  vni : Vni
  pfxAddr : IpAddress
  pfxLength : UInt8
  trgtVni : Vni
  trgtAddr : IpAddress
  deriving DecidableEq, Repr

def dpGetPf0 (tables : Tables) : Port :=
  (tables.ports.entry tables.pf0).getD Port.absent

def errorOr (error : Option GrpcErr) : Except GrpcErr Unit :=
  match error with
  | some error => .error error
  | none => .ok ()

def dpProcessCreateRoute (inserted : Bool) (config : Config) (request : DpgrpcRoute) :
    Config × Except GrpcErr Unit :=
  match request.trgtAddr with
  | .v4 _ => (config, .error .badIpver)
  | .v6 target =>
    match
      dpGrpcAddRoute inserted config.vnis (dpGetPf0 config.tables)
        request.vni request.trgtVni request.pfxAddr target
        request.pfxLength with
    | (vnis, error) => ({ config with vnis }, errorOr error)

def dpProcessDeleteRoute (config : Config) (request : DpgrpcRoute) : Config × Except GrpcErr Unit :=
  match
    dpGrpcDelRoute config.vnis (dpGetPf0 config.tables) request.vni
      request.pfxAddr request.pfxLength with
  | (vnis, error) => ({ config with vnis }, errorOr error)

def dpProcessInitialize (outcome : ResetOutcome) (fill : FillOutcomes) (config : Config) :
    Config × Except GrpcErr Unit :=
  match
    dpLpmResetAllRouteTables outcome fill config.vnis config.tables.ports with
  | (vnis, error) =>
    ({ config with
       vnis
       network := dpDelAllNeighNatEntriesInVni config.network dpNetworkNatAllVni },
      errorOr error)

def dpProcessCreateFwrule (allocated : Bool) (config : Config) (ifaceId : IfaceId)
    (rule : DpFwallRule) : Config × Except GrpcErr Unit :=
  match dpGetPortWithIfaceId config.tables ifaceId with
  | none => (config, .error .noVm)
  | some port =>
    if (config.fwall port.portId).any fun other => other.ruleId = rule.ruleId then
      (config, .error .alreadyExists)
    else if rule.action = .drop then (config, .error .noDropSupport)
    else if allocated then
      ({ config with
         fwall := assign config.fwall port.portId (config.fwall port.portId ++ [rule]) },
        .ok ())
    else (config, .error .outOfMemory)

def dpProcessDeleteFwrule (config : Config) (ifaceId : IfaceId) (ruleId : List UInt8) :
    Config × Except GrpcErr Unit :=
  match dpGetPortWithIfaceId config.tables ifaceId with
  | none => (config, .error .noVm)
  | some port =>
    if (config.fwall port.portId).any fun other => other.ruleId = ruleId then
      ({ config with
         fwall :=
           assign config.fwall port.portId
             ((config.fwall port.portId).eraseP fun other => other.ruleId = ruleId) },
        .ok ())
    else (config, .error .notFound)

end DpService.Control

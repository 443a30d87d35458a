import DpService.Grpc.Hex
import DpService.Ipsec.Contract

/-!
# Security association calls

The conversions between the protobuf messages of the Security Association
calls and the request structures of the worker, and the calls as a client
sees them.  `inet_pton` and `inet_ntop` are parameters.
-/

namespace DpService.Grpc

open Foundations Ipsec

/-- A proto3 enumeration is open: a client can send any number. -/
inductive TrafficDirection where
  | ingress
  | egress
  | unrecognized (number : Int)
  deriving DecidableEq

inductive IpsecAlgorithm where
  | aes128Gcm
  | aes256Gcm
  | unrecognized (number : Int)
  deriving DecidableEq

structure SecurityAssociationId where
  vni : UInt32
  spi : UInt32
  direction : TrafficDirection
  srcUnderlay : StdString
  dstUnderlay : StdString
  deriving DecidableEq

structure SecurityAssociationMessage where
  id : SecurityAssociationId
  algorithm : IpsecAlgorithm
  key : StdString
  salt : StdString
  replayWindow : UInt32
  esn : Bool
  deriving DecidableEq

abbrev CreateSecurityAssociationRequest := SecurityAssociationMessage

abbrev GetSecurityAssociationResponse := SecurityAssociationMessage

structure UpdateSecurityAssociationRequest where
  sa : SecurityAssociationMessage
  newSpi : UInt32
  deriving DecidableEq

/-! ## Conversions -/

/-- `inet_pton(AF_INET6)` on a C string and `inet_ntop(AF_INET6)`. -/
structure Inet6 where
  pton : StdString → Option Ipv6
  ntop : Ipv6 → StdString

/-- The C string of a `std::string` ends at its first NUL byte. -/
def cStr (str : StdString) : StdString :=
  str.takeWhile (· ≠ 0)

def strToIpv6 (inet : Inet6) (str : StdString) : Option Ipv6 :=
  inet.pton (cStr str)

def grpcToDpIpsecDir : TrafficDirection → Option IpsecDir
  | .ingress => some .ingress
  | .egress => some .egress
  | .unrecognized _ => none

def ipsecDirToGrpc (dir : IpsecDir) : TrafficDirection :=
  if dir = .egress then .egress else .ingress

def grpcToDpIpsecAlgo : IpsecAlgorithm → Option IpsecAlgo
  | .aes128Gcm => some .aes128Gcm
  | .aes256Gcm => some .aes256Gcm
  | .unrecognized _ => none

def ipsecAlgoToGrpc : IpsecAlgo → IpsecAlgorithm
  | .aes256Gcm => .aes256Gcm
  | _ => .aes128Gcm

def writeFront {size : Nat} (bytes : List UInt8) (array : Vector UInt8 size) : Vector UInt8 size :=
  Vector.ofFn fun index => bytes.getD index.val (array.get index)

def fillSecurityAssociationId (inet : Inet6) (id : SecurityAssociationId) :
    Except String DpgrpcIpsecSaId :=
  match grpcToDpIpsecDir id.direction with
  | none => .error "Invalid id.direction"
  | some dir =>
    match strToIpv6 inet id.srcUnderlay with
    | none => .error "Invalid id.src_underlay"
    | some src =>
      match strToIpv6 inet id.dstUnderlay with
      | none => .error "Invalid id.dst_underlay"
      | some dst => .ok { spi := id.spi, vni := id.vni, dir, src, dst }

/-- The request structure is zero-initialised, so the part of the arrays
behind a shorter key is zero. -/
def fillSecurityAssociationParams (id : DpgrpcIpsecSaId) (algorithm : IpsecAlgorithm)
    (key salt : StdString) (replayWindow : UInt32) (esn : Bool) :
    Except String DpgrpcIpsecSa :=
  match grpcToDpIpsecAlgo algorithm with
  | none => .error "Invalid algorithm"
  | some algo =>
    match dpIpsecGetKeyLen algo, dpIpsecGetSaltLen algo with
    | some keyLen, some saltLen =>
      match hexToBytes key keyLen with
      | none => .error "Invalid key"
      | some keyBytes =>
        match hexToBytes salt saltLen with
        | none => .error "Invalid salt"
        | some saltBytes =>
          .ok
            { id
              algo
              key := writeFront keyBytes (Vector.replicate _ 0)
              salt := writeFront saltBytes (Vector.replicate _ 0)
              replayWindow
              esn }
    | _, _ => .error "Invalid algorithm"

def fillSecurityAssociation (inet : Inet6) (request : SecurityAssociationMessage) :
    Except String DpgrpcIpsecSa :=
  match fillSecurityAssociationId inet request.id with
  | .error error => .error error
  | .ok id =>
    fillSecurityAssociationParams id request.algorithm request.key
      request.salt request.replayWindow request.esn

def fillSecurityAssociationUpdate (inet : Inet6) (request : UpdateSecurityAssociationRequest) :
    Except String DpgrpcIpsecSaUpdate :=
  match fillSecurityAssociation inet request.sa with
  | .error error => .error error
  | .ok sa => .ok { sa, newSpi := request.newSpi }

def parseSecurityAssociation
    (inet : Inet6) (sa : DpgrpcIpsecSa) : GetSecurityAssociationResponse where
  id :=
    { vni := sa.id.vni
      spi := sa.id.spi
      direction := ipsecDirToGrpc sa.id.dir
      srcUnderlay := inet.ntop sa.id.src
      dstUnderlay := inet.ntop sa.id.dst }
  algorithm := ipsecAlgoToGrpc sa.algo
  key := bytesToHex (sa.key.toList.take ((dpIpsecGetKeyLen sa.algo).getD 0))
  salt := bytesToHex (sa.salt.toList.take ((dpIpsecGetSaltLen sa.algo).getD 0))
  replayWindow := sa.replayWindow
  esn := sa.esn

/-! ## Calls -/

/-- How a call ends: refused while its request is filled in, or answered by
the worker. -/
inductive CallStatus (Reply : Type) where
  | invalidArgument (message : String)
  | answered (reply : Except GrpcErr Reply)
  deriving DecidableEq

inductive SaCall where
  | create (request : CreateSecurityAssociationRequest)
  | update (request : UpdateSecurityAssociationRequest)
  | delete (id : SecurityAssociationId)

def SaCall.fillRequest (inet : Inet6) : SaCall → Except String SaRequest
  | .create request => (fillSecurityAssociation inet request).map .create
  | .update request => (fillSecurityAssociationUpdate inet request).map .update
  | .delete id => (fillSecurityAssociationId inet id).map .delete

def SaCall.serve (inet : Inet6) (conf : DpConf) (outcomes : Outcomes) (db : IpsecDb)
    (call : SaCall) : IpsecDb × CallStatus Unit :=
  match call.fillRequest inet with
  | .error message => (db, .invalidArgument message)
  | .ok request =>
    ((processSaRequest conf outcomes db request).1,
      .answered (processSaRequest conf outcomes db request).2)

def getSecurityAssociationCall (inet : Inet6) (db : IpsecDb) (id : SecurityAssociationId) :
    CallStatus GetSecurityAssociationResponse :=
  match fillSecurityAssociationId inet id with
  | .error message => .invalidArgument message
  | .ok request =>
    .answered ((dpProcessGetSecurityAssociation db request).map (parseSecurityAssociation inet))

def saCallMachine (inet : Inet6) (conf : DpConf) : Machine IpsecDb (SaCall × Outcomes) where
  init := dpIpsecInit conf
  step := fun db event => (event.1.serve inet conf event.2 db).1

theorem saCallMachine_step_invariant {inet : Inet6} {conf : DpConf} {db : IpsecDb}
    {event : SaCall × Outcomes} (invariant : DbInvariant conf db) :
    DbInvariant conf ((saCallMachine inet conf).step db event) := by
  simp only [saCallMachine, SaCall.serve]
  split
  · exact invariant
  · exact processSaRequest_invariant invariant _ _

theorem saCallMachine_invariant (inet : Inet6) (conf : DpConf) (events : List (SaCall × Outcomes)) :
    DbInvariant conf ((saCallMachine inet conf).run events) :=
  Machine.run_invariant (dbInvariant_init conf)
    (fun _ _ invariant => saCallMachine_step_invariant invariant) events

end DpService.Grpc

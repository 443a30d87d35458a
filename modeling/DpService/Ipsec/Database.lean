import DpService.Foundations.Machine
import DpService.Foundations.Table
import DpService.Ipsec.Association

/-!
# The Security Association Database

The database of `dp_ipsec.c` is held twice: the SAD maps keys to associations
and the owner array `dp_ipsec_sas` holds a reference to each of them.  The
associations, their crypto sessions and their librte_ipsec states live in a
heap whose ledgers count every release.

Each third-party call that can fail does so as the `Outcomes` of the request
say.  A failing `rte_ipsec_sad_add` or `rte_ipsec_sad_del` leaves the SAD as
it is.
-/

namespace DpService.Ipsec

open Foundations

/-! ## The heap -/

/-- Everything the database allocates.  `sa` keeps the last contents of an
association also after it was released. -/
structure SaHeap where
  sas : Arena
  sa : Handle → IpsecSa
  sessions : Arena
  sessionsInUse : Nat
  ipsecSas : Arena

def SaHeap.empty : SaHeap where
  sas := Arena.empty
  sa := fun _ => IpsecSa.zeroed
  sessions := Arena.empty
  sessionsInUse := 0
  ipsecSas := Arena.empty

structure Outcomes where
  zmallocSa : Bool
  sessionCreate : Bool
  ipsecSaSize : Bool
  zmallocIpsecSa : Bool
  ipsecSaInit : Bool
  sessionPrepare : Bool
  sadAdd : Bool
  sadDel : Bool
  deriving DecidableEq

def Outcomes.success : Outcomes :=
  ⟨true, true, true, true, true, true, true, true⟩

def SaHeap.write (heap : SaHeap) (handle : Handle) (sa : IpsecSa) : SaHeap :=
  { heap with sa := Function.update heap.sa handle sa }

def SaHeap.allocSa (heap : SaHeap) (sa : IpsecSa) : SaHeap :=
  { heap.write heap.sas.next sa with sas := heap.sas.alloc }

def SaHeap.attachSession (heap : SaHeap) (handle : Handle) : SaHeap :=
  { heap.write handle
      { heap.sa handle with session := some heap.sessions.next } with
    sessions := heap.sessions.alloc
    sessionsInUse := heap.sessionsInUse + 1 }

/-- `rte_zmalloc` of the librte_ipsec state of the association `handle`. -/
def SaHeap.attachIpsecSa (heap : SaHeap) (handle : Handle) : SaHeap :=
  { heap.write handle
      { heap.sa handle with ipsecSa := some heap.ipsecSas.next } with
    ipsecSas := heap.ipsecSas.alloc }

def dpIpsecFreeSa (heap : SaHeap) (handle : Handle) : SaHeap :=
  let sa := heap.sa handle
  { heap with
    ipsecSas := heap.ipsecSas.freeOption sa.ipsecSa
    sessions := heap.sessions.freeOption sa.session
    sessionsInUse :=
      match sa.session with
      | some _ => heap.sessionsInUse - 1
      | none => heap.sessionsInUse
    sas := heap.sas.free handle }

/-- The flag tells whether the function got all the way through. -/
def dpIpsecCreateIpsecSa (outcomes : Outcomes) (heap : SaHeap) (handle : Handle) : SaHeap × Bool :=
  if !outcomes.ipsecSaSize || !outcomes.zmallocIpsecSa then (heap, false)
  else (heap.attachIpsecSa handle, outcomes.ipsecSaInit && outcomes.sessionPrepare)

def sessionAvailable (outcomes : Outcomes) (heap : SaHeap) : Bool :=
  outcomes.sessionCreate && heap.sessionsInUse < dpIpsecNbSessions

/-- What `dp_ipsec_build_sa` fills a new association with before it asks for
a session. -/
def initialSa (request : IpsecSa) : IpsecSa :=
  { request with
    saltLen := (dpIpsecGetSaltLen request.algo).getD 0
    ipsecSa := none
    session := none }

def dpIpsecBuildSa (outcomes : Outcomes) (heap : SaHeap) (request : IpsecSa)
    (lookupSpi : UInt32) : SaHeap × Except GrpcErr Handle :=
  if !outcomes.zmallocSa then (heap, .error .outOfMemory)
  else
    let handle := heap.sas.next
    let allocated := heap.allocSa (initialSa request)
    if !sessionAvailable outcomes allocated then (dpIpsecFreeSa allocated handle, .error .saCreate)
    else
      match
        dpIpsecCreateIpsecSa outcomes (allocated.attachSession handle) handle
      with
      | (built, false) => (dpIpsecFreeSa built handle, .error .saCreate)
      | (built, true) =>
        let sa := built.sa handle
        let key := dpIpsecBuildKey lookupSpi sa.src sa.dst
        (built.write handle { sa with src := key.sip, dst := key.dip }, .ok handle)

/-! ## The database and its operations -/

abbrev Sad := SadKey → Option Handle

/-- The globals of `dp_ipsec.c`.  `sad` is `none` when IPsec is disabled. -/
structure IpsecDb where
  sad : Option Sad
  sas : SlotTable dpIpsecMaxSa Handle
  heap : SaHeap

def dpIpsecInit (conf : DpConf) : IpsecDb where
  sad := if conf.ipsecEnabled then some fun _ => none else none
  sas := fun _ => none
  heap := SaHeap.empty

def dpIpsecLookupOne (sad : Sad) (spec : IpsecSaSpec) : Option Handle :=
  sad spec.sadKey

def dpIpsecFindSa (sad : Sad) (heap : SaHeap) (spec : IpsecSaSpec) : Option Handle :=
  match dpIpsecLookupOne sad spec with
  | none => none
  | some handle =>
    let sa := heap.sa handle
    if sa.dir ≠ spec.dir ∨ sa.vni ≠ spec.vni ∨ sa.spi ≠ spec.spi then none
    else some handle

def dpIpsecCreateSa (conf : DpConf) (outcomes : Outcomes) (db : IpsecDb) (request : IpsecSa) :
    IpsecDb × Except GrpcErr Unit :=
  match db.sad with
  | none => (db, .error .ipsecDisabled)
  | some sad =>
    if request.algo = .max then (db, .error .saAlgo)
    else if !dpIpsecIsLocalSideValid conf request then (db, .error .saBadAddr)
    else if !dpIpsecIsReplayWindowValid request then (db, .error .saReplayWindow)
    else if (dpIpsecLookupOne sad request.spec).isSome then (db, .error .saExists)
    else
      match db.sas.firstFree with
      | none => (db, .error .limitReached)
      | some slot =>
        let lookupSpi := dpIpsecGetLookupSpi request.spec
        match dpIpsecBuildSa outcomes db.heap request lookupSpi with
        | (heap, .error err) => ({ db with heap }, .error err)
        | (heap, .ok handle) =>
          let sa := heap.sa handle
          let key := dpIpsecBuildKey lookupSpi sa.src sa.dst
          if !outcomes.sadAdd then ({ db with heap := dpIpsecFreeSa heap handle }, .error .saCreate)
          else
            ({ sad := some (Function.update sad key (some handle))
               sas := Function.update db.sas slot (some handle)
               heap },
              .ok ())

def dpIpsecUpdateSa (conf : DpConf) (outcomes : Outcomes) (db : IpsecDb)
    (spec : IpsecSaSpec) (request : IpsecSa) :
    IpsecDb × Except GrpcErr Unit :=
  match db.sad with
  | none => (db, .error .ipsecDisabled)
  | some sad =>
    if spec.dir ≠ .egress then (db, .error .saDirection)
    else if request.algo = .max then (db, .error .saAlgo)
    else if !dpIpsecIsLocalSideValid conf request then (db, .error .saBadAddr)
    else if !dpIpsecIsReplayWindowValid request then (db, .error .saReplayWindow)
    else
      match dpIpsecFindSa sad db.heap spec with
      | none => (db, .error .saNotFound)
      | some oldSa =>
        match db.sas.slotOf oldSa with
        | none => (db, .error .saNotFound)
        | some slot =>
          let lookupSpi := dpIpsecGetLookupSpi spec
          match dpIpsecBuildSa outcomes db.heap request lookupSpi with
          | (heap, .error err) => ({ db with heap }, .error err)
          | (heap, .ok newSa) =>
            let sa := heap.sa newSa
            let key := dpIpsecBuildKey lookupSpi sa.src sa.dst
            if !outcomes.sadAdd then
              ({ db with heap := dpIpsecFreeSa heap newSa }, .error .saCreate)
            else
              ({ sad := some (Function.update sad key (some newSa))
                 sas := Function.update db.sas slot (some newSa)
                 heap := dpIpsecFreeSa heap oldSa },
                .ok ())

def dpIpsecDeleteSa (outcomes : Outcomes) (db : IpsecDb) (spec : IpsecSaSpec) :
    IpsecDb × Except GrpcErr Unit :=
  match db.sad with
  | none => (db, .error .ipsecDisabled)
  | some sad =>
    match dpIpsecFindSa sad db.heap spec with
    | none => (db, .error .saNotFound)
    | some handle =>
      if !outcomes.sadDel then (db, .error .saNotFound)
      else
        ({ sad := some (Function.update sad spec.sadKey none)
           sas :=
             match db.sas.slotOf handle with
             | some slot => Function.update db.sas slot none
             | none => db.sas
           heap := dpIpsecFreeSa db.heap handle },
          .ok ())

def dpIpsecGetSa (db : IpsecDb) (spec : IpsecSaSpec) : Except GrpcErr IpsecSa :=
  match db.sad with
  | none => .error .ipsecDisabled
  | some sad =>
    match dpIpsecFindSa sad db.heap spec with
    | none => .error .saNotFound
    | some handle => .ok (db.heap.sa handle)

/-! ## The request handlers -/

/-- `struct dpgrpc_ipsec_sa_id` carries the same five fields as
`struct dp_ipsec_sa_spec`. -/
abbrev DpgrpcIpsecSaId := IpsecSaSpec

structure DpgrpcIpsecSa where
  id : DpgrpcIpsecSaId
  algo : IpsecAlgo
  key : Vector UInt8 dpIpsecMaxKeyLen
  salt : Vector UInt8 dpIpsecMaxSaltLen
  replayWindow : UInt32
  esn : Bool
  deriving DecidableEq

structure DpgrpcIpsecSaUpdate where
  sa : DpgrpcIpsecSa
  newSpi : UInt32
  deriving DecidableEq

/-- The association that the create and update handlers fill in, under the
wire SPI `spi`. -/
def requestedSa (request : DpgrpcIpsecSa) (spi : UInt32) : IpsecSa where
  spi := spi
  vni := request.id.vni
  algo := request.algo
  dir := request.id.dir
  src := request.id.src
  dst := request.id.dst
  key := request.key
  salt := request.salt
  saltLen := 0
  replayWindow := request.replayWindow
  esn := request.esn
  session := none
  ipsecSa := none

def dpProcessCreateSecurityAssociation (conf : DpConf) (outcomes : Outcomes) (db : IpsecDb)
    (request : DpgrpcIpsecSa) : IpsecDb × Except GrpcErr Unit :=
  dpIpsecCreateSa conf outcomes db (requestedSa request request.id.spi)

def dpProcessUpdateSecurityAssociation (conf : DpConf) (outcomes : Outcomes) (db : IpsecDb)
    (request : DpgrpcIpsecSaUpdate) : IpsecDb × Except GrpcErr Unit :=
  dpIpsecUpdateSa conf outcomes db request.sa.id (requestedSa request.sa request.newSpi)

def dpProcessDeleteSecurityAssociation
    (outcomes : Outcomes) (db : IpsecDb) (request : DpgrpcIpsecSaId) :
    IpsecDb × Except GrpcErr Unit :=
  dpIpsecDeleteSa outcomes db request

def dpProcessGetSecurityAssociation (db : IpsecDb) (request : DpgrpcIpsecSaId) :
    Except GrpcErr DpgrpcIpsecSa :=
  match dpIpsecGetSa db request with
  | .error err => .error err
  | .ok sa =>
    .ok
      { id := sa.spec
        algo := sa.algo
        key := sa.key
        salt := sa.salt
        replayWindow := sa.replayWindow
        esn := sa.esn }

inductive SaRequest where
  | create (request : DpgrpcIpsecSa)
  | update (request : DpgrpcIpsecSaUpdate)
  | delete (request : DpgrpcIpsecSaId)
  deriving DecidableEq

def processSaRequest (conf : DpConf) (outcomes : Outcomes) (db : IpsecDb) :
    SaRequest → IpsecDb × Except GrpcErr Unit
  | .create request => dpProcessCreateSecurityAssociation conf outcomes db request
  | .update request => dpProcessUpdateSecurityAssociation conf outcomes db request
  | .delete request => dpProcessDeleteSecurityAssociation outcomes db request

/-- A request together with the outcomes of the calls it makes. -/
abbrev SaEvent := SaRequest × Outcomes

/-- The database, driven by requests and by how the calls they make end. -/
def saMachine (conf : DpConf) : Machine IpsecDb SaEvent where
  init := dpIpsecInit conf
  step := fun db event => (processSaRequest conf event.2 db event.1).1

end DpService.Ipsec

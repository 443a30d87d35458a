import DpService.Grpc.SecurityAssociation

/-!
# Round trip of a security association

An association that was accepted is reported back as it was given, with its
addresses masked and its key material in lower case, until an update or a
delete names it.
-/

namespace DpService.Grpc

open Foundations Ipsec

variable {inet : Inet6} {message : SecurityAssociationMessage} {filled : DpgrpcIpsecSa}
    {conf : DpConf} {db : IpsecDb}

/-! ## Filling a request in -/

theorem fillSecurityAssociationId_eq_ok {id : SecurityAssociationId} {filled : DpgrpcIpsecSaId}
    (filledIn : fillSecurityAssociationId inet id = .ok filled) :
    filled.spi = id.spi ∧ filled.vni = id.vni ∧ grpcToDpIpsecDir id.direction = some filled.dir ∧
      strToIpv6 inet id.srcUnderlay = some filled.src ∧
      strToIpv6 inet id.dstUnderlay = some filled.dst := by
  unfold fillSecurityAssociationId at filledIn
  split at filledIn
  · cases filledIn
  next dir direction =>
  split at filledIn
  · cases filledIn
  next src srcParsed =>
  split at filledIn
  · cases filledIn
  next dst dstParsed =>
  cases filledIn
  exact ⟨rfl, rfl, direction, srcParsed, dstParsed⟩

structure ParamsFilled
    (message : SecurityAssociationMessage) (filled : DpgrpcIpsecSa) :
    Prop where
  algo : grpcToDpIpsecAlgo message.algorithm = some filled.algo
  replayWindow : filled.replayWindow = message.replayWindow
  esn : filled.esn = message.esn
  key : ∃ spec bytes, dpIpsecAlgos filled.algo = some spec ∧
    hexToBytes message.key spec.keyLen = some bytes ∧
    filled.key = writeFront bytes (Vector.replicate _ 0)
  salt : ∃ spec bytes, dpIpsecAlgos filled.algo = some spec ∧
    hexToBytes message.salt spec.saltLen = some bytes ∧
    filled.salt = writeFront bytes (Vector.replicate _ 0)

theorem fillSecurityAssociation_eq_ok
    (filledIn : fillSecurityAssociation inet message = .ok filled) :
    fillSecurityAssociationId inet message.id = .ok filled.id ∧ ParamsFilled message filled := by
  unfold fillSecurityAssociation at filledIn
  split at filledIn
  · cases filledIn
  next id idFilled =>
  unfold fillSecurityAssociationParams at filledIn
  split at filledIn
  · cases filledIn
  next algo algorithm =>
  split at filledIn
  next keyLen saltLen keyLength saltLength =>
    split at filledIn
    · cases filledIn
    next keyBytes keyDecoded =>
    split at filledIn
    · cases filledIn
    next saltBytes saltDecoded =>
    cases filledIn
    obtain ⟨keySpec, keyRow, rfl⟩ := Option.map_eq_some_iff.mp keyLength
    obtain ⟨saltSpec, saltRow, rfl⟩ := Option.map_eq_some_iff.mp saltLength
    exact
      ⟨idFilled,
        { algo := algorithm
          replayWindow := rfl
          esn := rfl
          key := ⟨keySpec, keyBytes, keyRow, keyDecoded, rfl⟩
          salt := ⟨saltSpec, saltBytes, saltRow, saltDecoded, rfl⟩ }⟩
  next => cases filledIn

theorem fillSecurityAssociation_refused {algo : IpsecAlgo} {spec : IpsecAlgoSpec} (inet : Inet6)
    (algorithm : grpcToDpIpsecAlgo message.algorithm = some algo)
    (row : dpIpsecAlgos algo = some spec)
    (wrong : ¬ IsHexOf message.key spec.keyLen ∨ ¬ IsHexOf message.salt spec.saltLen) :
    ∃ error, fillSecurityAssociation inet message = .error error := by
  cases filledIn : fillSecurityAssociation inet message with
  | error error => exact ⟨error, rfl⟩
  | ok filled => ?_
  exfalso
  obtain ⟨_, params⟩ := fillSecurityAssociation_eq_ok filledIn
  have sameAlgo : filled.algo = algo := Option.some.inj (params.algo.symm.trans algorithm)
  rcases wrong with wrongKey | wrongSalt
  · obtain ⟨keySpec, bytes, keyRow, decoded, _⟩ := params.key
    rw [sameAlgo, row, Option.some_inj] at keyRow
    subst keyRow
    exact wrongKey ((hexToBytes_isSome_iff ..).mp (by rw [decoded]; rfl))
  obtain ⟨saltSpec, bytes, saltRow, decoded, _⟩ := params.salt
  rw [sameAlgo, row, Option.some_inj] at saltRow
  subst saltRow
  exact wrongSalt ((hexToBytes_isSome_iff ..).mp (by rw [decoded]; rfl))

/-! ## Reporting an association back -/

theorem take_writeFront {size : Nat} {bytes : List UInt8} (array : Vector UInt8 size)
    (fits : bytes.length ≤ size) :
    (writeFront bytes array).toList.take bytes.length = bytes := by
  refine List.ext_getElem ?_ ?_
  · simp [writeFront, fits]
  · intro index leftBound rightBound
    simp [writeFront, rightBound]

theorem ipsecDirToGrpc_of {direction : TrafficDirection} {dir : IpsecDir}
    (converted : grpcToDpIpsecDir direction = some dir) :
    ipsecDirToGrpc dir = direction := by
  cases direction <;> cases converted <;> rfl

theorem ipsecAlgoToGrpc_of {algorithm : IpsecAlgorithm} {algo : IpsecAlgo}
    (converted : grpcToDpIpsecAlgo algorithm = some algo) :
    ipsecAlgoToGrpc algo = algorithm := by
  cases algorithm <;> cases converted <;> rfl

/-- What Get reports for an accepted request whose addresses were read as
`src` and `dst`. -/
def reported (inet : Inet6) (message : SecurityAssociationMessage) (src dst : Ipv6) :
    GetSecurityAssociationResponse where
  id :=
    { message.id with
      srcUnderlay := inet.ntop src.maskPrefix
      dstUnderlay := inet.ntop dst.maskPrefix }
  algorithm := message.algorithm
  key := message.key.map asciiToLower
  salt := message.salt.map asciiToLower
  replayWindow := message.replayWindow
  esn := message.esn

def reportedSa (filled : DpgrpcIpsecSa) : DpgrpcIpsecSa :=
  { filled with
    id :=
      { filled.id with
        src := filled.id.src.maskPrefix
        dst := filled.id.dst.maskPrefix } }

theorem parseSecurityAssociation_filled
    (filledIn : fillSecurityAssociation inet message = .ok filled) :
    parseSecurityAssociation inet (reportedSa filled) =
      reported inet message filled.id.src filled.id.dst := by
  obtain ⟨idFilled, params⟩ := fillSecurityAssociation_eq_ok filledIn
  obtain ⟨sameSpi, sameVni, direction, _, _⟩ := fillSecurityAssociationId_eq_ok idFilled
  have sameKey : bytesToHex (filled.key.toList.take ((dpIpsecGetKeyLen filled.algo).getD 0)) =
          message.key.map asciiToLower := by
    obtain ⟨spec, bytes, row, decoded, stored⟩ := params.key
    have length := hexToBytes_length decoded
    have fits : bytes.length ≤ dpIpsecMaxKeyLen := by
      rw [length]
      exact (dpIpsecAlgos_fit row).1
    rw [dpIpsecGetKeyLen, row, Option.map_some, Option.getD_some, ← length,
      stored, take_writeFront _ fits]
    exact bytesToHex_hexToBytes decoded
  have sameSalt : bytesToHex (filled.salt.toList.take ((dpIpsecGetSaltLen filled.algo).getD 0)) =
          message.salt.map asciiToLower := by
    obtain ⟨spec, bytes, row, decoded, stored⟩ := params.salt
    have length := hexToBytes_length decoded
    have fits : bytes.length ≤ dpIpsecMaxSaltLen := by
      rw [length]
      exact (dpIpsecAlgos_fit row).2
    rw [dpIpsecGetSaltLen, row, Option.map_some, Option.getD_some, ← length,
      stored, take_writeFront _ fits]
    exact bytesToHex_hexToBytes decoded
  simp only [parseSecurityAssociation, reportedSa, reported, sameSpi, sameVni,
    ipsecDirToGrpc_of direction, ipsecAlgoToGrpc_of params.algo, sameKey,
    sameSalt, params.replayWindow, params.esn]

/-! ## The run between create and get -/

def SaCall.target (inet : Inet6) (call : SaCall) : Option DpgrpcIpsecSaId :=
  match call.fillRequest inet with
  | .error _ => none
  | .ok request => request.target

/-- No call of the run is an update or a delete that names `id` and
succeeds. -/
def Undisturbed (inet : Inet6) (conf : DpConf) (id : SecurityAssociationId) :
    IpsecDb → List (SaCall × Outcomes) → Prop
  | _, [] => True
  | db, (call, outcomes) :: rest =>
    (∀ own target, fillSecurityAssociationId inet id = .ok own →
      call.target inet = some target → own.Names target →
        (call.serve inet conf outcomes db).2 ≠ .answered (.ok ())) ∧
    Undisturbed inet conf id (call.serve inet conf outcomes db).1 rest

def Holds (db : IpsecDb) (filled : DpgrpcIpsecSa) : Prop :=
  ∃ slot handle session ipsecSa, db.sas slot = some handle ∧
    db.heap.sa handle = builtSa (requestedSa filled filled.id.spi) session ipsecSa

theorem holds_of_created {after : IpsecDb}
    (created : Created conf db (requestedSa filled filled.id.spi) after) :
    Holds after filled := by
  obtain ⟨sad, slot, heap, _, _, _, contents, _, rfl⟩ := created.change
  exact ⟨slot, db.heap.sas.next, _, _, Function.update_self .., contents⟩

theorem holds_serve {call : SaCall} {outcomes : Outcomes}
    (invariant : DbInvariant conf db) (holds : Holds db filled)
    (spared : ∀ target, call.target inet = some target →
      filled.id.Names target → (call.serve inet conf outcomes db).2 ≠ .answered (.ok ())) :
    Holds (call.serve inet conf outcomes db).1 filled := by
  obtain ⟨slot, handle, session, ipsecSa, held, contents⟩ := holds
  simp only [SaCall.serve, SaCall.target] at spared ⊢
  cases filledCall : call.fillRequest inet with
  | error message =>
    exact ⟨slot, handle, session, ipsecSa, held, contents⟩
  | ok request => ?_
  simp only [filledCall] at spared ⊢
  have requestSpared : ∀ target, request.target = some target →
      (db.heap.sa handle).spec.Names target →
        (processSaRequest conf outcomes db request).2 ≠ .ok () := by
    intro target targeted names succeeded
    rw [contents] at names
    exact spared target targeted names (by rw [succeeded])
  have survives := processSaRequest_survives invariant held requestSpared
  exact ⟨slot, handle, session, ipsecSa, survives.1, survives.2.trans contents⟩

theorem holds_run {id : SecurityAssociationId}
    (idFilled : fillSecurityAssociationId inet id = .ok filled.id) :
    ∀ {db : IpsecDb} (later : List (SaCall × Outcomes)), DbInvariant conf db → Holds db filled →
        Undisturbed inet conf id db later →
          DbInvariant conf ((saCallMachine inet conf).runFrom db later) ∧
            Holds ((saCallMachine inet conf).runFrom db later) filled
  | _, [], invariant, holds, _ => ⟨invariant, holds⟩
  | _, (call, outcomes) :: rest, invariant, holds, undisturbed => by
    have nextHolds :=
      holds_serve invariant holds fun target => undisturbed.1 filled.id target idFilled
    rw [Machine.runFrom_cons]
    exact holds_run idFilled rest (saCallMachine_step_invariant invariant) nextHolds undisturbed.2

theorem getSecurityAssociationCall_holds (invariant : DbInvariant conf db)
    (filledIn : fillSecurityAssociation inet message = .ok filled) (holds : Holds db filled) :
    getSecurityAssociationCall inet db message.id =
      .answered (.ok (reported inet message filled.id.src filled.id.dst)) := by
  obtain ⟨slot, handle, session, ipsecSa, held, contents⟩ := holds
  obtain ⟨idFilled, _⟩ := fillSecurityAssociation_eq_ok filledIn
  have names : (db.heap.sa handle).spec.Names filled.id := by
    rw [contents]
    exact ⟨rfl, rfl, rfl, rfl, rfl⟩
  have answer := invariant.getSa_eq_ok_iff.mpr ⟨slot, handle, held, names, rfl⟩
  have workerReply : dpProcessGetSecurityAssociation db filled.id = .ok (reportedSa filled) := by
    rw [dpProcessGetSecurityAssociation, answer, contents]
    rfl
  rw [← parseSecurityAssociation_filled filledIn]
  simp only [getSecurityAssociationCall, idFilled, workerReply]
  rfl

theorem serve_create_accepted {outcomes : Outcomes} {message : CreateSecurityAssociationRequest}
    (invariant : DbInvariant conf db)
    (accepted : ((SaCall.create message).serve inet conf outcomes db).2 = .answered (.ok ())) :
    ∃ filled, fillSecurityAssociation inet message = .ok filled ∧
      Holds ((SaCall.create message).serve inet conf outcomes db).1 filled := by
  cases filledIn : fillSecurityAssociation inet message with
  | error error =>
    simp only [SaCall.serve, SaCall.fillRequest, filledIn] at accepted
    cases accepted
  | ok filled => ?_
  have filledCall : (SaCall.create message).fillRequest inet = .ok (.create filled) := by
    simp only [SaCall.fillRequest, filledIn]
    rfl
  refine ⟨filled, rfl, ?_⟩
  simp only [SaCall.serve, filledCall] at accepted ⊢
  cases done : processSaRequest conf outcomes db (.create filled) with
  | mk after result =>
    rw [done] at accepted
    rcases processSaRequest_cases invariant _ done with
      ⟨_, failed, _⟩ | ⟨_, applied⟩
    · rw [failed] at accepted
      cases accepted
    · exact holds_of_created applied

/-- An accepted association is reported back with the same identity,
algorithm, replay window and ESN flag, its key and salt in lower case and its
addresses masked, until an update or delete that names it succeeds.  A request
whose key or salt is not the hexadecimal spelling of as many bytes as its
algorithm asks for never reaches the database. -/
theorem securityAssociation_roundTrip
    (inet : Inet6) (conf : DpConf) (earlier later : List (SaCall × Outcomes))
    (message : CreateSecurityAssociationRequest) (outcomes : Outcomes) :
    (((SaCall.create message).serve inet conf outcomes
          ((saCallMachine inet conf).run earlier)).2 = .answered (.ok ()) →
      Undisturbed inet conf message.id
        ((SaCall.create message).serve inet conf outcomes
          ((saCallMachine inet conf).run earlier)).1 later →
      ∃ src dst, strToIpv6 inet message.id.srcUnderlay = some src ∧
        strToIpv6 inet message.id.dstUnderlay = some dst ∧
        getSecurityAssociationCall inet
          ((saCallMachine inet conf).run (earlier ++ (SaCall.create message, outcomes) :: later))
          message.id = .answered (.ok (reported inet message src dst))) ∧
      ∀ algo spec db, grpcToDpIpsecAlgo message.algorithm = some algo →
        dpIpsecAlgos algo = some spec →
        (¬ IsHexOf message.key spec.keyLen ∨ ¬ IsHexOf message.salt spec.saltLen) →
        (∃ error,
          (SaCall.create message).serve inet conf outcomes db = (db, .invalidArgument error)) ∧
        ∀ newSpi, ∃ error,
          (SaCall.update { sa := message, newSpi }).serve inet conf
            outcomes db = (db, .invalidArgument error) := by
  constructor
  · intro accepted undisturbed
    have invariant := saCallMachine_invariant inet conf earlier
    obtain ⟨filled, filledIn, holds⟩ :=
      serve_create_accepted invariant accepted
    obtain ⟨idFilled, _⟩ := fillSecurityAssociation_eq_ok filledIn
    obtain ⟨_, _, _, srcParsed, dstParsed⟩ :=
      fillSecurityAssociationId_eq_ok idFilled
    have createdInvariant :
        DbInvariant conf
          ((saCallMachine inet conf).step ((saCallMachine inet conf).run earlier)
            (SaCall.create message, outcomes)) :=
      saCallMachine_step_invariant invariant
    obtain ⟨laterInvariant, laterHolds⟩ :=
      holds_run idFilled later createdInvariant holds undisturbed
    refine ⟨_, _, srcParsed, dstParsed, ?_⟩
    rw [Machine.run, Machine.runFrom_append, Machine.runFrom_cons]
    exact getSecurityAssociationCall_holds laterInvariant filledIn laterHolds
  intro algo spec db algorithm row wrong
  obtain ⟨error, refused⟩ :=
    fillSecurityAssociation_refused inet algorithm row wrong
  constructor
  · refine ⟨error, ?_⟩
    simp only [SaCall.serve, SaCall.fillRequest, refused]
    rfl
  intro newSpi
  refine ⟨error, ?_⟩
  simp only [SaCall.serve, SaCall.fillRequest, fillSecurityAssociationUpdate, refused]
  rfl

/-! ## One association, spelled in upper case -/

def groupDigits : StdString → StdString
  | first :: second :: third :: fourth :: fifth :: rest =>
    first :: second :: third :: fourth :: 58 :: groupDigits (fifth :: rest)
  | digits => digits

def fullFormInet6 : Inet6 where
  pton := fun str => (hexToBytes (str.filter (· ≠ 58)) 16).map Ipv6.ofBytes
  ntop := fun address => groupDigits (bytesToHex address.toBytes)

def hostUnderlay : Ipv6 where
  pfx := 0xfc00000100000000
  sfx := 0x20

def peerUnderlay : Ipv6 where
  pfx := 0xfc00000200000000
  sfx := 0x30

/-- An ingress association whose key is sixteen times the byte `0xAB`. -/
def upperCaseMessage (spi : UInt32) : CreateSecurityAssociationRequest where
  id :=
    { vni := 100
      spi := spi
      direction := .ingress
      srcUnderlay := fullFormInet6.ntop peerUnderlay
      dstUnderlay := fullFormInet6.ntop hostUnderlay }
  algorithm := .aes128Gcm
  key := (List.replicate 16 [65, 66]).flatten
  salt := (List.replicate 4 [67, 100]).flatten
  replayWindow := 64
  esn := true

def hostConf6 : DpConf where
  underlayIp := hostUnderlay
  ipsecEnabled := true

/-- The association comes back as it was given, and with one key digit less
the same request never reaches the database. -/
theorem upperCaseMessage_roundTrip :
    (∃ src dst, strToIpv6 fullFormInet6 (upperCaseMessage 256).id.srcUnderlay = some src ∧
      strToIpv6 fullFormInet6 (upperCaseMessage 256).id.dstUnderlay = some dst ∧
      getSecurityAssociationCall fullFormInet6
        ((saCallMachine fullFormInet6 hostConf6).run
          [(.create (upperCaseMessage 256), Outcomes.success),
            (.create (upperCaseMessage 257), Outcomes.success)])
        (upperCaseMessage 256).id =
          .answered (.ok (reported fullFormInet6 (upperCaseMessage 256) src dst))) ∧
      ∃ error,
        (SaCall.create
            { upperCaseMessage 256 with
              key := (upperCaseMessage 256).key.tail }).serve
          fullFormInet6 hostConf6 Outcomes.success
          (saCallMachine fullFormInet6 hostConf6).init =
            ((saCallMachine fullFormInet6 hostConf6).init, .invalidArgument error) := by
  constructor
  · exact
      (securityAssociation_roundTrip fullFormInet6 hostConf6 []
        [(.create (upperCaseMessage 257), Outcomes.success)]
        (upperCaseMessage 256) Outcomes.success).1 (by decide +kernel)
          ⟨fun _ _ _ targeted =>
              absurd ((show (SaCall.create (upperCaseMessage 257)).target fullFormInet6 =
                  none by decide +kernel).symm.trans targeted) (by simp),
            trivial⟩
  exact
    ((securityAssociation_roundTrip fullFormInet6 hostConf6 [] []
      { upperCaseMessage 256 with key := (upperCaseMessage 256).key.tail }
      Outcomes.success).2 .aes128Gcm ⟨16, 4⟩ (saCallMachine fullFormInet6 hostConf6).init rfl rfl
        (Or.inl fun isHex => absurd isHex.1 (by decide +kernel))).1

end DpService.Grpc

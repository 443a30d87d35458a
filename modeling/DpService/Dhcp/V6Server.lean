import DpService.Dhcp.V6Options

/-!
# The DHCPv6 server, and assertions about PXE

The node `dhcpv6` turns a request into its reply, like `dhcp`.  Both nodes
assert that the PXE address of the interface is one of their own family when a
client of a PXE class has asked, and an interface has only one such address.
-/

namespace DpService.Dhcp

open Foundations Packet Dataplane

/-! ## The node -/

def dhcpv6Solicit : UInt8 := 1
def dhcpv6Advertise : UInt8 := 2
def dhcpv6Request : UInt8 := 3
def dhcpv6Confirm : UInt8 := 4
def dhcpv6Reply : UInt8 := 7
def dhcpv6Release : UInt8 := 8

def dhcpv6At : Nat := 62

def encodeOptions6 (options : List (UInt16 × List UInt8)) : List UInt8 :=
  options.flatMap fun option => beBytes 2 option.1.toNat ++ beBytes 2 option.2.length ++ option.2

inductive Generated where
  | failed
  | abort
  | options (bytes : List UInt8)
  deriving DecidableEq, Repr

/-- `resize_packet` and what is written then, where `tailroom` bytes are free
behind the packet. -/
def resizePacket (tailroom optionsLen : Nat) (bytes : List UInt8) :
    Generated :=
  if optionsLen + tailroom < bytes.length ∨ 65535 + optionsLen < bytes.length
  then .failed
  else .options bytes

def generateReplyOptions (conf : DhcpConf) (iface : DhcpIface) (tailroom : Nat) (frame : Frame) :
    Generated :=
  let parsed := parseOptions6 conf iface frame
  match parsed.status with
  | .error => .failed
  | .abort => .abort
  | .ok =>
    resizePacket tailroom (optionBytes6 frame).length
      (encodeOptions6 (replyOptions6 conf iface (frame.bytesAt 6 6) parsed.reply))

def generateNoaddrsReply (tailroom : Nat) (frame : Frame) : Generated :=
  resizePacket tailroom (optionBytes6 frame).length (encodeOptions6 [(dhcpv6OptStatusCode, [0, 2])])

/-- The type of the reply and its options; none for a request that is not
answered. -/
def generate6 (conf : DhcpConf) (iface : DhcpIface) (tailroom : Nat) (frame : Frame) :
    Option (UInt8 × Generated) :=
  let msgType := frame.byteAt dhcpv6At
  if iface.ownIpv6 = Ipv6.zero then
    if msgType ≠ dhcpv6Solicit ∧ msgType ≠ dhcpv6Request then none
    else some (dhcpv6Reply, generateNoaddrsReply tailroom frame)
  else if msgType = dhcpv6Solicit then
    some (dhcpv6Advertise, generateReplyOptions conf iface tailroom frame)
  else if msgType = dhcpv6Request ∨ msgType = dhcpv6Release then
    some (dhcpv6Reply, generateReplyOptions conf iface tailroom frame)
  else if msgType = dhcpv6Confirm then some (dhcpv6Reply, .options [])
  else none

def replyHeader6 (conf : DhcpConf) (iface : DhcpIface) (msgType : UInt8)
    (optionsLen : Nat) (frame : Frame) : Frame :=
  let payloadLen := (optionsLen + 4 + 8).toUInt16
  let client := frame.bytesAt 22 16
  let frame := (frame.write 0 (frame.bytesAt 6 6)).write 6 iface.ownMac.toList
  let frame := (frame.write 38 client).write 22 conf.gwIp6.toBytes
  let frame := (frame.writeBe16 54 547).writeBe16 56 546
  let frame := frame.write dhcpv6At [msgType]
  ((frame.writeBe16 18 payloadLen).writeBe16 58 payloadLen).writeBe16 60 0

def dhcpv6GetNextIndex (conf : DhcpConf) (iface : DhcpIface) (tailroom : Nat) (frame : Frame) :
    DhcpVerdict :=
  if frame.data.length < options6At then .drop
  else
    match generate6 conf iface tailroom frame with
    | none => .drop
    | some (_, .failed) => .drop
    | some (_, .abort) => .abort
    | some (msgType, .options options) =>
      if 65535 < options.length + 4 + 8 then .drop
      else
        let header :=
          replyHeader6 conf iface msgType options.length
            { frame with data := frame.data.take options6At }
        .reply
          { header with
            data := header.data ++ options
            stale := fun index => frame.byteAt (options6At + options.length + index)
            olFlags := frame.olFlags ||| txIpv6 ||| txUdpCksum
            txOffload := ⟨14, 40, 8, 0, 0⟩ }
          none

/-! ## Accepted interfaces -/

inductive AddressText where
  | empty
  | v4 (address : Ipv4)
  | v6 (address : Ipv6)
  | other
  deriving DecidableEq, Repr

/-- What `CreateInterface` is asked for, without what the DHCP nodes do not
read. -/
structure InterfaceRequest where
  ip4Addr : Ipv4
  ip6Addr : Ipv6
  nextServer : AddressText
  bootFilename : List UInt8
  hostname : List UInt8

def strToDpAddress (v6 : Bool) : AddressText → Option IpAddress
  | .v4 address => if v6 then none else some (.v4 address)
  | .v6 address => if v6 then some (.v6 address) else none
  | .empty | .other => none

theorem emptyFilename_fits : ([] : List UInt8).length < 32 := by
  decide

/-- The PXE configuration that `FillRequest` leaves.  The family of the address
depends on whether the interface has an IPv6 address. -/
def fillPxe (request : InterfaceRequest) :
    Option (IpAddress × { text : List UInt8 // text.length < 32 }) :=
  if request.nextServer = .empty then some (.v4 0, ⟨[], emptyFilename_fits⟩)
  else
    (strToDpAddress (request.ip6Addr ≠ Ipv6.zero) request.nextServer).bind
      fun pxeIp =>
        if fits : request.bootFilename.length < 32 then
          if request.bootFilename = [] then none
          else some (pxeIp, ⟨request.bootFilename, fits⟩)
        else none

/-- `CreateInterfaceCall::FillRequest`, and the interface that
`dp_process_create_interface` makes of it on a port. -/
def createdIface (ownMac : MacAddr) (request : InterfaceRequest) : Option DhcpIface :=
  if request.ip4Addr = 0 ∧ request.ip6Addr = Ipv6.zero then none
  else
    (fillPxe request).bind fun pxe =>
      if fits : request.hostname.length < 64 then
        some
          { ownMac
            ownIp := request.ip4Addr
            ownIpv6 := request.ip6Addr
            pxeIp := pxe.1
            pxeStr := pxe.2.val
            pxeStrLen := pxe.2.property
            hostname := request.hostname
            hostnameLen := fits }
      else none

/-- Interfaces for which the PXE address fits both families: only IPv4, or only
IPv6 with a PXE server. -/
def PxeFits (iface : DhcpIface) : Prop :=
  (iface.ownIp ≠ 0 → iface.pxeV6 = false) ∧ (iface.ownIpv6 ≠ Ipv6.zero → iface.pxeV6 = true)

theorem fillPxe_pxeV6 {request : InterfaceRequest} {pxeIp : IpAddress}
    {pxeStr : { text : List UInt8 // text.length < 32 }}
    (filled : fillPxe request = some (pxeIp, pxeStr)) :
    isV6 pxeIp =
      decide (request.ip6Addr ≠ Ipv6.zero ∧ request.nextServer ≠ .empty) := by
  unfold fillPxe at filled
  split at filled
  · rename_i empty
    cases filled
    simp [isV6, empty]
  rename_i given
  rw [Option.bind_eq_some_iff] at filled
  obtain ⟨address, read, filled⟩ := filled
  have same : address = pxeIp := by
    split at filled
    · split at filled
      · cases filled
      · cases filled
        rfl
    cases filled
  subst same
  unfold strToDpAddress at read
  split at read
  · split at read
    · cases read
    rename_i noV6
    cases read
    have without : request.ip6Addr = Ipv6.zero := by simpa using noV6
    simp [isV6, without]
  · split at read
    · rename_i wantsV6
      cases read
      simpa [isV6, given] using wantsV6
    · cases read
  · cases read
  cases read

/-- A new interface is safe exactly if it has no IPv6 address, or nothing but an
IPv6 address and a PXE server. -/
theorem pxeFits_createdIface_iff {ownMac : MacAddr} {request : InterfaceRequest} {iface : DhcpIface}
    (created : createdIface ownMac request = some iface) :
    PxeFits iface ↔ request.ip6Addr = Ipv6.zero ∨
        (request.ip4Addr = 0 ∧ request.nextServer ≠ .empty) := by
  unfold createdIface at created
  split at created
  · cases created
  rename_i addressed
  rw [Option.bind_eq_some_iff] at created
  obtain ⟨⟨pxeIp, pxeStr⟩, filled, created⟩ := created
  split at created
  · cases created
    have family := fillPxe_pxeV6 filled
    unfold PxeFits DhcpIface.pxeV6
    dsimp only
    rw [family]
    by_cases noV6 : request.ip6Addr = Ipv6.zero
    · simp [noV6]
    · simp [noV6]
      tauto
  cases created

/-! ## Sequences of requests -/

structure GuestPacket where
  v6 : Bool
  iface : DhcpIface
  frame : Frame
  tailroom : Nat

def GuestPacket.verdict (conf : DhcpConf) (pxeMode : PxeMode) (packet : GuestPacket) :
    DhcpVerdict :=
  if packet.v6 then dhcpv6GetNextIndex conf packet.iface packet.tailroom packet.frame
  else (dhcpGetNextIndex conf packet.iface pxeMode packet.frame).2

def serversMachine (conf : DhcpConf) : Machine PxeMode GuestPacket where
  init := .none
  step := fun pxeMode packet =>
    if packet.v6 then pxeMode
    else (dhcpGetNextIndex conf packet.iface pxeMode packet.frame).1

def Asserted (conf : DhcpConf) (pxeMode : PxeMode) (packet : GuestPacket) : Prop :=
  (packet.verdict conf pxeMode).answer ≠ .abort

section Assertions

variable (conf : DhcpConf) (iface : DhcpIface)

theorem parseOptions6From_status
    (frame : Frame) (i : Nat) (parsed : Parsed6) (ok : parsed.status = .ok)
    (aborted : (parseOptions6From conf iface frame i parsed).status = .abort) :
    iface.pxeV6 = false := by
  fun_induction parseOptions6From conf iface frame i parsed with
  | case1 i parsed covered opLen read long => cases aborted
  | case2 i parsed covered opCode opLen read fits taken continues ih =>
    exact ih continues aborted
  | case3 i parsed covered opCode opLen read fits taken stops =>
    cases refuses : refused opCode opLen with
    | true =>
      have failed : taken = read.fail := takeOption6_of_refused conf iface frame read refuses
      rw [failed] at aborted
      cases aborted
    | false =>
      have status := @takeOption6_status conf iface frame i _ _ read refuses ok
      exact (status.resolve_left stops).2
  | case4 i parsed outside =>
    rw [ok] at aborted
    cases aborted

/-- The DHCPv6 node aborts only for an interface with an IPv6 address and
without an IPv6 address for booting. -/
theorem dhcpv6GetNextIndex_abort {tailroom : Nat} {frame : Frame}
    (aborted : (dhcpv6GetNextIndex conf iface tailroom frame).answer = .abort) :
    iface.ownIpv6 ≠ Ipv6.zero ∧ iface.pxeV6 = false := by
  have resized (optionsLen : Nat) (bytes : List UInt8) :
      resizePacket tailroom optionsLen bytes ≠ .abort := by
    unfold resizePacket
    split
    · exact nofun
    · exact nofun
  have generated : generateReplyOptions conf iface tailroom frame = .abort →
        iface.pxeV6 = false := by
    unfold generateReplyOptions
    intro aborts
    dsimp only at aborts
    split at aborts
    · cases aborts
    · rename_i status
      exact parseOptions6From_status conf iface frame _ _ rfl status
    · exact absurd aborts (resized _ _)
  unfold dhcpv6GetNextIndex at aborted
  split at aborted
  · cases aborted
  split at aborted
  · cases aborted
  · cases aborted
  · rename_i type generates
    unfold generate6 at generates
    dsimp only at generates
    split at generates
    · split at generates
      · cases generates
      · exact absurd (Prod.mk.inj (Option.some.inj generates)).2 (resized _ _)
    rename_i addressed
    refine ⟨addressed, ?_⟩
    split at generates
    · exact generated (Prod.mk.inj (Option.some.inj generates)).2
    split at generates
    · exact generated (Prod.mk.inj (Option.some.inj generates)).2
    split at generates
    · cases (Prod.mk.inj (Option.some.inj generates)).2
    cases generates
  dsimp only at aborted
  split at aborted
  · cases aborted
  cases aborted

/-- The DHCPv4 node aborts only for an interface with an IPv4 address and an
IPv6 address for booting. -/
theorem dhcpGetNextIndex_abort {pxeMode : PxeMode} {frame : Frame}
    (aborted : (dhcpGetNextIndex conf iface pxeMode frame).2.answer = .abort) :
    iface.ownIp ≠ 0 ∧ iface.pxeV6 = true := by
  cases served : refusedEarly iface frame with
  | true =>
    rw [dhcpGetNextIndex_answer, served] at aborted
    cases aborted
  | false => ?_
  have addressed : iface.ownIp ≠ 0 := by
    rw [refusedEarly, Bool.or_eq_false_iff, Bool.or_eq_false_iff] at served
    simpa using served.1.2
  rw [dhcpGetNextIndex_served conf iface _ served] at aborted
  refine ⟨addressed, ?_⟩
  cases found : (parseOptions frame pxeMode).message? with
  | none =>
    rw [found] at aborted
    cases aborted
  | some message => ?_
  rw [found, Option.elim_some] at aborted
  cases answered : responseType message.1 with
  | none =>
    rw [answered] at aborted
    cases aborted
  | some type => ?_
  rw [answered, Option.elim_some, respond_answer] at aborted
  cases header : headerOfReply conf iface message.2 frame with
  | some header' =>
    rw [header] at aborted
    cases aborted
  | none => ?_
  unfold headerOfReply bootHeader at header
  split at header
  · cases header
  · rename_i v6 _
    rw [DhcpIface.pxeV6, v6]
    rfl
  · cases header
  cases header

def classDiscover : Frame :=
  { bootRequest.frame with
    data :=
      List.replicate dhcpHeaderAt 0 ++ dpBootpRequest ::
          (List.replicate 239 0 ++ [dhcpOptMessageType, 1, dhcpDiscover, dhcpOptUserClass, 4] ++
            userClassText) }

theorem classDiscover_aborts (addressed : iface.ownIp ≠ 0) (v6 : iface.pxeV6 = true)
    (pxeMode : PxeMode) :
    (dhcpGetNextIndex conf iface pxeMode classDiscover).2.answer = .abort := by
  have frame :
      ¬ classDiscover.data.length < optionsAt ∧ classDiscover.byteAt dhcpHeaderAt = dpBootpRequest ∧
        looseParse .none (optionBytes classDiscover) = some (some dhcpDiscover, .http) := by
    decide +kernel
  have served : refusedEarly iface classDiscover = false := by
    simp [refusedEarly, frame.1, frame.2.1, addressed]
  have header : headerOfReply conf iface .http classDiscover = none := by
    unfold headerOfReply bootHeader
    cases family : iface.pxeIp with
    | v4 _ =>
      rw [DhcpIface.pxeV6, family] at v6
      cases v6
    | v6 _ => rfl
  rw [dhcpGetNextIndex_served conf iface _ served, parseOptions_message?,
    frame.2.2, Option.map_some, Option.elim_some]
  change
    (some dhcpOffer).elim DhcpAnswer.drop (fun type =>
      (respond conf iface .http type classDiscover).answer) = _
  rw [Option.elim_some, respond_answer, header]
  rfl

def classSolicit : Frame :=
  { bootRequest.frame with
    data :=
      List.replicate dhcpv6At 0 ++ [dhcpv6Solicit, 0, 0, 0] ++
        [0, 15, 0, 6, 0, 4] ++ userClassText }

def classPiece : Piece where
  code := dhcpv6OptUserClass
  value := [0, 4] ++ userClassText
  following := []

theorem classSolicit_aborts (addressed : iface.ownIpv6 ≠ Ipv6.zero) (v4 : iface.pxeV6 = false)
    (tailroom : Nat) :
    (dhcpv6GetNextIndex conf iface tailroom classSolicit).answer = .abort := by
  have frame :
      options6At + 10 = classSolicit.data.length ∧ classSolicit.byteAt dhcpv6At = dhcpv6Solicit ∧
        classSolicit.data.drop (options6At + 4) = classPiece.behind ∧
        classSolicit.be16At options6At = classPiece.code ∧
        (classSolicit.be16At (options6At + 2)).toNat = classPiece.value.length ∧
        classPiece.value.length = 6 ∧ refused classPiece.code classPiece.value.length = false ∧
        classPiece.looseClass = some true := by
    decide +kernel
  obtain ⟨total, msgType, layout, code, length, six, accepted, class?⟩ := frame
  have status : (parseOptions6 conf iface classSolicit).status = .abort := by
    rw [parseOptions6, parseOptions6From, if_pos (by omega)]
    dsimp only
    rw [code, length, if_neg (by omega)]
    have takes :=
      @takeOption6_takes conf iface classSolicit options6At classPiece
        (Parsed6.read
          { reply := ReplyOptions6.empty, status := .ok, reach := 0 }
          (options6At + 4))
        rfl (by simp only [Parsed6.read]; omega) (by omega) layout accepted
    rw [Takes, class?, v4] at takes
    have aborts := takes.2
    rw [if_pos (by decide)] at aborts
    rw [if_neg (by rw [aborts]; decide)]
    exact aborts
  have generates : generate6 conf iface tailroom classSolicit = some (dhcpv6Advertise, .abort) := by
    rw [generate6, if_neg addressed, if_pos msgType, generateReplyOptions, status]
  rw [dhcpv6GetNextIndex, if_neg (by omega), generates]
  rfl

theorem asserted_of_pxeFits
    {packet : GuestPacket} (fits : PxeFits packet.iface) (pxeMode : PxeMode) :
    Asserted conf pxeMode packet := by
  unfold Asserted GuestPacket.verdict
  intro aborted
  split at aborted
  · obtain ⟨addressed, v4⟩ := dhcpv6GetNextIndex_abort conf _ aborted
    rw [fits.2 addressed] at v4
    cases v4
  obtain ⟨addressed, v6⟩ := dhcpGetNextIndex_abort conf _ aborted
  rw [fits.1 addressed] at v6
  cases v6

theorem exists_abort_of_not_pxeFits (unfit : ¬ PxeFits iface) : ∃ packet : GuestPacket,
      packet.iface = iface ∧ ¬ Asserted conf .none packet := by
  by_cases v4 : iface.ownIp ≠ 0 → iface.pxeV6 = false
  · have v6 : ¬ (iface.ownIpv6 ≠ Ipv6.zero → iface.pxeV6 = true) := fun fits => unfit ⟨v4, fits⟩
    rw [Classical.not_imp, Bool.not_eq_true] at v6
    refine ⟨⟨true, iface, classSolicit, 0⟩, rfl, ?_⟩
    rw [Asserted, not_not]
    exact classSolicit_aborts conf iface v6.1 v6.2 0
  rw [Classical.not_imp, Bool.not_eq_false] at v4
  refine ⟨⟨false, iface, classDiscover, 0⟩, rfl, ?_⟩
  rw [Asserted, not_not]
  exact classDiscover_aborts conf iface v4.1 v4.2 .none

def FromCreated (requests : List (MacAddr × InterfaceRequest))
    (packets : List GuestPacket) : Prop :=
  ∀ packet ∈ packets, ∃ request ∈ requests, createdIface request.1 request.2 = some packet.iface

theorem along_asserted {packets : List GuestPacket}
    (fit : ∀ packet ∈ packets, PxeFits packet.iface) (pxeMode : PxeMode) :
    (serversMachine conf).Along (Asserted conf) pxeMode packets := by
  induction packets generalizing pxeMode with
  | nil => trivial
  | cons packet packets ih =>
    refine ⟨asserted_of_pxeFits conf ?_ pxeMode, ih ?_ _⟩
    · exact fit packet (List.mem_cons_self ..)
    · exact fun other member => fit other (List.mem_cons_of_mem _ member)

/-- No sequence of packets makes an assertion fail exactly if every interface
that was created has no IPv6 address, or nothing but an IPv6 address and a PXE
server. -/
theorem assertions_hold_iff (requests : List (MacAddr × InterfaceRequest)) :
    (∀ packets, FromCreated requests packets →
        (serversMachine conf).Along (Asserted conf) .none packets) ↔
      ∀ request ∈ requests, (createdIface request.1 request.2).isSome = true →
          request.2.ip6Addr = Ipv6.zero ∨
            (request.2.ip4Addr = 0 ∧ request.2.nextServer ≠ .empty) := by
  constructor
  · intro holds request member accepted
    obtain ⟨iface, created⟩ := Option.isSome_iff_exists.mp accepted
    rw [← pxeFits_createdIface_iff created]
    by_contra unfit
    obtain ⟨packet, same, aborts⟩ := exists_abort_of_not_pxeFits conf iface unfit
    have sent : FromCreated requests [packet] := by
      intro other single
      rw [List.mem_singleton.mp single, same]
      exact ⟨request, member, created⟩
    exact aborts (holds [packet] sent).1
  intro safe packets sent
  apply along_asserted
  intro packet member
  obtain ⟨request, listed, created⟩ := sent packet member
  rw [pxeFits_createdIface_iff created]
  exact safe request listed (by rw [created]; rfl)

def dualRequest (nextServer : AddressText) : InterfaceRequest where
  ip4Addr := 0x0a000001
  ip6Addr := ⟨0x20010db800000000, 1⟩
  nextServer
  bootFilename := ascii "boot"
  hostname := []

def answerOnNew (request : InterfaceRequest) (v6 : Bool) (frame : Frame) : Option DhcpAnswer :=
  (createdIface (Vector.replicate 6 0) request).map fun iface =>
    (GuestPacket.verdict plainConf .none ⟨v6, iface, frame, 1000⟩).answer

/-- With an IPv6 server a DISCOVER of a PXE client aborts the service, and
without a server a SOLICIT. -/
theorem dualRequest_aborts :
    answerOnNew (dualRequest (.v6 ⟨0x20010db800000000, 2⟩)) false classDiscover = some .abort ∧
      answerOnNew (dualRequest .empty) true classSolicit = some .abort := by
  decide +kernel

end Assertions

end DpService.Dhcp

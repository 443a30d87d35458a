import DpService.Dataplane.Ports
import DpService.Dhcp.Options
import DpService.Foundations.Machine
import DpService.Packet.Bytes

/-!
# The DHCPv4 server

The node `dhcp` turns a request into its reply.  Everything about the client
comes from the interface that the request arrived on, except for one static
variable: the PXE mode of a request is kept until a later one has a class of its
own.
-/

namespace DpService.Dhcp

open Foundations Packet Dataplane

structure DhcpConf where
  gwIp4 : Ipv4
  gwIp6 : Ipv6
  mtu : UInt16
  dns : List UInt8
  dnsLen : dns.length ≤ 255
  dns6 : List UInt8
  dns6Len : dns6.length ≤ 255
  virtsvc : Bool
  /-- `dp_ipaddr_to_str` -/
  ipText : IpAddress → List UInt8
  ipTextLen : ∀ address, (ipText address).length < 46

structure DhcpIface where
  ownMac : MacAddr
  ownIp : Ipv4
  ownIpv6 : Ipv6
  pxeIp : IpAddress
  pxeStr : List UInt8
  pxeStrLen : pxeStr.length < 32
  hostname : List UInt8
  hostnameLen : hostname.length < 64

/-- `htonl` of the gateway's address. -/
def DhcpConf.serverIp (conf : DhcpConf) : List UInt8 :=
  beBytes 4 conf.gwIp4.toNat

def pxeTftpPath : List UInt8 :=
  ascii "ipxe/x86_64/ipxe.new"

def dpBootpRequest : UInt8 := 1
def dpBootpReply : UInt8 := 2

def dhcpDiscover : UInt8 := 1
def dhcpOffer : UInt8 := 2
def dhcpRequest : UInt8 := 3
def dhcpAck : UInt8 := 5

def dhcpMaxOptionsLen : Nat :=
  1500 - optionsAt

/-- The routes for link-local addresses, for virtual services and to the
server. -/
def DhcpConf.classlessRoute (conf : DhcpConf) : List UInt8 :=
  [16, 169, 254, 0, 0, 0, 0, 0] ++ conf.serverIp ++
    if conf.virtsvc then [24, 169, 254, 1] ++ conf.serverIp else []

def replyOptions (conf : DhcpConf) (iface : DhcpIface) (msgType : UInt8)
    (pxeMode : PxeMode) : List (UInt8 × List UInt8) :=
  [(dhcpOptMessageType, [msgType]), (dhcpOptIpLeaseTime, [255, 255, 255, 255]),
    (dhcpOptServerId, conf.serverIp), (dhcpOptClasslessRoute, conf.classlessRoute),
    (dhcpOptSubnetMask, [255, 255, 255, 255]), (dhcpOptInterfaceMtu, beBytes 2 conf.mtu.toNat)] ++
  (if pxeMode = .none then [] else [(dhcpOptRouter, conf.serverIp)]) ++
  (if conf.dns = [] then [] else [(dhcpOptDns, conf.dns)]) ++
  if iface.hostname = [] then [] else [(dhcpOptHostname, iface.hostname)]

/-- There must be room for the option and another byte. -/
def addDhcpOption (written : List UInt8) (option : UInt8 × List UInt8) : Option (List UInt8) :=
  if dhcpMaxOptionsLen ≤ written.length + 2 + option.2.length then none
  else some (written ++ option.1 :: option.2.length.toUInt8 :: option.2)

def addDhcpOptions (conf : DhcpConf) (iface : DhcpIface) (msgType : UInt8)
    (pxeMode : PxeMode) : Option (List UInt8) :=
  ((replyOptions conf iface msgType pxeMode).foldlM addDhcpOption []).bind
    fun written =>
      if dhcpMaxOptionsLen ≤ written.length then none
      else some (written ++ [dhcpOptEnd])

/-! ## The reply -/

def writeFile (frame : Frame) (text : List UInt8) : Frame :=
  frame.write (dhcpHeaderAt + 108) (text.take 127 ++ [0])

/-- The fields that do not depend on the mode. -/
def replyHeader (conf : DhcpConf) (iface : DhcpIface) (frame : Frame) :
    Frame :=
  let client := frame.bytesAt 6 6
  let frame := (frame.write 0 client).write 6 iface.ownMac.toList
  let frame := frame.write 26 conf.serverIp
  let frame := (frame.writeBe16 36 68).writeBe16 34 67
  let frame := frame.write dhcpHeaderAt [dpBootpReply]
  let frame := frame.writeBe32 (dhcpHeaderAt + 236) 0x63825363
  let frame := frame.writeBe32 (dhcpHeaderAt + 16) iface.ownIp
  let frame := frame.write (dhcpHeaderAt + 24) conf.serverIp
  frame.write (dhcpHeaderAt + 28) client

def bootHeader (conf : DhcpConf) (iface : DhcpIface) (pxeMode : PxeMode)
    (frame : Frame) : Option Frame :=
  let boots (pxeIp : Ipv4) : Frame :=
    ((frame.write 0 (List.replicate 6 255)).write 30
      [255, 255, 255, 255]).writeBe32 (dhcpHeaderAt + 20) pxeIp
  match pxeMode, iface.pxeIp with
  | .none, _ => some ((frame.writeBe32 30 iface.ownIp).write (dhcpHeaderAt + 20) conf.serverIp)
  | _, .v6 _ => none
  | .tftp, .v4 pxeIp => some (writeFile (boots pxeIp) pxeTftpPath)
  | .http, .v4 pxeIp =>
    some (writeFile (boots pxeIp) (ascii "http://" ++ conf.ipText iface.pxeIp ++ iface.pxeStr))

def envelope (optionsLen : Nat) (frame : Frame) : Frame :=
  let headerSize := 240 + optionsLen
  let frame := frame.writeBe16 24 0
  let frame := frame.writeBe16 16 (20 + 8 + headerSize).toUInt16
  let frame := frame.writeBe16 38 (8 + headerSize).toUInt16
  frame.writeBe16 40 0

/-- What becomes of a packet.  A reply comes with the address that the port has
learned from an acknowledged client. -/
inductive DhcpVerdict where
  | drop
  | abort
  | reply (frame : Frame) (neighMac : Option (List UInt8))

def finishReply (request header : Frame) (options : List UInt8) : Frame :=
  { header with
    data := (envelope options.length header).data ++ options
    stale := fun index => request.byteAt (optionsAt + options.length + index)
    olFlags := txIpv4 ||| txIpCksum ||| txUdpCksum
    txOffload := ⟨14, 20, 8, 0, 0⟩ }

def respond (conf : DhcpConf) (iface : DhcpIface) (pxeMode : PxeMode)
    (responseType : UInt8) (frame : Frame) : DhcpVerdict :=
  let header := { frame with data := frame.data.take optionsAt }
  match bootHeader conf iface pxeMode (replyHeader conf iface header) with
  | none => .abort
  | some header =>
    match addDhcpOptions conf iface responseType pxeMode with
    | none => .drop
    | some options =>
      if 65535 < optionsAt + options.length then .drop
      else
        .reply (finishReply frame header options)
          (if responseType = dhcpAck then some (frame.bytesAt 6 6)
          else none)

def responseType (msgType : UInt8) : Option UInt8 :=
  if msgType = dhcpDiscover then some dhcpOffer
  else if msgType = dhcpRequest then some dhcpAck
  else none

/-- Frames that are dropped before their options are looked at. -/
def refusedEarly (iface : DhcpIface) (frame : Frame) : Bool :=
  frame.data.length < optionsAt || iface.ownIp = 0 || frame.byteAt dhcpHeaderAt ≠ dpBootpRequest

def dhcpGetNextIndex (conf : DhcpConf) (iface : DhcpIface) (pxeMode : PxeMode)
    (frame : Frame) : PxeMode × DhcpVerdict :=
  if refusedEarly iface frame then (pxeMode, .drop)
  else
    let parsed := parseOptions frame pxeMode
    (parsed.pxeMode,
      match parsed.message? with
      | none => .drop
      | some (msgType, pxeMode) =>
        match responseType msgType with
        | none => .drop
        | some responseType => respond conf iface pxeMode responseType frame)

/-! ## The size of a reply -/

def encodeOptions (options : List (UInt8 × List UInt8)) : List UInt8 :=
  options.flatMap fun option => option.1 :: option.2.length.toUInt8 :: option.2

theorem foldlM_addDhcpOption (options : List (UInt8 × List UInt8)) (written : List UInt8)
    (room : written.length + (encodeOptions options).length < dhcpMaxOptionsLen) :
    options.foldlM addDhcpOption written = some (written ++ encodeOptions options) := by
  induction options generalizing written with
  | nil => simp [encodeOptions]
  | cons option options ih =>
    have split : encodeOptions (option :: options) =
          (option.1 :: option.2.length.toUInt8 :: option.2) ++
            encodeOptions options := rfl
    rw [split, List.length_append, List.length_cons, List.length_cons] at room
    rw [List.foldlM_cons, addDhcpOption, if_neg (by omega)]
    change options.foldlM addDhcpOption _ = _
    rw [ih _ (by simp; omega), split, List.append_assoc]

section Size

variable (conf : DhcpConf) (iface : DhcpIface)

theorem length_serverIp : conf.serverIp.length = 4 :=
  length_beBytes 4 _

theorem length_classlessRoute : conf.classlessRoute.length ≤ 20 := by
  rw [DhcpConf.classlessRoute]
  split
  · simp [length_serverIp]
  · simp [length_serverIp]

def routerLen (pxeMode : PxeMode) : Nat :=
  if pxeMode = .none then 0 else 6

theorem routerLen_le (pxeMode : PxeMode) : routerLen pxeMode ≤ 6 := by
  unfold routerLen
  split
  · decide
  · decide

def commonLen : Nat :=
  (encodeOptions (replyOptions conf iface 0 .none)).length

theorem length_encodeOptions_replyOptions (msgType : UInt8) (pxeMode : PxeMode) :
    (encodeOptions (replyOptions conf iface msgType pxeMode)).length =
      commonLen conf iface + routerLen pxeMode := by
  unfold commonLen replyOptions routerLen encodeOptions
  cases pxeMode with
  | none => simp
  | tftp | http =>
    simp [length_serverIp]
    omega

theorem commonLen_le : commonLen conf iface ≤ 400 := by
  have dns := conf.dnsLen
  have hostname := iface.hostnameLen
  have route := length_classlessRoute conf
  have optional : ∀ (type : UInt8) (value : List UInt8),
        (encodeOptions (if value = [] then [] else [(type, value)])).length ≤ 2 + value.length := by
    intro type value
    split
    · exact Nat.zero_le _
    · simp [encodeOptions]
      omega
  have dnsOption := optional dhcpOptDns conf.dns
  have hostnameOption := optional dhcpOptHostname iface.hostname
  unfold encodeOptions at dnsOption hostnameOption
  unfold commonLen replyOptions encodeOptions
  rw [List.flatMap_append, List.flatMap_append, List.flatMap_append]
  simp [length_serverIp, length_beBytes] at dnsOption hostnameOption ⊢
  omega

def optionsOfReply (pxeMode : PxeMode) (type : UInt8) : List UInt8 :=
  encodeOptions (replyOptions conf iface type pxeMode) ++ [dhcpOptEnd]

theorem length_optionsOfReply (pxeMode : PxeMode) (type : UInt8) :
    (optionsOfReply conf iface pxeMode type).length =
      commonLen conf iface + routerLen pxeMode + 1 := by
  rw [optionsOfReply, List.length_append, length_encodeOptions_replyOptions conf iface]
  rfl

theorem addDhcpOptions_eq (msgType : UInt8) (pxeMode : PxeMode) :
    addDhcpOptions conf iface msgType pxeMode =
      some (optionsOfReply conf iface pxeMode msgType) := by
  have length := length_encodeOptions_replyOptions conf iface msgType pxeMode
  have common := commonLen_le conf iface
  have router := routerLen_le pxeMode
  have most : dhcpMaxOptionsLen = 1218 := rfl
  rw [addDhcpOptions, foldlM_addDhcpOption]
  · rw [Option.bind_some, if_neg]
    · rfl
    · rw [List.nil_append]
      omega
  · rw [List.length_nil]
    omega

end Size

/-! ## Replies and what they depend on -/

inductive DhcpAnswer where
  | drop
  | abort
  | reply (bytes : List UInt8)
  deriving DecidableEq, Repr

def DhcpVerdict.answer : DhcpVerdict → DhcpAnswer
  | .drop => .drop
  | .abort => .abort
  | .reply frame _ => .reply frame.data

def SameData (first second : Frame) : Prop :=
  first.data = second.data

namespace SameData

variable {first second : Frame}

theorem setByte (same : SameData first second) (offset : Nat) (value : UInt8) :
    SameData (first.setByte offset value) (second.setByte offset value) := by
  unfold SameData Frame.setByte at *
  rw [same]
  split
  · rfl
  · rfl

theorem write (same : SameData first second) (offset : Nat) (values : List UInt8) :
    SameData (first.write offset values) (second.write offset values) := by
  induction values generalizing first second offset with
  | nil => exact same
  | cons value values ih => exact ih (same.setByte offset value) (offset + 1)

theorem bytesAt (same : SameData first second) {offset count : Nat}
    (inside : offset + count ≤ first.data.length) :
    first.bytesAt offset count = second.bytesAt offset count := by
  rw [Frame.bytesAt_eq inside, same, Frame.bytesAt_eq (same ▸ inside)]

theorem byteAt (same : SameData first second) {offset : Nat} (inside : offset < first.data.length) :
    first.byteAt offset = second.byteAt offset := by
  have bytes := @SameData.bytesAt first second same offset 1 inside
  simpa [Frame.bytesAt] using bytes

theorem replyHeader (same : SameData first second) (long : 12 ≤ first.data.length)
    (conf : DhcpConf) (iface : DhcpIface) :
    SameData (replyHeader conf iface first) (Dhcp.replyHeader conf iface second) := by
  have client : first.bytesAt 6 6 = second.bytesAt 6 6 := same.bytesAt long
  unfold Dhcp.replyHeader
  dsimp only
  rw [client]
  exact
    (((((((((same.write _ _).write _ _).write _ _).write _ _).write _ _).write
      _ _).write _ _).write _ _).write _ _).write _ _

theorem bootHeader (same : SameData first second)
    (conf : DhcpConf) (iface : DhcpIface) (pxeMode : PxeMode) :
    (bootHeader conf iface pxeMode first).map Frame.data =
      (Dhcp.bootHeader conf iface pxeMode second).map Frame.data := by
  have boots (pxeIp : Ipv4) (text : List UInt8) :=
    ((((same.write 0 (List.replicate 6 255)).write 30
      [255, 255, 255, 255]).write (dhcpHeaderAt + 20)
        (beBytes 4 pxeIp.toNat)).write (dhcpHeaderAt + 108) (text.take 127 ++ [0]))
  unfold Dhcp.bootHeader
  cases pxeMode with
  | none =>
    exact congrArg some ((same.write _ _).write _ _)
  | tftp =>
    cases iface.pxeIp with
    | v4 pxeIp => exact congrArg some (boots pxeIp _)
    | v6 _ => rfl
  | http =>
    cases iface.pxeIp with
    | v4 pxeIp => exact congrArg some (boots pxeIp _)
    | v6 _ => rfl

theorem envelope (same : SameData first second) (optionsLen : Nat) :
    SameData (envelope optionsLen first) (Dhcp.envelope optionsLen second) :=
  (((same.write _ _).write _ _).write _ _).write _ _

end SameData

section Respond

variable (conf : DhcpConf) (iface : DhcpIface) (pxeMode : PxeMode)
variable (type : UInt8)

def headerOfReply (frame : Frame) : Option Frame :=
  bootHeader conf iface pxeMode
    (replyHeader conf iface { frame with data := frame.data.take optionsAt })

theorem length_replyHeader (frame : Frame) :
    (replyHeader conf iface frame).data.length = frame.data.length := by
  simp [replyHeader, Frame.writeBe16, Frame.writeBe32]

theorem length_headerOfReply {frame header : Frame} (long : optionsAt ≤ frame.data.length)
    (held : headerOfReply conf iface pxeMode frame = some header) :
    header.data.length = optionsAt := by
  have length :
      (replyHeader conf iface
        { frame with data := frame.data.take optionsAt }).data.length =
          optionsAt := by
    rw [length_replyHeader, List.length_take_of_le long]
  unfold headerOfReply bootHeader at held
  split at held
  · rw [← Option.some.inj held]
    simp only [Frame.writeBe32, Frame.length_data_write, length]
  · cases held
  · rw [← Option.some.inj held]
    simp only [writeFile, Frame.writeBe32, Frame.length_data_write, length]
  · rw [← Option.some.inj held]
    simp only [writeFile, Frame.writeBe32, Frame.length_data_write, length]

theorem respond_answer (frame : Frame) : (respond conf iface pxeMode type frame).answer =
      ((headerOfReply conf iface pxeMode frame).elim .abort fun header =>
        .reply
          ((envelope (optionsOfReply conf iface pxeMode type).length header).data ++
            optionsOfReply conf iface pxeMode type)) := by
  have length := length_optionsOfReply conf iface pxeMode type
  have common := commonLen_le conf iface
  have router := routerLen_le pxeMode
  have small : ¬ 65535 < optionsAt + (optionsOfReply conf iface pxeMode type).length := by
    rw [length, optionsAt]
    omega
  unfold respond
  rw [addDhcpOptions_eq]
  change
    DhcpVerdict.answer
        (match headerOfReply conf iface pxeMode frame with
          | none => _
          | some header => _) = _
  cases headerOfReply conf iface pxeMode frame with
  | none => rfl
  | some header =>
    dsimp only
    rw [if_neg small]
    rfl

theorem respond_sameData {first second : Frame} (same : SameData first second)
    (long : optionsAt ≤ first.data.length) :
    (respond conf iface pxeMode type first).answer =
      (respond conf iface pxeMode type second).answer := by
  have headers :
      SameData { first with data := first.data.take optionsAt }
        { second with data := second.data.take optionsAt } := by
    unfold SameData at *
    rw [same]
  have enough :
      12 ≤ ({ first with data := first.data.take optionsAt } : Frame).data.length := by
    rw [List.length_take_of_le long]
    decide
  have booted := (headers.replyHeader enough conf iface).bootHeader conf iface pxeMode
  rw [respond_answer, respond_answer]
  change
    (headerOfReply conf iface pxeMode first).map Frame.data =
      (headerOfReply conf iface pxeMode second).map Frame.data at booted
  cases header : headerOfReply conf iface pxeMode first with
  | none =>
    rw [header, Option.map_none, eq_comm, Option.map_eq_none_iff] at booted
    rw [booted]
  | some one => ?_
  rw [header, Option.map_some, eq_comm, Option.map_eq_some_iff] at booted
  obtain ⟨other, held, data⟩ := booted
  have equal : SameData one other := data.symm
  have enveloped := equal.envelope (optionsOfReply conf iface pxeMode type).length
  rw [held, Option.elim_some, Option.elim_some, enveloped]

theorem respond_ne_drop (frame : Frame) :
    (respond conf iface pxeMode type frame).answer ≠ .drop := by
  rw [respond_answer]
  cases headerOfReply conf iface pxeMode frame with
  | none => exact nofun
  | some header => exact nofun

theorem respond_ne_of_mode (mode : PxeMode) (boots : mode ≠ .none) (frame : Frame)
    (long : optionsAt ≤ frame.data.length) :
    (respond conf iface .none type frame).answer ≠ (respond conf iface mode type frame).answer := by
  have served : ∃ header, headerOfReply conf iface .none frame = some header := ⟨_, rfl⟩
  obtain ⟨header, held⟩ := served
  rw [respond_answer, respond_answer, held, Option.elim_some]
  cases booted : headerOfReply conf iface mode frame with
  | none => exact nofun
  | some other => ?_
  rw [Option.elim_some]
  intro equal
  have bytes := DhcpAnswer.reply.inj equal
  have lengths := congrArg List.length bytes
  simp only [List.length_append, length_optionsOfReply, envelope,
    Frame.writeBe16, Frame.length_data_write, length_headerOfReply conf iface _ long held,
    length_headerOfReply conf iface _ long booted, routerLen, boots, if_true, if_false] at lengths
  omega

end Respond

/-! ## Requests after other requests -/

structure DhcpPacket where
  iface : DhcpIface
  frame : Frame

def dhcpMachine (conf : DhcpConf) : Machine PxeMode DhcpPacket where
  init := .none
  step := fun pxeMode packet => (dhcpGetNextIndex conf packet.iface pxeMode packet.frame).1

def Survives (conf : DhcpConf) (pxeMode : PxeMode) (packet : DhcpPacket) :
    Prop :=
  (dhcpGetNextIndex conf packet.iface pxeMode packet.frame).2.answer ≠ .abort

def answerAfter (conf : DhcpConf) (history : List DhcpPacket) (packet : DhcpPacket) :
    DhcpAnswer :=
  (dhcpGetNextIndex conf packet.iface ((dhcpMachine conf).run history) packet.frame).2.answer

/-- The answer is the same after any packets, also if they have left other
bytes behind the frame. -/
def Uninfluenced (conf : DhcpConf) (iface : DhcpIface) (frame : Frame) :
    Prop :=
  ∀ (first second : List DhcpPacket) (one other : Frame),
    (dhcpMachine conf).Along (Survives conf) .none first →
    (dhcpMachine conf).Along (Survives conf) .none second →
    SameData one frame → SameData other frame →
      answerAfter conf first ⟨iface, one⟩ = answerAfter conf second ⟨iface, other⟩

/-- The request is dropped whatever the mode is, or sets the mode itself. -/
def SelfContained (iface : DhcpIface) (frame : Frame) : Prop :=
  refusedEarly iface frame = true ∨
    match looseParse .none (optionBytes frame) with
    | none => True
    | some (none, _) => False
    | some (some msgType, pxeMode) => responseType msgType = none ∨ pxeMode ≠ .none

section Influence

variable (conf : DhcpConf) (iface : DhcpIface)

theorem refusedEarly_sameData {first second : Frame} (same : SameData first second) :
    refusedEarly iface first = refusedEarly iface second := by
  unfold refusedEarly
  by_cases short : first.data.length < optionsAt
  · have also : second.data.length < optionsAt := same ▸ short
    simp [short, also]
  have equal : first.byteAt dhcpHeaderAt = second.byteAt dhcpHeaderAt := by
    refine same.byteAt ?_
    have offsets : dhcpHeaderAt < optionsAt := by decide
    omega
  rw [equal, same]

theorem dhcpGetNextIndex_answer (pxeMode : PxeMode) (frame : Frame) :
    (dhcpGetNextIndex conf iface pxeMode frame).2.answer =
      if refusedEarly iface frame then .drop
      else
        ((parseOptions frame pxeMode).message?).elim .drop fun message =>
          (responseType message.1).elim .drop fun type =>
            (respond conf iface message.2 type frame).answer := by
  unfold dhcpGetNextIndex
  split
  · rfl
  dsimp only
  cases (parseOptions frame pxeMode).message? with
  | none => rfl
  | some message => ?_
  obtain ⟨msgType, mode⟩ := message
  dsimp only [Option.elim_some]
  cases responseType msgType with
  | none => rfl
  | some type => rfl

theorem dhcpGetNextIndex_mode (pxeMode : PxeMode) {frame : Frame}
    (served : refusedEarly iface frame = false) :
    (dhcpGetNextIndex conf iface pxeMode frame).1 = (parseOptions frame pxeMode).pxeMode := by
  rw [dhcpGetNextIndex, served]
  rfl

theorem dhcpGetNextIndex_served (pxeMode : PxeMode) {frame : Frame}
    (served : refusedEarly iface frame = false) :
    (dhcpGetNextIndex conf iface pxeMode frame).2.answer =
      ((parseOptions frame pxeMode).message?).elim .drop fun message =>
        (responseType message.1).elim .drop fun type =>
          (respond conf iface message.2 type frame).answer := by
  rw [dhcpGetNextIndex_answer, served]
  rfl

theorem dhcpMachine_run_singleton (packet : DhcpPacket) : (dhcpMachine conf).run [packet] =
      (dhcpGetNextIndex conf packet.iface .none packet.frame).1 :=
  rfl

def bootRequest : DhcpPacket where
  iface :=
    { ownMac := Vector.replicate 6 0
      ownIp := 1
      ownIpv6 := Ipv6.zero
      pxeIp := .v4 0
      pxeStr := []
      pxeStrLen := by decide
      hostname := []
      hostnameLen := by decide }
  frame :=
    { frameWithOptions ([dhcpOptUserClass, 4] ++ userClassText) with
      data :=
        List.replicate dhcpHeaderAt 0 ++
          dpBootpRequest :: (List.replicate 239 0 ++ [dhcpOptUserClass, 4] ++ userClassText) }

theorem bootRequest_mode : (dhcpMachine conf).run [bootRequest] = .http ∧
      (dhcpMachine conf).Along (Survives conf) .none [bootRequest] := by
  have served : refusedEarly bootRequest.iface bootRequest.frame = false := by
    decide +kernel
  have parsed : (parseOptions bootRequest.frame .none).pxeMode = .http ∧
        (parseOptions bootRequest.frame .none).message? = none := by
    decide +kernel
  constructor
  · rw [dhcpMachine_run_singleton, dhcpGetNextIndex_mode conf _ .none served]
    exact parsed.1
  refine ⟨?_, trivial⟩
  unfold Survives
  rw [dhcpGetNextIndex_served conf _ .none served, parsed.2]
  exact nofun

theorem parseOptions_message? (pxeMode : PxeMode) (frame : Frame) :
    (parseOptions frame pxeMode).message? =
      (looseParse .none (optionBytes frame)).map fun found =>
        (found.1.getD (frame.stale 0),
          if found.2 = .none then pxeMode else found.2) := by
  have spec := parseOptions_spec frame pxeMode
  rw [looseParse_mode] at spec
  cases loose : looseParse .none (optionBytes frame) with
  | none =>
    rw [loose] at spec
    exact spec.1
  | some found => ?_
  obtain ⟨byte, mode⟩ := found
  rw [loose] at spec
  cases byte with
  | none => exact spec.1
  | some msgType => exact spec.1

theorem answerAfter_of_served {frame one : Frame} (same : SameData one frame)
    (served : refusedEarly iface frame = false) (history : List DhcpPacket) :
    answerAfter conf history ⟨iface, one⟩ =
      (looseParse .none (optionBytes frame)).elim .drop fun found =>
        (responseType (found.1.getD (one.stale 0))).elim .drop fun type =>
          (respond conf iface
            (if found.2 = .none then (dhcpMachine conf).run history
              else found.2)
            type frame).answer := by
  have unrefused : refusedEarly iface one = false := (refusedEarly_sameData iface same).trans served
  have long : optionsAt ≤ one.data.length := by
    rw [refusedEarly, Bool.or_eq_false_iff, Bool.or_eq_false_iff] at unrefused
    simpa using unrefused.1.1
  have bytes : optionBytes one = optionBytes frame := by
    rw [optionBytes, optionBytes, same]
  rw [answerAfter, dhcpGetNextIndex_served conf iface _ unrefused, parseOptions_message?, bytes]
  generalize looseParse .none (optionBytes frame) = loose
  cases loose with
  | none => rfl
  | some found => ?_
  rw [Option.map_some, Option.elim_some, Option.elim_some]
  dsimp only
  cases responseType (found.1.getD (one.stale 0)) with
  | none => rw [Option.elim_none, Option.elim_none]
  | some type =>
    rw [Option.elim_some, Option.elim_some]
    exact respond_sameData conf iface _ type same long

/-- A request is answered independently of the requests before exactly if it is
dropped in any case or has a PXE class of its own. -/
theorem uninfluenced_iff (frame : Frame) :
    Uninfluenced conf iface frame ↔ SelfContained iface frame := by
  unfold SelfContained
  cases served : refusedEarly iface frame with
  | true =>
    refine iff_of_true ?_ (Or.inl rfl)
    intro first second one other _ _ sameOne sameOther
    rw [answerAfter, answerAfter, dhcpGetNextIndex_answer,
      dhcpGetNextIndex_answer, refusedEarly_sameData iface sameOne,
      refusedEarly_sameData iface sameOther, served]
    rfl
  | false => ?_
  have long : optionsAt ≤ frame.data.length := by
    rw [refusedEarly, Bool.or_eq_false_iff, Bool.or_eq_false_iff] at served
    simpa using served.1.1
  simp only [Bool.false_eq_true, false_or]
  have answers := @answerAfter_of_served conf iface frame
  cases loose : looseParse .none (optionBytes frame) with
  | none =>
    refine iff_of_true ?_ trivial
    intro first second one other _ _ sameOne sameOther
    rw [answers sameOne served, answers sameOther served, loose]
    rfl
  | some found => ?_
  obtain ⟨byte, mode⟩ := found
  cases byte with
  | none =>
    refine iff_of_false ?_ id
    intro uninfluenced
    -- the type of the message is what another packet has left
    let one : Frame := { frame with stale := fun _ => dhcpDiscover }
    let other : Frame := { frame with stale := fun _ => dhcpOffer }
    have sameOne : SameData one frame := rfl
    have sameOther : SameData other frame := rfl
    have equal := uninfluenced [] [] one other trivial trivial sameOne sameOther
    rw [answers sameOne served, answers sameOther served, loose,
      Option.elim_some, Option.elim_some] at equal
    have offered : responseType ((none : Option UInt8).getD (one.stale 0)) =
          some dhcpOffer := rfl
    have ignored : responseType ((none : Option UInt8).getD (other.stale 0)) =
          none := rfl
    dsimp only at equal
    rw [offered, ignored, Option.elim_some, Option.elim_none] at equal
    exact respond_ne_drop conf iface _ _ frame equal
  | some msgType =>
    cases answered : responseType msgType with
    | none =>
      refine iff_of_true ?_ (Or.inl answered)
      intro first second one other _ _ sameOne sameOther
      rw [answers sameOne served, answers sameOther served, loose,
        Option.elim_some, Option.elim_some]
      dsimp only [Option.getD_some]
      rw [answered, Option.elim_none, Option.elim_none]
    | some type => ?_
    have reply {one : Frame} (same : SameData one frame) (history : List DhcpPacket) :=
      answers same served history
    simp only [loose, Option.elim_some, Option.getD_some, answered] at reply
    by_cases unset : mode = .none
    · refine iff_of_false ?_ (by simp [unset, answered])
      intro uninfluenced
      have boots := bootRequest_mode conf
      have equal :=
        uninfluenced [] [bootRequest] frame frame trivial boots.2
          rfl rfl
      rw [reply rfl, reply rfl, if_pos unset, if_pos unset, boots.1] at equal
      exact respond_ne_of_mode conf iface type .http nofun frame long equal
    · refine iff_of_true ?_ (Or.inr unset)
      intro first second one other _ _ sameOne sameOther
      rw [reply sameOne, reply sameOther, if_neg unset, if_neg unset]

def plainConf : DhcpConf where
  gwIp4 := 0xa9fe0001
  gwIp6 := Ipv6.zero
  mtu := 1500
  dns := []
  dnsLen := by decide
  dns6 := []
  dns6Len := by decide
  virtsvc := false
  ipText := fun _ => []
  ipTextLen := fun _ => by decide

def plainDiscover : DhcpPacket where
  iface := bootRequest.iface
  frame :=
    { bootRequest.frame with
      data :=
        List.replicate dhcpHeaderAt 0 ++ dpBootpRequest ::
            (List.replicate 239 0 ++ [dhcpOptMessageType, 1, dhcpDiscover, dhcpOptEnd]) }

theorem plainDiscover_influenced : answerAfter plainConf [] plainDiscover ≠ .drop ∧
      answerAfter plainConf [bootRequest] plainDiscover ≠ .drop ∧
      answerAfter plainConf [] plainDiscover ≠
        answerAfter plainConf [bootRequest] plainDiscover := by
  decide +kernel

end Influence

end DpService.Dhcp

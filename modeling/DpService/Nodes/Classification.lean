import DpService.Nodes.FlowSteps

/-!
# What `conntrack` reads

The bytes behind the IP header that a packet is classified by are windows of
its frame at fixed places.  Where the header says that the payload starts
somewhere else, where the packet is a later fragment or where the frame ends
before, these windows are not what the classification is supposed to read.
-/

namespace DpService.Nodes

open Foundations Packet Dataplane Flow

variable {offset : Nat} {df : DpFlow}

/-! ## Windows -/

abbrev Window := Nat × Nat

def Window.Inside (frame : Frame) (window : Window) : Prop :=
  window.1 + window.2 ≤ frame.data.length

instance (frame : Frame) (window : Window) :
    Decidable (window.Inside frame) :=
  inferInstanceAs (Decidable (_ ≤ _))

def l3Windows (l3Type : UInt16) : List Window :=
  if l3Type = etherTypeIpv4 then [(23, 1), (26, 4), (30, 4)]
  else [(20, 1), (22, 16), (38, 16)]

def quotedWindows (frame : Frame) (hdr : Nat) : List Window :=
  let l4 := hdr + (frame.byteAt hdr &&& 0x0f).toNat * 4
  (hdr + 9, 1) ::
    if frame.byteAt (hdr + 9) = ipprotoTcp ∨
        frame.byteAt (hdr + 9) = ipprotoUdp then
      [(hdr, 1), (hdr + 12, 4), (hdr + 16, 4), (l4, 2), (l4 + 2, 2)]
    else []

def errorWindows (frame : Frame) (l4 : Nat) : List Window :=
  (l4, 1) ::
    if frame.byteAt l4 = icmpTypeError then quotedWindows frame (l4 + icmpHdrLen)
    else []

def l4Windows (proto : UInt8) (l4 : Nat) : List Window :=
  if proto = ipprotoTcp then [(l4, 2), (l4 + 2, 2), (l4 + 13, 1)]
  else if proto = ipprotoUdp then [(l4, 2), (l4 + 2, 2)]
  else [(l4, 2), (l4 + 4, 2)]

/-- The windows for a payload at `l4`, where an ICMP error is looked for at
`error`. -/
def payloadWindows (proto : UInt8) (frame : Frame) (l4 error : Nat) : List Window :=
  l4Windows proto l4 ++
    if proto = ipprotoIcmp ∧ frame.byteAt l4 = icmpTypeError then errorWindows frame error
    else []

def Agree (windows : List Window) (first second : Frame) : Prop :=
  ∀ window ∈ windows, second.bytesAt window.1 window.2 = first.bytesAt window.1 window.2

section Agreement

variable {windows : List Window} {first second : Frame}

theorem Agree.byteAt (agree : Agree windows first second) (member : (offset, 1) ∈ windows) :
    second.byteAt offset = first.byteAt offset := by
  have same := agree _ member
  simpa [Frame.bytesAt] using same

theorem Agree.be16At (agree : Agree windows first second) (member : (offset, 2) ∈ windows) :
    second.be16At offset = first.be16At offset := by
  rw [Frame.be16At, Frame.be16At, agree _ member]

theorem Agree.be32At (agree : Agree windows first second) (member : (offset, 4) ∈ windows) :
    second.be32At offset = first.be32At offset := by
  rw [Frame.be32At, Frame.be32At, agree _ member]

theorem Agree.ipv6At (agree : Agree windows first second) (member : (offset, 16) ∈ windows) :
    second.ipv6At offset = first.ipv6At offset := by
  rw [Frame.ipv6At, Frame.ipv6At, agree _ member]

theorem Agree.left {more : List Window} (agree : Agree (windows ++ more) first second) :
    Agree windows first second :=
  fun window member => agree window (List.mem_append_left more member)

theorem Agree.right {more : List Window} (agree : Agree (windows ++ more) first second) :
    Agree more first second :=
  fun window member => agree window (List.mem_append_right windows member)

end Agreement

def protoOf (m : Mbuf) : UInt8 :=
  if m.df.l3Type = etherTypeIpv4 then ipv4Proto m.frame else ipv6Proto m.frame

/-- Where the payload is taken to start. -/
def assumedL4 (l3Type : UInt16) : Nat :=
  if l3Type = etherTypeIpv4 then l4Of4 else l4Of6

/-- Where the payload starts by the length of the header.  An IPv6 header has
no such field, and a packet with extension headers is dropped. -/
def headerL4 (m : Mbuf) : Nat :=
  if m.df.l3Type = etherTypeIpv4 then etherHdrLen + ipv4HdrLenOf m.frame
  else l4Of6

def FirstFragment (m : Mbuf) : Prop :=
  m.df.l3Type = etherTypeIpv4 → m.frame.be16At 20 &&& 0x1fff = 0

/-- The windows that a packet is classified by.  An ICMP error is looked for
behind an IPv4 header, whatever the packet is. -/
def readWindows (m : Mbuf) : List Window :=
  l3Windows m.df.l3Type ++ payloadWindows (protoOf m) m.frame (assumedL4 m.df.l3Type) l4Of4

def headerWindows (m : Mbuf) : List Window :=
  l3Windows m.df.l3Type ++ payloadWindows (protoOf m) m.frame (headerL4 m) (headerL4 m)

/-! ## Nothing else is read -/

section Dependence

variable {first second : Frame} {l4 : Nat}

theorem dpExtractL4Header_agree (agree : Agree (l4Windows df.l4Type l4) first second) :
    dpExtractL4Header df second l4 = dpExtractL4Header df first l4 := by
  rw [dpExtractL4Header, dpExtractL4Header]
  by_cases transport : df.l4Type = ipprotoTcp ∨ df.l4Type = ipprotoUdp
  · have ports : (l4, 2) ∈ l4Windows df.l4Type l4 ∧ (l4 + 2, 2) ∈ l4Windows df.l4Type l4 := by
      rw [l4Windows]
      rcases transport with tcp | udp
      · simp [tcp]
      have notTcp : df.l4Type ≠ ipprotoTcp := by
        rw [udp]
        decide
      rw [if_neg notTcp, if_pos udp]
      simp
    rw [if_pos transport, if_pos transport, agree.be16At ports.1, agree.be16At ports.2]
  rw [if_neg transport, if_neg transport]
  rw [not_or] at transport
  rw [l4Windows, if_neg transport.1, if_neg transport.2] at agree
  rw [agree.be16At (by simp), agree.be16At (by simp)]

theorem dpExtractIpv4Header_agree (agree : Agree (l3Windows etherTypeIpv4) first second) :
    dpExtractIpv4Header df second = dpExtractIpv4Header df first := by
  rw [l3Windows, if_pos rfl] at agree
  have src : ipv4Src second = ipv4Src first := agree.be32At (by simp)
  have dst : ipv4Dst second = ipv4Dst first := agree.be32At (by simp)
  have proto : ipv4Proto second = ipv4Proto first := agree.byteAt (by simp)
  rw [dpExtractIpv4Header, dpExtractIpv4Header, src, dst, proto]

theorem dpExtractIpv6Header_agree (agree : Agree (l3Windows etherTypeIpv6) first second) :
    dpExtractIpv6Header df second = dpExtractIpv6Header df first := by
  rw [l3Windows, if_neg (by decide)] at agree
  have src : ipv6Src second = ipv6Src first := agree.ipv6At (by simp)
  have dst : ipv6Dst second = ipv6Dst first := agree.ipv6At (by simp)
  have proto : ipv6Proto second = ipv6Proto first := agree.byteAt (by simp)
  rw [dpExtractIpv6Header, dpExtractIpv6Header, src, dst, proto]

theorem dpGetIcmpErrIpHdr_agree
    {df : DpFlow} (agree : Agree (errorWindows first l4Of4) first second) :
    dpGetIcmpErrIpHdr df second = dpGetIcmpErrIpHdr df first ∧
      (first.byteAt l4Of4 = icmpTypeError → errProto second = errProto first ∧
          (errProto first = ipprotoTcp ∨ errProto first = ipprotoUdp →
            errSrc second = errSrc first ∧ errDst second = errDst first)) := by
  rw [errorWindows] at agree
  have type : second.byteAt l4Of4 = first.byteAt l4Of4 := agree.byteAt List.mem_cons_self
  rw [dpGetIcmpErrIpHdr, dpGetIcmpErrIpHdr, type]
  by_cases error : first.byteAt l4Of4 = icmpTypeError
  · rw [if_pos error, quotedWindows] at agree
    have proto : errProto second = errProto first :=
      agree.byteAt (List.mem_cons_of_mem _ List.mem_cons_self)
    rw [proto]
    by_cases transport : errProto first = ipprotoTcp ∨ errProto first = ipprotoUdp
    · have quoted : first.byteAt (l4Of4 + icmpHdrLen + 9) = ipprotoTcp ∨
          first.byteAt (l4Of4 + icmpHdrLen + 9) = ipprotoUdp := transport
      rw [if_pos quoted] at agree
      have length : second.byteAt errIpv4Hdr = first.byteAt errIpv4Hdr :=
        agree.byteAt (by simp [errIpv4Hdr])
      have l4 : errL4 second = errL4 first := by
        rw [errL4, errL4, length]
      have srcPort : second.be16At (errL4 first) = first.be16At (errL4 first) :=
        agree.be16At (by simp [errL4, errIpv4Hdr])
      have dstPort : second.be16At (errL4 first + 2) = first.be16At (errL4 first + 2) :=
        agree.be16At (by simp [errL4, errIpv4Hdr])
      rw [l4, srcPort, dstPort]
      refine ⟨rfl, fun _ => ⟨rfl, fun _ => ⟨?_, ?_⟩⟩⟩
      · exact agree.be32At (by simp [errIpv4Hdr])
      · exact agree.be32At (by simp [errIpv4Hdr])
    · rw [if_neg transport, if_neg transport]
      exact ⟨rfl, fun _ => ⟨rfl, fun also => absurd also transport⟩⟩
  have noError : ¬ (df.l4Type = ipprotoIcmp ∧ first.byteAt l4Of4 = icmpTypeError) :=
    fun both => error both.2
  rw [if_neg noError, if_neg noError]
  exact ⟨rfl, fun also => absurd also error⟩

theorem quoted_of_usable {frame : Frame} (usable : (dpGetIcmpErrIpHdr df frame).usable = true) :
    frame.byteAt l4Of4 = icmpTypeError ∧
      (errProto frame = ipprotoTcp ∨ errProto frame = ipprotoUdp) := by
  rw [dpGetIcmpErrIpHdr] at usable
  split at usable
  · rename_i error
    split at usable
    · rename_i transport
      exact ⟨error.2, transport⟩
    · exact absurd usable (by decide)
  · exact absurd usable (by decide)

theorem dpBuildIcmpFlowKey_agree {key : FlowKey}
    (agree : df.l4Info.icmpType = icmpTypeError → Agree (errorWindows first l4Of4) first second) :
    dpBuildIcmpFlowKey df key second = dpBuildIcmpFlowKey df key first := by
  rw [dpBuildIcmpFlowKey, dpBuildIcmpFlowKey]
  by_cases error : df.l4Info.icmpType = icmpTypeError ∧ df.l4Info.icmpCode ∈ icmpErrorCodes
  · obtain ⟨info, quoted⟩ := @dpGetIcmpErrIpHdr_agree _ _ df (agree error.1)
    rw [if_pos error, if_pos error, info]
    by_cases usable : (dpGetIcmpErrIpHdr df first).usable = true
    · obtain ⟨isError, transport⟩ := quoted_of_usable usable
      obtain ⟨proto, addresses⟩ := quoted isError
      obtain ⟨src, dst⟩ := addresses transport
      rw [proto, src, dst]
    · dsimp only
      rw [if_neg usable, if_neg usable]
  · rw [if_neg error, if_neg error]

theorem buildKeyPorts_agree {key : FlowKey}
    (agree : df.l4Type = ipprotoIcmp → df.l4Info.icmpType = icmpTypeError →
      Agree (errorWindows first l4Of4) first second) :
    buildKeyPorts df key second = buildKeyPorts df key first := by
  rw [buildKeyPorts, buildKeyPorts]
  by_cases icmp : df.l4Type = ipprotoIcmp
  · rw [if_pos icmp, if_pos icmp, dpBuildIcmpFlowKey_agree (agree icmp)]
  · rw [if_neg icmp, if_neg icmp]

end Dependence

theorem icmpType_be16At (frame : Frame) (offset : Nat) (second : UInt16) :
    (L4Info.mk (frame.be16At offset) second).icmpType = frame.byteAt offset := by
  have high := (frame.byteAt offset).toNat_lt
  have low := (frame.byteAt (offset + 1)).toNat_lt
  have bytes : frame.bytesAt offset 2 =
      [frame.byteAt offset, frame.byteAt (offset + 1)] := rfl
  apply UInt8.toNat_inj.mp
  rw [L4Info.icmpType, Frame.be16At, bytes]
  simp [beNat]
  omega

structure SameClassification (first second : Mbuf) : Prop where
  next : (extractHeaders second).2 = (extractHeaders first).2
  read : (extractHeaders first).2 = none →
    (extractHeaders second).1.df = (extractHeaders first).1.df
  key : (extractHeaders first).2 = none → ∀ env buffer,
    dpBuildFlowKey env buffer (extractHeaders second).1 =
      dpBuildFlowKey env buffer (extractHeaders first).1
  flags : (extractHeaders first).2 = none → (extractHeaders first).1.df.l4Type = ipprotoTcp →
      tcpFlags (extractHeaders second).1.df (extractHeaders second).1.frame =
        tcpFlags (extractHeaders first).1.df (extractHeaders first).1.frame

section Headers

variable {m : Mbuf} {other : Frame}

theorem dpExtractL4Header_info {read : DpFlow} {frame : Frame} {l4 : Nat}
    (result : dpExtractL4Header df frame l4 = some read) (icmp : read.l4Type = ipprotoIcmp) :
    read.l4Info.icmpType = frame.byteAt l4 := by
  rw [dpExtractL4Header] at result
  split at result
  · rename_i transport
    rw [← Option.some_inj.mp result] at icmp
    have l4Type : df.l4Type = ipprotoIcmp := icmp
    rw [l4Type] at transport
    exact absurd transport (by decide)
  split at result
  · rw [← Option.some_inj.mp result]
    exact icmpType_be16At frame l4 _
  cases result

def headersFrom (m : Mbuf) (df : DpFlow) (l4 : Nat) (serverPort : UInt16)
    (server : Node) : Mbuf × Option Node :=
  match dpExtractL4Header df m.frame l4 with
  | none => ({ m with df }, some .drop)
  | some df =>
    ({ m with df },
      if df.l4Type = ipprotoUdp ∧ df.l4Info.dstPort = serverPort then some server
      else none)

theorem extractHeaders_of_ipv4 (ipv4 : m.df.l3Type = etherTypeIpv4) : extractHeaders m =
      headersFrom m (dpExtractIpv4Header m.df m.frame) l4Of4 dpBootpSrvPort .dhcp := by
  rw [extractHeaders, if_pos ipv4]
  rfl

theorem extractHeaders_of_ipv6 (ipv6 : m.df.l3Type = etherTypeIpv6) : extractHeaders m =
      headersFrom m (dpExtractIpv6Header m.df m.frame) l4Of6 dhcpv6ServerPort .dhcpv6 := by
  have notIpv4 : m.df.l3Type ≠ etherTypeIpv4 := by
    rw [ipv6]
    decide
  rw [extractHeaders, if_neg notIpv4, if_pos ipv6]
  rfl

theorem sameClassification_of_headers {l4 : Nat} {serverPort : UInt16} {server : Node}
    (one : extractHeaders m = headersFrom m df l4 serverPort server)
    (two :
      extractHeaders { m with frame := other } =
        headersFrom { m with frame := other } df l4 serverPort server)
    (place : l4 = if df.l3Type = etherTypeIpv4 then l4Of4 else l4Of6)
    (agree : Agree (payloadWindows df.l4Type m.frame l4 l4Of4) m.frame other) :
    SameClassification m { m with frame := other } := by
  have payload : dpExtractL4Header df other l4 = dpExtractL4Header df m.frame l4 :=
    dpExtractL4Header_agree agree.left
  rw [headersFrom] at one two
  dsimp only at two
  rw [payload] at two
  cases read : dpExtractL4Header df m.frame l4 with
  | none =>
    rw [read] at one two
    dsimp only at one two
    have dropped : (extractHeaders m).2 ≠ none := by
      rw [one]
      exact nofun
    exact
      ⟨by rw [one, two], fun accepted => absurd accepted dropped,
        fun accepted => absurd accepted dropped,
        fun accepted => absurd accepted dropped⟩
  | some filled =>
    rw [read] at one two
    dsimp only at one two
    obtain ⟨l4Info, same⟩ := dpExtractL4Header_eq read
    have l4Type : filled.l4Type = df.l4Type := by
      rw [same]
    constructor
    · rw [one, two]
    · intro _
      rw [one, two]
    · intro _ env buffer
      rw [one, two, dpBuildFlowKey, dpBuildFlowKey]
      dsimp only
      split
      · rfl
      apply buildKeyPorts_agree
      intro icmp error
      rw [dpExtractL4Header_info read icmp] at error
      have windows := agree.right
      rw [if_pos ⟨l4Type ▸ icmp, error⟩] at windows
      exact windows
    intro _ tcp
    rw [one] at tcp
    rw [one, two, tcpFlags, tcpFlags]
    dsimp only at tcp ⊢
    have l3Type : filled.l3Type = df.l3Type := by
      rw [same]
    have windows := agree.left
    rw [l4Windows, if_pos (l4Type ▸ tcp)] at windows
    have flags : other.byteAt (l4 + 13) = m.frame.byteAt (l4 + 13) := windows.byteAt (by simp)
    rw [place] at flags
    rw [l3Type]
    split
    · rename_i ipv4
      rw [if_pos ipv4] at flags
      exact flags
    · rename_i notIpv4
      rw [if_neg notIpv4] at flags
      exact flags

theorem sameClassification_of_agree (ip : m.df.l3Type = etherTypeIpv4 ∨ m.df.l3Type = etherTypeIpv6)
    (agree : Agree (readWindows m) m.frame other) :
    SameClassification m { m with frame := other } := by
  rw [readWindows, protoOf, assumedL4] at agree
  rcases ip with ipv4 | ipv6
  · have two := @extractHeaders_of_ipv4 { m with frame := other } ipv4
    have kept : (dpExtractIpv4Header m.df m.frame).l3Type = etherTypeIpv4 := by
      rw [dpExtractIpv4Header, ipv4]
    rw [if_pos ipv4, if_pos ipv4, ipv4] at agree
    dsimp only at two
    rw [dpExtractIpv4Header_agree agree.left] at two
    refine sameClassification_of_headers (extractHeaders_of_ipv4 ipv4) two ?_ agree.right
    rw [if_pos kept]
  have two := @extractHeaders_of_ipv6 { m with frame := other } ipv6
  have kept : (dpExtractIpv6Header m.df m.frame).l3Type = etherTypeIpv6 := by
    rw [dpExtractIpv6Header, ipv6]
  have notIpv4 : m.df.l3Type ≠ etherTypeIpv4 := by
    rw [ipv6]
    decide
  rw [if_neg notIpv4, if_neg notIpv4, ipv6] at agree
  dsimp only at two
  rw [dpExtractIpv6Header_agree agree.left] at two
  refine sameClassification_of_headers (extractHeaders_of_ipv6 ipv6) two ?_ agree.right
  rw [kept]
  rfl

end Headers

/-! ## Where the windows should be -/

def StrayError (m : Mbuf) : Prop :=
  m.df.l3Type = etherTypeIpv6 ∧ protoOf m = ipprotoIcmp ∧ m.frame.byteAt l4Of6 = icmpTypeError

/-- A packet is classified by the bytes that its header says it should be, and
they are all there. -/
structure ReadsPayload (m : Mbuf) : Prop where
  windows : readWindows m = headerWindows m
  first : FirstFragment m
  inside : ∀ window ∈ readWindows m, Window.Inside m.frame window

theorem head_l4Windows (proto : UInt8) (l4 : Nat) :
    ∃ rest, l4Windows proto l4 = (l4, 2) :: rest := by
  rw [l4Windows]
  split
  · exact ⟨_, rfl⟩
  split
  · exact ⟨_, rfl⟩
  · exact ⟨_, rfl⟩

theorem readWindows_eq_iff {m : Mbuf}
    (ip : m.df.l3Type = etherTypeIpv4 ∨ m.df.l3Type = etherTypeIpv6) :
    readWindows m = headerWindows m ↔ headerL4 m = assumedL4 m.df.l3Type ∧ ¬ StrayError m := by
  rw [readWindows, headerWindows, List.append_cancel_left_eq, payloadWindows, payloadWindows]
  constructor
  · intro same
    obtain ⟨one, oneHead⟩ :=
      head_l4Windows (protoOf m) (assumedL4 m.df.l3Type)
    obtain ⟨two, twoHead⟩ := head_l4Windows (protoOf m) (headerL4 m)
    have heads := congrArg List.head? same
    rw [oneHead, twoHead] at heads
    have place : assumedL4 m.df.l3Type = headerL4 m := congrArg Prod.fst (Option.some_inj.mp heads)
    refine ⟨place.symm, ?_⟩
    rintro ⟨ipv6, icmp, error⟩
    have behind : headerL4 m = l4Of6 := by
      rw [headerL4, ipv6]
      rfl
    rw [place, List.append_cancel_left_eq, behind, if_pos ⟨icmp, error⟩,
      if_pos ⟨icmp, error⟩, errorWindows, errorWindows] at same
    have starts : l4Of4 = l4Of6 := congrArg Prod.fst (List.cons.inj same).1
    exact absurd starts (by decide)
  rintro ⟨place, noStray⟩
  rw [place, List.append_cancel_left_eq]
  by_cases error : protoOf m = ipprotoIcmp ∧
      m.frame.byteAt (assumedL4 m.df.l3Type) = icmpTypeError
  · rw [if_pos error, if_pos error]
    rcases ip with ipv4 | ipv6
    · rw [assumedL4, if_pos ipv4]
    · rw [assumedL4, ipv6] at error
      exact absurd ⟨ipv6, error.1, error.2⟩ noStray
  · rw [if_neg error, if_neg error]

end DpService.Nodes

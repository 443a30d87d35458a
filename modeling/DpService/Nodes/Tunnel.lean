import DpService.Dataplane.Ports

/-!
# Classification and the IP-in-IPv6 tunnel

The nodes `cls`, `ipip_decap` and `ipip_encap`.  Each takes a packet and
returns it with the edge it leaves on.
-/

namespace DpService.Nodes

open Foundations Packet Dataplane

section Fields

variable (frame : Frame)

def etherType : UInt16 :=
  frame.be16At 12

def ipv4TotalLength : UInt16 :=
  frame.be16At 16

def ipv6PayloadLen : UInt16 :=
  frame.be16At 18

def ipv6Proto : UInt8 :=
  frame.byteAt 20

def ipv6Src : Ipv6 :=
  frame.ipv6At 22

def ipv6Dst : Ipv6 :=
  frame.ipv6At 38

def isArp : Bool :=
  frame.be16At 14 == 1 && frame.byteAt 18 == 6 &&
    frame.be16At 16 == etherTypeIpv4 && frame.byteAt 19 == 4

-- 133 is a router solicitation and 135 a neighbour solicitation
def isIpv6Nd : Bool :=
  ipv6Proto frame == ipprotoIcmpv6 && (frame.byteAt 54 == 135 || frame.byteAt 54 == 133)

end Fields

/-! ## `cls` -/

def dpExtractUnderlayHeader (frame : Frame) (df : DpFlow) : DpFlow :=
  { df with
    tunInfo :=
      { df.tunInfo with
        ulSrcAddr6 := ipv6Src frame
        ulDstAddr6 := ipv6Dst frame
        protoId := ipv6Proto frame } }

def tunnelledType (proto : UInt8) : Option UInt16 :=
  if proto = ipprotoIpip then some etherTypeIpv4
  else if proto = ipprotoIpv6 then some etherTypeIpv6
  else none

def clsCleartext (m : Mbuf) : Mbuf × Node :=
  match tunnelledType (ipv6Proto m.frame) with
  | none => (m, .drop)
  | some l3Type => ({ m with df := { m.df with l3Type } }, .ipipDecap)

/-- The inbound policy: a frame's protection has to match the interface it is
addressed to. -/
def clsProtected (tables : Tables) (m : Mbuf) : Mbuf × Node :=
  match dpVnfResolveTunnelDst tables m with
  | (m, none) => (m, .drop)
  | (m, some dstPort) =>
    if dstPort.iface.encrypt ≠ (ipv6Proto m.frame == ipprotoEsp) then (m, .drop)
    else if dstPort.iface.encrypt then (m, .ipsecDecap)
    else clsCleartext m

def clsUnderlay (tables : Tables) (m : Mbuf) : Mbuf × Node :=
  if isIpv6Nd m.frame then (m, .drop)
  else
    let typed := { m.df with tunInfo := { m.df.tunInfo with l3Type := etherType m.frame } }
    let m := { m with df := dpExtractUnderlayHeader m.frame typed }
    if tables.conf.ipsecEnabled then clsProtected tables m
    else clsCleartext m

def clsIpv4 (port : Port) (m : Mbuf) : Mbuf × Node :=
  if port.isPf then (m, .drop)
  else
    ({ m with
       df :=
         { m.df with
           l3Type := etherType m.frame
           l3PayloadLength := m.frame.data.length.toUInt32 - etherHdrLen.toUInt32 } },
      .conntrack)

def clsIpv6 (tables : Tables) (port : Port) (m : Mbuf) : Mbuf × Node :=
  if port.isPf then clsUnderlay tables m
  else if isIpv6Nd m.frame then (m, .ipv6Nd)
  else ({ m with df := { m.df with l3Type := etherType m.frame } }, .conntrack)

def cls (tables : Tables) (m : Mbuf) : Mbuf × Node :=
  if m.frame.packetType &&& ptypeL2Mask ≠ ptypeL2Ether then (m, .drop)
  else
    let l3Type := m.frame.packetType &&& ptypeL3Mask
    let m := { m with df := DpFlow.zeroed }
    if l3Type = 0 then (m, if isArp m.frame then .arp else .drop)
    else
      match dpGetPortById tables.ports m.port with
      | none => (m, .drop)
      | some port =>
        if l3Type &&& ptypeL3Ipv4 ≠ 0 then clsIpv4 port m
        else if l3Type &&& ptypeL3Ipv6 ≠ 0 then clsIpv6 tables port m
        else (m, .drop)

def underlayFlow (frame : Frame) : DpFlow :=
  dpExtractUnderlayHeader frame
    { DpFlow.zeroed with tunInfo := { DpFlow.zeroed.tunInfo with l3Type := etherType frame } }

theorem dpVnfResolveTunnelDst_underlay
    (tables : Tables) {m : Mbuf} (unresolved : m.df = underlayFlow m.frame) :
    dpVnfResolveTunnelDst tables m =
      match tables.endpoint (ipv6Dst m.frame) with
      | none => (m, none)
      | some (vnf, port) =>
        ({ m with df := resolvedFlow (underlayFlow m.frame) vnf }, some port) := by
  have notYet : m.df.tunDstResolved = false := by
    rw [unresolved]
    rfl
  have destination : m.df.tunInfo.ulDstAddr6 = ipv6Dst m.frame := by
    rw [unresolved]
    rfl
  rw [dpVnfResolveTunnelDst, notYet, destination, unresolved]
  rfl

/-- Everything `cls` can do with a packet, and when. -/
inductive Classified (tables : Tables) (m : Mbuf) : Mbuf × Node → Prop
  | dropped (df : DpFlow) : Classified tables m ({ m with df }, .drop)
  | arp : Classified tables m ({ m with df := DpFlow.zeroed }, .arp)
  | neighbour (port : Port)
      (received : dpGetPortById tables.ports m.port = some port)
      (fromVf : port.isPf = false) :
      Classified tables m ({ m with df := DpFlow.zeroed }, .ipv6Nd)
  | guest (port : Port) (l3Type : UInt16) (l3PayloadLength : UInt32)
      (received : dpGetPortById tables.ports m.port = some port)
      (fromVf : port.isPf = false) :
      Classified tables m
        ({ m with df := { DpFlow.zeroed with l3Type, l3PayloadLength } }, .conntrack)
  | encrypted (inPort : Port) (vnf : Vnf) (dstPort : Port)
      (received : dpGetPortById tables.ports m.port = some inPort)
      (fromPf : inPort.isPf = true)
      (enabled : tables.conf.ipsecEnabled = true)
      (endpoint : tables.endpoint (ipv6Dst m.frame) = some (vnf, dstPort))
      (encrypting : dstPort.iface.encrypt = true)
      (esp : ipv6Proto m.frame = ipprotoEsp) :
      Classified tables m
        ({ m with df := resolvedFlow (underlayFlow m.frame) vnf }, .ipsecDecap)
  | clearResolved (inPort : Port) (vnf : Vnf) (dstPort : Port)
      (l3Type : UInt16)
      (received : dpGetPortById tables.ports m.port = some inPort)
      (fromPf : inPort.isPf = true)
      (enabled : tables.conf.ipsecEnabled = true)
      (endpoint : tables.endpoint (ipv6Dst m.frame) = some (vnf, dstPort))
      (cleartext : dstPort.iface.encrypt = false)
      (carried : tunnelledType (ipv6Proto m.frame) = some l3Type) :
      Classified tables m
        ({ m with
           df := { resolvedFlow (underlayFlow m.frame) vnf with l3Type } },
          .ipipDecap)
  | clearUnresolved (inPort : Port) (l3Type : UInt16)
      (received : dpGetPortById tables.ports m.port = some inPort)
      (fromPf : inPort.isPf = true)
      (disabled : tables.conf.ipsecEnabled = false)
      (carried : tunnelledType (ipv6Proto m.frame) = some l3Type) :
      Classified tables m
        ({ m with df := { underlayFlow m.frame with l3Type } }, .ipipDecap)

section Classification

variable {tables : Tables} {m : Mbuf} {port : Port}

theorem clsProtected_classified (received : dpGetPortById tables.ports m.port = some port)
    (fromPf : port.isPf = true) (enabled : tables.conf.ipsecEnabled = true) :
    Classified tables m
      (clsProtected tables { m with df := underlayFlow m.frame }) := by
  have resolution :=
    dpVnfResolveTunnelDst_underlay tables
      (show ({ m with df := underlayFlow m.frame } : Mbuf).df = underlayFlow m.frame from rfl)
  rw [clsProtected, resolution]
  cases endpoint : tables.endpoint (ipv6Dst m.frame) with
  | none => exact .dropped _
  | some resolved => ?_
  obtain ⟨vnf, dstPort⟩ := resolved
  simp only
  split
  · exact .dropped _
  rename_i matching
  split
  · rename_i encrypting
    rw [encrypting] at matching
    have esp : ipv6Proto m.frame = ipprotoEsp := by
      simpa using matching
    exact .encrypted port vnf dstPort received fromPf enabled endpoint encrypting esp
  rename_i cleartext
  rw [clsCleartext]
  split
  · exact .dropped _
  rename_i l3Type carried
  exact
    .clearResolved port vnf dstPort l3Type received fromPf enabled
      endpoint (by simpa using cleartext) carried

theorem clsUnderlay_classified (received : dpGetPortById tables.ports m.port = some port)
    (fromPf : port.isPf = true) :
    Classified tables m
      (clsUnderlay tables { m with df := DpFlow.zeroed }) := by
  rw [clsUnderlay]
  split
  · exact .dropped _
  change
    Classified tables m
      (if tables.conf.ipsecEnabled then clsProtected tables { m with df := underlayFlow m.frame }
      else clsCleartext { m with df := underlayFlow m.frame })
  split
  · rename_i enabled
    exact clsProtected_classified received fromPf enabled
  rename_i enabled
  rw [clsCleartext]
  split
  · exact .dropped _
  · rename_i l3Type carried
    exact .clearUnresolved port l3Type received fromPf (by simpa using enabled) carried

theorem cls_classified (tables : Tables) (m : Mbuf) : Classified tables m (cls tables m) := by
  unfold cls
  split
  · exact .dropped m.df
  simp only
  split
  · split
    · exact .arp
    · exact .dropped _
  split
  · exact .dropped _
  rename_i port received
  split
  · rw [clsIpv4]
    split
    · exact .dropped _
    · rename_i fromVf
      exact .guest port _ _ received (by simpa using fromVf)
  split
  · rw [clsIpv6]
    split
    · rename_i fromPf
      exact clsUnderlay_classified received fromPf
    rename_i fromVf
    split
    · exact .neighbour port received (by simpa using fromVf)
    · exact .guest port _ _ received (by simpa using fromVf)
  · exact .dropped _

end Classification

def dpFillEtherHdr (port : Port) (etherType : UInt16) : List UInt8 :=
  port.neighMac.toList ++ port.ownMac.toList ++ beBytes 2 etherType.toNat

@[simp]
theorem length_dpFillEtherHdr (port : Port) (etherType : UInt16) :
    (dpFillEtherHdr port etherType).length = etherHdrLen := by
  simp [dpFillEtherHdr, etherHdrLen]

def tunnelledPtype (proto : UInt8) : Option UInt32 :=
  if proto = ipprotoIpip then some ptypeL3Ipv4
  else if proto = ipprotoIpv6 then some ptypeL3Ipv6
  else none

/-- The frame without its tunnel header, under the destination's Ethernet
header.  The code does not check whether there is room for the latter. -/
def decapsulated (frame : Frame) (dstPort : Port) (l3Type : UInt16) (l3Ptype : UInt32) :
    Frame :=
  let inner := frame.adj (etherHdrLen + ipv6HdrLen)
  { (inner.prepend (dpFillEtherHdr dstPort l3Type)).getD inner with
    packetType := ((frame.packetType &&& ptypeInnerL4Mask) >>> 16) ||| l3Ptype ||| ptypeL2Ether }

def ipipDecap (tables : Tables) (m : Mbuf) : Mbuf × Node :=
  match dpVnfResolveTunnelDst tables m with
  | (m, none) => (m, .drop)
  | (m, some dstPort) =>
    match tunnelledPtype m.df.tunInfo.protoId with
    | none => (m, .drop)
    | some l3Ptype =>
      ({ m with
         frame := decapsulated m.frame dstPort m.df.l3Type l3Ptype },
        .conntrack)

/-! ## `ipip_encap` -/

def dpIp6VtcFlow : Nat := 0x60000000

def dpIp6HopLimit : UInt8 := 0x40

def dpGetPortUlIpv6 (conf : DpConf) (port : Port) : Ipv6 :=
  if port.iface.ready then port.iface.ulIpv6 else conf.underlayIp

/-- What `ipip_encap` derives from the type of the packet it wraps. -/
structure TunnelHeader where
  proto : UInt8
  payloadLen : UInt16
  packetType : UInt32

def tunnelHeader (frame : Frame) (l3Type : UInt16) : Option TunnelHeader :=
  if l3Type = etherTypeIpv4 then
    some
      { proto := ipprotoIpip
        payloadLen := ipv4TotalLength frame
        packetType := ptypeL3Ipv6 ||| ptypeTunnelIp ||| ptypeInnerL3Ipv4 ||| ptypeL2Ether }
  else if l3Type = etherTypeIpv6 then
    some
      { proto := ipprotoIpv6
        payloadLen := ipv6PayloadLen frame + ipv6HdrLen.toUInt16
        packetType := ptypeL3Ipv6 ||| ptypeTunnelIp ||| ptypeInnerL3Ipv6 ||| ptypeL2Ether }
  else none

def outerIpv6Hdr (payloadLen : UInt16) (proto : UInt8) (src dst : Ipv6) : List UInt8 :=
  beBytes 4 dpIp6VtcFlow ++ beBytes 2 payloadLen.toNat ++
    [proto, dpIp6HopLimit] ++ src.toBytes ++ dst.toBytes

@[simp]
theorem length_outerIpv6Hdr (payloadLen : UInt16) (proto : UInt8) (src dst : Ipv6) :
    (outerIpv6Hdr payloadLen proto src dst).length = ipv6HdrLen := by
  simp [outerIpv6Hdr, ipv6HdrLen]

/-- The source address of the outer header.  On the way back into `cls` it
stores the original destination. -/
def outerSrc (tables : Tables) (m : Mbuf) : Ipv6 :=
  if m.df.natType = .lbRecirc then m.df.tunInfo.ulSrcAddr6
  else dpGetPortUlIpv6 tables.conf (dpGetInPort tables.ports m)

def ipipEncapNext (tables : Tables) (m : Mbuf) : Node :=
  if m.df.natType = .lbRecirc then .cls
  else if (dpGetInPort tables.ports m).iface.encrypt then tables.nextIpsec m.df.nxtHop
  else tables.nextPfTx m.df.nxtHop

def ipipEncap (tables : Tables) (m : Mbuf) : Mbuf × Node :=
  match tunnelHeader m.frame m.df.l3Type with
  | none => (m, .drop)
  | some header =>
    let df := { m.df with tunInfo := { m.df.tunInfo with protoId := header.proto } }
    let lengths :=
      { m.frame.txOffload with outerL2Len := etherHdrLen, outerL3Len := ipv6HdrLen, l2Len := 0 }
    let inner := { m.frame.adj etherHdrLen with txOffload := lengths }
    let outer :=
      dpFillEtherHdr (dpGetOutPort tables.ports df) etherTypeIpv6 ++
        outerIpv6Hdr header.payloadLen header.proto (outerSrc tables m) df.tunInfo.ulDstAddr6
    match inner.prepend outer with
    | none => ({ m with df, frame := inner }, .drop)
    | some frame =>
      ({ m with
         df
         frame :=
           { frame with
             packetType := header.packetType
             olFlags := frame.olFlags ||| txOuterIpv6 ||| txTunnelIp }
         mark :=
           if df.natType = .lbRecirc then { m.mark with isRecirc := true }
           else m.mark },
        ipipEncapNext tables m)

/-! ### What the tunnel header says -/

section Header

variable {frame : Frame} {ether payload : List UInt8} {payloadLen : UInt16}
variable {proto : UInt8} {src dst : Ipv6}

theorem ipv6Proto_of_layout
    (layout : frame.data = ether ++ outerIpv6Hdr payloadLen proto src dst ++ payload)
    (etherLength : ether.length = etherHdrLen) :
    ipv6Proto frame = proto := by
  have field : frame.bytesAt 20 1 = [proto] := by
    refine
      Frame.bytesAt_append (ether ++ (beBytes 4 dpIp6VtcFlow ++ beBytes 2 payloadLen.toNat))
        [proto] ([dpIp6HopLimit] ++ src.toBytes ++ dst.toBytes ++ payload)
        ?_ ?_ rfl
    · rw [layout, outerIpv6Hdr]
      simp only [List.append_assoc, List.cons_append, List.nil_append]
    · simp [etherLength, etherHdrLen]
  exact List.head_eq_of_cons_eq field

theorem ipv6At_of_layout {offset : Nat} {address : Ipv6} (front back : List UInt8)
    (layout : frame.data = front ++ address.toBytes ++ back) (before : front.length = offset) :
    frame.ipv6At offset = address := by
  have field : frame.bytesAt offset 16 = address.toBytes :=
    Frame.bytesAt_append front address.toBytes back layout before (Ipv6.length_toBytes address)
  have read := Ipv6.ofBytes_toBytes_append address []
  rw [List.append_nil] at read
  rw [Frame.ipv6At, field, read]

theorem ipv6Src_of_layout
    (layout : frame.data = ether ++ outerIpv6Hdr payloadLen proto src dst ++ payload)
    (etherLength : ether.length = etherHdrLen) :
    ipv6Src frame = src := by
  refine
    ipv6At_of_layout
      (ether ++ (beBytes 4 dpIp6VtcFlow ++ beBytes 2 payloadLen.toNat ++ [proto, dpIp6HopLimit]))
      (dst.toBytes ++ payload) ?_ ?_
  · rw [layout, outerIpv6Hdr]
    simp only [List.append_assoc]
  · simp [etherLength, etherHdrLen]

end Header

structure Encapsulated (tables : Tables) (m packet : Mbuf) : Prop where
  port : packet.port = m.port
  df : ∃ header, tunnelHeader m.frame m.df.l3Type = some header ∧ packet.df =
        { m.df with
          tunInfo := { m.df.tunInfo with protoId := header.proto } } ∧
      ∃ payload, packet.frame.data =
          dpFillEtherHdr (dpGetOutPort tables.ports m.df) etherTypeIpv6 ++
            outerIpv6Hdr header.payloadLen header.proto (outerSrc tables m)
              m.df.tunInfo.ulDstAddr6 ++ payload

theorem ipipEncap_cases (tables : Tables) (m : Mbuf) : (ipipEncap tables m).1.port = m.port ∧
      ((ipipEncap tables m).2 = .drop ∨ (ipipEncap tables m).2 = ipipEncapNext tables m ∧
          Encapsulated tables m (ipipEncap tables m).1) := by
  unfold ipipEncap
  split
  · exact ⟨rfl, Or.inl rfl⟩
  rename_i header carried
  simp only
  split
  · exact ⟨rfl, Or.inl rfl⟩
  rename_i frame prepended
  refine ⟨rfl, Or.inr ⟨rfl, rfl, header, carried, rfl, ?_⟩⟩
  unfold Frame.prepend at prepended
  split at prepended
  · rw [Option.some_inj] at prepended
    exact ⟨_, by rw [← prepended]; rfl⟩
  cases prepended

theorem tunnelHeader_proto {frame : Frame} {l3Type : UInt16} {header : TunnelHeader}
    (carried : tunnelHeader frame l3Type = some header) :
    tunnelledType header.proto = some l3Type := by
  unfold tunnelHeader at carried
  split at carried
  · rename_i ipv4
    cases carried
    rw [ipv4]
    rfl
  split at carried
  · rename_i ipv6
    cases carried
    rw [ipv6]
    rfl
  cases carried

section Encapsulation

variable {tables : Tables} {m packet : Mbuf}

theorem Encapsulated.ipv6Src (made : Encapsulated tables m packet) :
    ipv6Src packet.frame = outerSrc tables m := by
  obtain ⟨header, _, _, payload, layout⟩ := made.df
  exact ipv6Src_of_layout layout (length_dpFillEtherHdr _ _)

theorem Encapsulated.tunnelled (made : Encapsulated tables m packet) :
    tunnelledType (ipv6Proto packet.frame) = some m.df.l3Type := by
  obtain ⟨header, carried, _, payload, layout⟩ := made.df
  rw [ipv6Proto_of_layout layout (length_dpFillEtherHdr _ _)]
  exact tunnelHeader_proto carried

theorem Encapsulated.length (made : Encapsulated tables m packet) :
    54 ≤ packet.frame.data.length := by
  obtain ⟨header, _, _, payload, layout⟩ := made.df
  rw [layout, List.length_append, List.length_append, length_dpFillEtherHdr, length_outerIpv6Hdr]
  exact Nat.le_add_right 54 payload.length

/-- Only a packet of an encrypting interface is handed to `ipsec_encap`, and
never one that goes back to `cls`. -/
theorem ipipEncapNext_ipsecEncap (handed : ipipEncapNext tables m = .ipsecEncap) :
    m.df.natType ≠ .lbRecirc ∧ (dpGetInPort tables.ports m).iface.encrypt = true := by
  unfold ipipEncapNext at handed
  split at handed
  · cases handed
  rename_i notBack
  split at handed
  · rename_i encrypting
    exact ⟨notBack, encrypting⟩
  unfold Tables.nextPfTx at handed
  split at handed
  · split at handed
    · cases handed
    · cases handed
  cases handed

end Encapsulation

end DpService.Nodes

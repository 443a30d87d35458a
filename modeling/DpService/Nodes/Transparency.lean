import DpService.Nodes.SaSeparation

/-!
# A decrypted frame is indistinguishable from a cleartext one

A tunnel frame that an encrypting interface sends goes through `ipsec_encap`,
the wire, `cls`, `ipsec_decap` and `ipip_decap` of the peer.  The same frame
in the clear skips the IPsec nodes, for an endpoint that does not encrypt.
Both end in the same packet for `conntrack`.
-/

namespace DpService.Nodes

open Foundations Packet Dataplane Ipsec

variable {sa : IpsecSa} {frame restored : Frame} {l3Type : UInt16} {db : IpsecDb} {id : MbufId}

/-! ## Inbound processing as the inverse of outbound processing -/

structure EspWire (sa : IpsecSa) (frame wire : Frame) : Prop where
  etherType : etherType wire = etherType frame
  src : ipv6Src wire = ipv6Src frame
  dst : ipv6Dst wire = ipv6Dst frame
  proto : ipv6Proto wire = ipprotoEsp
  spi : espSpi wire = sa.spi
  length : ipsecDecapMinLen ≤ wire.data.length

/-- The header lengths are set the way transport mode needs them. -/
structure OuterLengths (frame : Frame) : Prop where
  l2Len : frame.txOffload.l2Len = etherHdrLen
  l3Len : frame.txOffload.l3Len = ipv6HdrLen

/-- What librte_ipsec and the devices of two hosts guarantee for a pair of
associations, as long as sequence numbers are fresh. -/
structure EspInverse
    (sender receiver : CryptoEnv) (sa peerSa : IpsecSa) : Prop where
  wire : ∀ id frame final, OuterLengths frame → etherHdrLen + ipv6HdrLen ≤ frame.data.length →
      sender.Succeeds id sa frame final → EspWire sa frame final
  restores : ∀ id peerId frame final arrived,
    OuterLengths frame → etherHdrLen + ipv6HdrLen ≤ frame.data.length →
      sender.Succeeds id sa frame final →
      OuterLengths arrived → arrived.olFlags &&& rxSecOffloadFailed = 0 →
      arrived.data = final.data →
        ∃ restored, receiver.Succeeds peerId peerSa arrived restored ∧ restored.data = frame.data

/-- The ingress association of a peer that matches an egress association. -/
structure Mirrored (sa peerSa : IpsecSa) : Prop where
  dir : peerSa.dir = .ingress
  spi : peerSa.spi = sa.spi
  algo : peerSa.algo = sa.algo
  key : peerSa.key = sa.key
  salt : peerSa.salt = sa.salt
  esn : peerSa.esn = sa.esn
  src : peerSa.src.pfx = sa.src.pfx
  dst : peerSa.dst.pfx = sa.dst.pfx

theorem outerLengths_setOuterLengths (m : Mbuf) : OuterLengths (setOuterLengths m).frame where
  l2Len := rfl
  l3Len := rfl

theorem EspWire.of_setOuterLengths {m : Mbuf} {wire : Frame}
    (shown : EspWire sa (setOuterLengths m).frame wire) :
    EspWire sa m.frame wire :=
  ⟨shown.etherType, shown.src, shown.dst, shown.proto, shown.spi, shown.length⟩

/-! ## Reading the same bytes -/

section Reading

variable {first second : Frame}

theorem bytesAt_of_data (same : first.data = second.data) {offset count : Nat}
    (inside : offset + count ≤ first.data.length) :
    first.bytesAt offset count = second.bytesAt offset count := by
  rw [Frame.bytesAt_eq inside, Frame.bytesAt_eq (same ▸ inside), same]

theorem fields_of_data (same : first.data = second.data) (long : 54 ≤ first.data.length) :
    etherType first = etherType second ∧ ipv6Src first = ipv6Src second ∧
      ipv6Dst first = ipv6Dst second ∧ ipv6Proto first = ipv6Proto second := by
  have proto : first.bytesAt 20 1 = second.bytesAt 20 1 := bytesAt_of_data same (by omega)
  refine ⟨?_, ?_, ?_, List.head_eq_of_cons_eq proto⟩
  · rw [etherType, etherType, Frame.be16At, Frame.be16At, bytesAt_of_data same (by omega)]
  · rw [ipv6Src, ipv6Src, Frame.ipv6At, Frame.ipv6At, bytesAt_of_data same (by omega)]
  · rw [ipv6Dst, ipv6Dst, Frame.ipv6At, Frame.ipv6At, bytesAt_of_data same (by omega)]

theorem espSpi_of_data (same : first.data = second.data)
    (long : ipsecDecapMinLen ≤ first.data.length) :
    espSpi first = espSpi second := by
  have enough : 62 ≤ first.data.length := long
  rw [espSpi, espSpi, Frame.be32At, Frame.be32At, bytesAt_of_data same (by omega)]

theorem EspWire.of_data {wire arrived : Frame}
    (shown : EspWire sa frame wire) (same : arrived.data = wire.data) :
    EspWire sa frame arrived := by
  have length : ipsecDecapMinLen ≤ arrived.data.length := by
    rw [same]
    exact shown.length
  have long : 54 ≤ arrived.data.length := by
    have enough : 62 ≤ arrived.data.length := length
    omega
  obtain ⟨sameType, sameSrc, sameDst, sameProto⟩ := fields_of_data same long
  exact
    { etherType := sameType.trans shown.etherType
      src := sameSrc.trans shown.src
      dst := sameDst.trans shown.dst
      proto := sameProto.trans shown.proto
      spi := (espSpi_of_data same length).trans shown.spi
      length }

end Reading

/-! ## Arrival from the underlay -/

/-- The device has recognised an IPv6 frame on a PF.  It does no IPsec of its
own that could have failed. -/
structure ReceivedIpv6 (tables : Tables) (m : Mbuf) : Prop where
  noFailure : m.frame.olFlags &&& rxSecOffloadFailed = 0
  ether : m.frame.packetType &&& ptypeL2Mask = ptypeL2Ether
  notIpv4 : (m.frame.packetType &&& ptypeL3Mask) &&& ptypeL3Ipv4 = 0
  ipv6 : (m.frame.packetType &&& ptypeL3Mask) &&& ptypeL3Ipv6 ≠ 0
  fromPf : ∃ port, dpGetPortById tables.ports m.port = some port ∧ port.isPf = true

section Arrival

variable {tables : Tables} {m : Mbuf} {vnf : Vnf} {port : Port}

theorem cls_underlay (received : ReceivedIpv6 tables m) :
    cls tables m = clsUnderlay tables { m with df := DpFlow.zeroed } := by
  obtain ⟨inPort, registered, fromPf⟩ := received.fromPf
  have someType : m.frame.packetType &&& ptypeL3Mask ≠ 0 := by
    intro none
    apply received.ipv6
    rw [none]
    rfl
  simp only [cls, received.ether, ne_eq, not_true_eq_false, if_false,
    someType, registered, received.notIpv4, received.ipv6,
    not_false_eq_true, if_true, clsIpv6, fromPf]

theorem clsUnderlay_enabled (enabled : tables.conf.ipsecEnabled = true)
    (tunnel : ipv6Proto m.frame ≠ ipprotoIcmpv6) :
    clsUnderlay tables { m with df := DpFlow.zeroed } =
      clsProtected tables { m with df := underlayFlow m.frame } := by
  have notNd : isIpv6Nd m.frame = false := by
    simp [isIpv6Nd, tunnel]
  simp only [clsUnderlay, notNd, enabled, Bool.false_eq_true, if_false, if_true]
  rfl

theorem clsProtected_underlay (endpoint : tables.endpoint (ipv6Dst m.frame) = some (vnf, port))
    (matching : port.iface.encrypt = (ipv6Proto m.frame == ipprotoEsp)) :
    clsProtected tables { m with df := underlayFlow m.frame } =
      if port.iface.encrypt then
        ({ m with df := resolvedFlow (underlayFlow m.frame) vnf }, .ipsecDecap)
      else
        clsCleartext
          { m with df := resolvedFlow (underlayFlow m.frame) vnf } := by
  have resolution :=
    dpVnfResolveTunnelDst_underlay tables
      (show ({ m with df := underlayFlow m.frame } : Mbuf).df = underlayFlow m.frame from rfl)
  simp only [endpoint] at resolution
  simp only [clsProtected, resolution, matching, ne_eq, not_true_eq_false, if_false]

theorem cls_encrypted (received : ReceivedIpv6 tables m) (enabled : tables.conf.ipsecEnabled = true)
    (endpoint : tables.endpoint (ipv6Dst m.frame) = some (vnf, port))
    (encrypting : port.iface.encrypt = true) (esp : ipv6Proto m.frame = ipprotoEsp) :
    cls tables m =
      ({ m with df := resolvedFlow (underlayFlow m.frame) vnf }, .ipsecDecap) := by
  have tunnel : ipv6Proto m.frame ≠ ipprotoIcmpv6 := by
    rw [esp]
    decide
  rw [cls_underlay received, clsUnderlay_enabled enabled tunnel,
    clsProtected_underlay endpoint (by rw [encrypting, esp]; rfl), if_pos encrypting]

theorem tunnelledType_eq_some {proto : UInt8} (carried : tunnelledType proto = some l3Type) :
    proto ≠ ipprotoIcmpv6 ∧ proto ≠ ipprotoEsp ∧ (tunnelledPtype proto).isSome := by
  unfold tunnelledType at carried
  split at carried
  · rename_i ipip
    rw [ipip]
    decide
  split at carried
  · rename_i ipv6
    rw [ipv6]
    decide
  cases carried

theorem cls_cleartext (received : ReceivedIpv6 tables m) (enabled : tables.conf.ipsecEnabled = true)
    (endpoint : tables.endpoint (ipv6Dst m.frame) = some (vnf, port))
    (cleartext : port.iface.encrypt = false)
    (carried : tunnelledType (ipv6Proto m.frame) = some l3Type) :
    cls tables m =
      ({ m with
         df := { resolvedFlow (underlayFlow m.frame) vnf with l3Type } },
        .ipipDecap) := by
  obtain ⟨tunnel, notEsp, _⟩ := tunnelledType_eq_some carried
  have matching : port.iface.encrypt = (ipv6Proto m.frame == ipprotoEsp) := by
    rw [cleartext, beq_false_of_ne notEsp]
  rw [cls_underlay received, clsUnderlay_enabled enabled tunnel,
    clsProtected_underlay endpoint matching, if_neg (by simp [cleartext])]
  simp only [clsCleartext, carried]

theorem ipipDecap_resolved (resolved : m.df.tunDstResolved = true)
    (registered : dpGetPortById tables.ports m.df.nxtHop = some port)
    (carried : tunnelledType m.df.tunInfo.protoId = some l3Type) :
    ∃ arrived, ipipDecap tables m = (arrived, .conntrack) ∧ arrived.df = m.df := by
  obtain ⟨_, _, typed⟩ := tunnelledType_eq_some carried
  obtain ⟨l3Ptype, packetType⟩ := Option.isSome_iff_exists.mp typed
  have resolution : dpVnfResolveTunnelDst tables m = (m, some port) := by
    rw [dpVnfResolveTunnelDst, if_pos resolved, registered]
  simp only [ipipDecap, resolution, packetType]
  exact ⟨_, rfl, rfl⟩

end Arrival

/-! ## The endpoint without encryption -/

def Tables.withoutEncryption (tables : Tables) (port : Port) : Tables :=
  { tables with ports := tables.ports.update (port.setEncrypt false) }

section WithoutEncryption

variable {tables : Tables} {port : Port}

theorem dpGetPortById_withoutEncryption_self
    (registered : dpGetPortById tables.ports port.portId = some port) :
    dpGetPortById (Tables.withoutEncryption tables port).ports port.portId =
      some (port.setEncrypt false) := by
  unfold dpGetPortById at registered ⊢
  split
  · exact PortTable.update_entry_self _ (port.setEncrypt false)
  rename_i outside
  rw [if_neg outside] at registered
  cases registered

theorem dpGetPortById_withoutEncryption_of_ne {id : PortId} (other : id ≠ port.portId) :
    dpGetPortById (Tables.withoutEncryption tables port).ports id =
      dpGetPortById tables.ports id := by
  unfold dpGetPortById
  split
  · exact PortTable.update_entry_of_ne _ other
  · rfl

theorem endpoint_withoutEncryption {address : Ipv6} {vnf : Vnf}
    (endpoint : tables.endpoint address = some (vnf, port)) :
    (Tables.withoutEncryption tables port).endpoint address =
      some (vnf, port.setEncrypt false) := by
  obtain ⟨held, registered⟩ := portId_of_endpoint endpoint
  have number := portId_of_dpGetPortById registered
  rw [← number] at registered
  have cleared := dpGetPortById_withoutEncryption_self registered
  rw [number] at cleared
  have sameVnf : dpGetVnf (Tables.withoutEncryption tables port).vnfs address = some vnf := held
  rw [Tables.endpoint, sameVnf]
  simp only [cleared]

theorem ReceivedIpv6.withoutEncryption {m : Mbuf}
    (registered : dpGetPortById tables.ports port.portId = some port)
    (received : ReceivedIpv6 tables m) :
    ReceivedIpv6 (Tables.withoutEncryption tables port) m where
  noFailure := received.noFailure
  ether := received.ether
  notIpv4 := received.notIpv4
  ipv6 := received.ipv6
  fromPf := by
    obtain ⟨inPort, arrival, fromPf⟩ := received.fromPf
    by_cases same : m.port = port.portId
    · rw [same] at arrival ⊢
      rw [registered, Option.some_inj] at arrival
      exact ⟨_, dpGetPortById_withoutEncryption_self registered, arrival ▸ fromPf⟩
    · rw [dpGetPortById_withoutEncryption_of_ne same]
      exact ⟨inPort, arrival, fromPf⟩

end WithoutEncryption

/-! ## Both ways -/

/-- The packet `m` is part of a burst of an IPsec node, under the name `id`,
and the device returns its operation in time. -/
structure ReturnedFromBurst
    (node : CryptoNode) (env : CryptoEnv) (db : IpsecDb) (id : MbufId)
    (m : Mbuf) (result : BurstResult) : Prop where
  lawful : env.Lawful
  burst : ∃ state objs, state.queue = [] ∧ objs.Nodup ∧ objs.length ≤ rteGraphBurstSize ∧
      objs.length ≤ state.opPool.length ∧ id ∈ objs ∧ state.mbufs id = m ∧
      cryptoNodeProcess node env db state objs = some result
  returned : id ∈ result.completed.map CryptoOp.mSrc

theorem ReturnedFromBurst.packetAfter {node : CryptoNode} {env : CryptoEnv}
    {m : Mbuf} {result : BurstResult} (closed : node.FailsClosed)
    (member : ReturnedFromBurst node env db id m result) :
    result.state.mbufs id =
        packetAfter node env db.heap result.completed id
          (lookupSa db (node.buildKey m)) (setCryptoFailed true m) ∧
      (id, node.next (result.state.mbufs id)) ∈ result.edges := by
  obtain ⟨state, objs, idle, distinct, fits, enough, inBurst, packet,
    processed⟩ := member.burst
  obtain ⟨other, otherProcessed, spec⟩ :=
    @cryptoNodeProcess_spec node env db state objs member.lawful idle distinct fits
  rw [processed, Option.some_inj] at otherProcessed
  subst otherProcessed
  have after := spec.packets id inBurst
  rw [if_pos enough, closed.buildKey_mark, packet] at after
  refine ⟨after, ?_⟩
  rw [spec.edges, forwardPackets]
  exact List.mem_map_of_mem inBurst

theorem sent_of_forwarded {host : Tables} {sender : CryptoEnv} {packet : Mbuf} {sent : BurstResult}
    {handle : Handle} (sending : ReturnedFromBurst (ipsecEncap host) sender db id packet sent)
    (transmitted : ipsecEncapNext host (sent.state.mbufs id) ≠ .drop)
    (found : lookupSa db (ipsecEncapBuildKey host packet) = some handle) :
    ∃ final,
      sender.Succeeds id (db.heap.sa handle) (setOuterLengths packet).frame final ∧
      (sent.state.mbufs id).frame.data = final.data := by
  have closed := ipsecEncap_failsClosed host
  have after := (sending.packetAfter closed).1
  have forwarded := transmitted
  rw [after] at forwarded
  obtain ⟨other, final, otherFound, _, _, succeeded, settled⟩ :=
    packetAfter_forwarded closed sending.lawful rfl forwarded
  have sameHandle : some other = some handle := otherFound.symm.trans found
  rw [Option.some_inj] at sameHandle
  subst sameHandle
  refine ⟨final, succeeded, ?_⟩
  rw [after, settled]
  rfl

theorem lookupSa_mirrored {conf : DpConf} {db : IpsecDb} {sa : IpsecSa} {handle : Handle}
    {frame : Frame} {arrived : Mbuf} (invariant : DbInvariant conf db)
    (enabled : conf.ipsecEnabled = true) (stored : handle ∈ db.sas.owners)
    (mirrored : Mirrored sa (db.heap.sa handle)) (shown : EspWire sa frame arrived.frame)
    (src : sa.src.pfx = (ipv6Src frame).pfx) (dst : sa.dst.pfx = (ipv6Dst frame).pfx) :
    lookupSa db (ipsecDecapBuildKey arrived) = some handle := by
  have present : db.sad.isSome := by
    rw [invariant.enabled]
    exact enabled
  obtain ⟨sad, tree⟩ := Option.isSome_iff_exists.mp present
  have key : (db.heap.sa handle).spec.sadKey = ipsecDecapBuildKey arrived := by
    have notEgress : (db.heap.sa handle).spec.dir ≠ .egress := by
      intro egress
      cases mirrored.dir.symm.trans egress
    rw [ipsecDecapBuildKey, if_neg (Nat.not_lt.mpr shown.length),
      IpsecSaSpec.sadKey, dpIpsecBuildKey_eq_iff, dpIpsecGetLookupSpi,
      if_neg notEgress, shown.spi, shown.src, shown.dst, ← src, ← dst]
    exact ⟨mirrored.spi, mirrored.src, mirrored.dst⟩
  have entry := (invariant.filed sad tree _ handle).mpr ⟨stored, key⟩
  rw [lookupSa, tree]
  exact entry

def restoredPacket (m : Mbuf) (restored : Frame) (l3Type : UInt16) : Mbuf :=
  { m with
    frame := restored
    mark := { m.mark with cryptoFailed := false }
    df :=
      { m.df with
        l3Type
        tunInfo := { m.df.tunInfo with protoId := ipv6Proto restored } } }

theorem ipsecDecapSettle_restored {m : Mbuf}
    (carried : tunnelledType (ipv6Proto restored) = some l3Type) :
    ipsecDecapSettle true { setCryptoFailed true m with frame := restored } =
      restoredPacket m restored l3Type := by
  rw [ipsecDecapSettle, if_pos rfl]
  simp only [ipsecDecapRestoreFlow, carried]
  rfl

theorem received_restored {peer : Tables} {receiver : CryptoEnv}
    {received arrived : Mbuf} {got : BurstResult} {handle : Handle}
    {vnf : Vnf} {port : Port}
    (classified : cls peer received = (arrived, .ipsecDecap))
    (endpoint : peer.endpoint (ipv6Dst arrived.frame) = some (vnf, port))
    (receiving : ReturnedFromBurst (ipsecDecap peer) receiver db id arrived got)
    (found : lookupSa db (ipsecDecapBuildKey arrived) = some handle)
    (sameVni : (db.heap.sa handle).vni = vnf.vni)
    (succeeded : receiver.Succeeds id (db.heap.sa handle) (setOuterLengths arrived).frame restored)
    (carried : tunnelledType (ipv6Proto restored) = some l3Type) :
    got.state.mbufs id = restoredPacket arrived restored l3Type ∧ (id, .ipipDecap) ∈ got.edges := by
  have closed := ipsecDecap_failsClosed peer
  obtain ⟨after, enqueued⟩ := receiving.packetAfter closed
  obtain ⟨other, otherPort, otherEndpoint, permit⟩ :=
    ipsecDecapPermit_classified classified (db.heap.sa handle)
  rw [endpoint, Option.some_inj] at otherEndpoint
  cases otherEndpoint
  have permitted :
      ((ipsecDecap peer).permit (db.heap.sa handle) (setCryptoFailed true arrived)).2 = true := by
    change (ipsecDecapPermit peer _ _).2 = true
    rw [permit, sameVni]
    exact beq_self_eq_true vnf.vni
  have sameKey : lookupSa db ((ipsecDecap peer).buildKey arrived) = some handle := found
  rw [sameKey, packetAfter_of_succeeds closed permitted receiving.returned succeeded] at after
  have permittedPacket :
      ((ipsecDecap peer).permit (db.heap.sa handle)
        (setCryptoFailed true arrived)).1 = setCryptoFailed true arrived :=
    congrArg Prod.fst permit
  rw [permittedPacket] at after
  have settled := after.trans (ipsecDecapSettle_restored carried)
  rw [settled] at enqueued
  exact ⟨settled, enqueued⟩

theorem delivered_cleartext {peer : Tables} {clear : Mbuf} {vnf : Vnf} {port : Port}
    (enabled : peer.conf.ipsecEnabled = true) (arrival : ReceivedIpv6 peer clear)
    (endpoint : peer.endpoint (ipv6Dst clear.frame) = some (vnf, port))
    (carried : tunnelledType (ipv6Proto clear.frame) = some l3Type) :
    ∃ delivered, (cls (Tables.withoutEncryption peer port) clear).2 = .ipipDecap ∧
      ipipDecap (Tables.withoutEncryption peer port)
          (cls (Tables.withoutEncryption peer port) clear).1 =
        (delivered, .conntrack) ∧
      delivered.df =
        { resolvedFlow (underlayFlow clear.frame) vnf with l3Type } := by
  have registered := (portId_of_endpoint endpoint).2
  have number := portId_of_dpGetPortById registered
  rw [← number] at registered
  have cleared := endpoint_withoutEncryption endpoint
  have classified :=
    cls_cleartext (arrival.withoutEncryption registered) enabled cleared rfl carried
  rw [classified]
  obtain ⟨delivered, decapsulated, sameFlow⟩ :=
    ipipDecap_resolved
      (show ({ clear with
          df :=
            { resolvedFlow (underlayFlow clear.frame) vnf with
              l3Type } } : Mbuf).df.tunDstResolved = true from rfl)
      (portId_of_endpoint cleared).2 carried
  exact ⟨delivered, rfl, decapsulated, sameFlow⟩

theorem restoredPacket_df {clear : Frame} {received : Mbuf} {vnf : Vnf}
    (shown : EspWire sa frame received.frame) (restoredData : restored.data = frame.data)
    (clearData : clear.data = frame.data) (long : 54 ≤ frame.data.length) :
    (restoredPacket
        { received with df := resolvedFlow (underlayFlow received.frame) vnf }
        restored l3Type).df =
      { resolvedFlow (underlayFlow clear) vnf with l3Type } := by
  obtain ⟨clearType, clearSrc, clearDst, clearProto⟩ :=
    fields_of_data clearData (by rw [clearData]; exact long)
  obtain ⟨_, _, _, restoredProto⟩ := fields_of_data restoredData (by rw [restoredData]; exact long)
  simp only [restoredPacket, resolvedFlow, underlayFlow,
    dpExtractUnderlayHeader, shown.etherType, shown.src, shown.dst, clearType,
    clearSrc, clearDst, clearProto, restoredProto]

/-- A tunnel frame that was encrypted on its way is restored byte for byte,
and it reaches `conntrack` with the flow data of the same frame in the
clear. -/
theorem decrypted_like_cleartext (host peer : Tables) (hostEvents peerEvents : List SaEvent)
    (sender receiver : CryptoEnv)
    -- the frame that the sending host builds and transmits
    (m packet : Mbuf) (id : MbufId) (sent : BurstResult) (handle : Handle)
    (built : ipipEncap host m = (packet, .ipsecEncap))
    (sending :
      ReturnedFromBurst (ipsecEncap host) sender
        ((saMachine host.conf).run hostEvents) id packet sent)
    (found :
      lookupSa ((saMachine host.conf).run hostEvents)
        (ipsecEncapBuildKey host packet) = some handle)
    (transmitted : ipsecEncapNext host (sent.state.mbufs id) ≠ .drop)
    -- the endpoint at the peer and the association it holds
    (vnf : Vnf) (port : Port) (peerHandle : Handle)
    (slot : Fin dpIpsecMaxSa)
    (enabled : peer.conf.ipsecEnabled = true)
    (endpoint : peer.endpoint (ipv6Dst packet.frame) = some (vnf, port))
    (encrypting : port.iface.encrypt = true)
    (stored : ((saMachine peer.conf).run peerEvents).sas slot = some peerHandle)
    (mirrored :
      Mirrored (((saMachine host.conf).run hostEvents).heap.sa handle)
        (((saMachine peer.conf).run peerEvents).heap.sa peerHandle))
    (sameVni : (((saMachine peer.conf).run peerEvents).heap.sa peerHandle).vni = vnf.vni)
    (inverse :
      EspInverse sender receiver (((saMachine host.conf).run hostEvents).heap.sa handle)
        (((saMachine peer.conf).run peerEvents).heap.sa peerHandle))
    -- what the peer receives and decrypts
    (received : Mbuf) (peerId : MbufId) (got : BurstResult)
    (arrival : ReceivedIpv6 peer received)
    (wire : received.frame.data = (sent.state.mbufs id).frame.data)
    (receiving :
      ReturnedFromBurst (ipsecDecap peer) receiver ((saMachine peer.conf).run peerEvents) peerId
        (cls peer received).1 got)
    -- the same frame in the clear
    (clear : Mbuf) (clearArrival : ReceivedIpv6 peer clear)
    (clearWire : clear.frame.data = packet.frame.data) :
    (cls peer received).2 = .ipsecDecap ∧ (peerId, .ipipDecap) ∈ got.edges ∧
      (got.state.mbufs peerId).frame.data = packet.frame.data ∧
      ∃ decrypted delivered, ipipDecap peer (got.state.mbufs peerId) = (decrypted, .conntrack) ∧
        (cls (Tables.withoutEncryption peer port) clear).2 = .ipipDecap ∧
        ipipDecap (Tables.withoutEncryption peer port)
            (cls (Tables.withoutEncryption peer port) clear).1 =
          (delivered, .conntrack) ∧
        decrypted.df = delivered.df := by
  obtain ⟨_, outcome⟩ := ipipEncap_cases host m
  rw [built] at outcome
  rcases outcome with dropped | ⟨_, made⟩
  · cases dropped
  have hostFields := lookupSa_fields (saMachine_invariant host.conf hostEvents) found
  obtain ⟨final, succeeded, sentData⟩ := sent_of_forwarded sending transmitted found
  -- what the peer reads is what the sender wrote
  have arrivedData : received.frame.data = final.data := wire.trans sentData
  have shown :=
    ((inverse.wire id _ final (outerLengths_setOuterLengths packet)
      made.length succeeded).of_setOuterLengths).of_data arrivedData
  have receivedEndpoint : peer.endpoint (ipv6Dst received.frame) = some (vnf, port) := by
    rw [shown.dst]
    exact endpoint
  have classified := cls_encrypted arrival enabled receivedEndpoint encrypting shown.proto
  have peerFound :=
    @lookupSa_mirrored _ _ _ _ _
      { received with df := resolvedFlow (underlayFlow received.frame) vnf }
      (saMachine_invariant peer.conf peerEvents) enabled
      ((SlotTable.mem_owners peerHandle).mpr ⟨slot, stored⟩) mirrored shown
      hostFields.2.1 hostFields.2.2
  obtain ⟨restored, restoring, restoredData⟩ :=
    inverse.restores id peerId _ final
      (setOuterLengths
        { received with
          df := resolvedFlow (underlayFlow received.frame) vnf }).frame
      (outerLengths_setOuterLengths packet) made.length succeeded
      (outerLengths_setOuterLengths _) arrival.noFailure arrivedData
  have restoredFields := fields_of_data restoredData (by rw [restoredData]; exact made.length)
  have carried : tunnelledType (ipv6Proto restored) = some m.df.l3Type := by
    rw [restoredFields.2.2.2]
    exact made.tunnelled
  rw [classified] at receiving
  obtain ⟨settled, enqueued⟩ :=
    received_restored classified receivedEndpoint receiving peerFound sameVni restoring carried
  obtain ⟨decrypted, decapsulated, decryptedFlow⟩ :=
    ipipDecap_resolved
      (show (restoredPacket
          { received with df := resolvedFlow (underlayFlow received.frame) vnf }
          restored m.df.l3Type).df.tunDstResolved = true from rfl)
      (portId_of_endpoint receivedEndpoint).2 carried
  -- and the way in the clear
  obtain ⟨_, _, clearDst, clearProto⟩ :=
    fields_of_data clearWire (by rw [clearWire]; exact made.length)
  obtain ⟨delivered, clearNext, clearDelivered, deliveredFlow⟩ :=
    delivered_cleartext enabled clearArrival (by rw [clearDst]; exact endpoint)
      (by rw [clearProto]; exact made.tunnelled)
  rw [classified, settled]
  refine
    ⟨rfl, enqueued, restoredData, decrypted, delivered, decapsulated, clearNext, clearDelivered, ?_⟩
  rw [decryptedFlow, deliveredFlow]
  exact restoredPacket_df shown restoredData clearWire made.length

/-! ### Two hosts with the null cipher -/

theorem espWire_espEncapsulate (sa : IpsecSa) (long : 54 ≤ frame.data.length) :
    EspWire sa frame (espEncapsulate sa.spi frame) where
  etherType := by
    rw [etherType, etherType, Frame.be16At, Frame.be16At, bytesAt_espEncapsulate long (by omega)]
  src := by
    rw [ipv6Src, ipv6Src, Frame.ipv6At, Frame.ipv6At, bytesAt_espEncapsulate long (by omega)]
  dst := by
    rw [ipv6Dst, ipv6Dst, Frame.ipv6At, Frame.ipv6At, bytesAt_espEncapsulate long (by omega)]
  proto := ipv6Proto_espEncapsulate long
  spi := espSpi_espEncapsulate long
  length := by
    rw [length_espEncapsulate long]
    exact Nat.le_trans (by decide) (Nat.add_le_add_right long 10)

theorem nullEsp_sends {final : Frame} (egress : sa.dir = .egress)
    (succeeded : nullEsp.Succeeds id sa frame final) :
    final.data = (espEncapsulate sa.spi frame).data := by
  obtain ⟨prepared, executed, prepare, execute, process⟩ := succeeded
  simp only [nullEsp, egress, Prod.mk.injEq] at prepare execute process
  rw [← process.1, ← execute.1, ← prepare.1]

theorem nullEsp_receives (id : MbufId) (ingress : sa.dir = .ingress) (long : 64 ≤ frame.data.length)
    (clear : frame.olFlags &&& rxSecOffloadFailed = 0) :
    nullEsp.Succeeds id sa frame
      (espDecapsulate
        { frame with olFlags := frame.olFlags ||| rxSecOffload }) := by
  have stillClear : (frame.olFlags ||| rxSecOffload) &&& rxSecOffloadFailed = 0 :=
    flags_or_eq_zero clear (by decide)
  refine ⟨frame, frame, ?_, rfl, ?_⟩
  · simp only [nullEsp, ingress, long, decide_true]
  · simp only [nullEsp, ingress, stillClear, beq_self_eq_true]

theorem nullEsp_inverse {peerSa : IpsecSa} (egress : sa.dir = .egress)
    (ingress : peerSa.dir = .ingress) :
    EspInverse nullEsp nullEsp sa peerSa where
  wire := by
    intro id frame final _ long succeeded
    exact (espWire_espEncapsulate sa long).of_data (nullEsp_sends egress succeeded)
  restores := by
    intro id peerId frame final arrived _ long succeeded _ clear same
    have data := same.trans (nullEsp_sends egress succeeded)
    have enough : 54 ≤ frame.data.length := long
    have arrivedLong : 64 ≤ arrived.data.length := by
      rw [data, length_espEncapsulate enough]
      omega
    exact
      ⟨_, nullEsp_receives peerId ingress arrivedLong clear,
        espDecapsulate_espEncapsulate enough data⟩

def peerTables : Tables :=
  tablesWithGuest
    { underlayIp := { pfx := 0xfc00000200000000, sfx := 1 }
      ipsecEnabled := true }
    peerUnderlay

def mirroredSa (spi : UInt32) (vni : Vni) : DpgrpcIpsecSa :=
  { egressSa spi vni with id := { (egressSa spi vni).id with dir := .ingress } }

def peerEvents : List SaEvent :=
  [(.create (mirroredSa 256 100), Outcomes.success)]

def peerDb : IpsecDb :=
  (saMachine peerTables.conf).run peerEvents

def guestSent : BurstResult :=
  (cryptoNodeProcess (ipsecEncap guestTables) nullEsp guestDb
    (burstOf (ipipEncap guestTables guestPacket).1) [7]).get (by decide +kernel)

def peerReceives (data : List UInt8) : Mbuf :=
  mbufOn 0 { tunnelFrame guestUnderlay peerUnderlay with data }

def peerGot : BurstResult :=
  (cryptoNodeProcess (ipsecDecap peerTables) nullEsp peerDb
    (burstOf (cls peerTables (peerReceives (guestSent.state.mbufs 7).frame.data)).1)
    [7]).get (by decide +kernel)

theorem peerReceives_ipv6 (data : List UInt8) : ReceivedIpv6 peerTables (peerReceives data) := by
  have packetType : (peerReceives data).frame.packetType = ptypeL2Ether ||| ptypeL3Ipv6 := rfl
  have olFlags : (peerReceives data).frame.olFlags = 0 := rfl
  refine ⟨?_, ?_, ?_, ?_, bootPort true 0, rfl, rfl⟩
  · rw [olFlags]
    decide
  · rw [packetType]
    decide
  · rw [packetType]
    decide
  · rw [packetType]
    decide

theorem guestSent_returned :
    ReturnedFromBurst (ipsecEncap guestTables) nullEsp guestDb 7
      (ipipEncap guestTables guestPacket).1 guestSent where
  lawful := nullEsp_lawful
  burst :=
    ⟨burstOf (ipipEncap guestTables guestPacket).1, [7], rfl, by decide,
      by decide, by decide, by decide, rfl, (Option.some_get _).symm⟩
  returned := by decide +kernel

theorem peerGot_returned :
    ReturnedFromBurst (ipsecDecap peerTables) nullEsp peerDb 7
      (cls peerTables (peerReceives (guestSent.state.mbufs 7).frame.data)).1 peerGot where
  lawful := nullEsp_lawful
  burst :=
    ⟨burstOf (cls peerTables (peerReceives (guestSent.state.mbufs 7).frame.data)).1,
      [7], rfl, by decide, by decide, by decide, by decide, rfl, (Option.some_get _).symm⟩
  returned := by decide +kernel

theorem guestFrame_restored : (peerGot.state.mbufs 7).frame.data =
        (ipipEncap guestTables guestPacket).1.frame.data ∧
      (7, .ipipDecap) ∈ peerGot.edges := by
  have mirrored : Mirrored (guestDb.heap.sa 0) (peerDb.heap.sa 0) := by
    constructor <;> decide +kernel
  have like :=
    decrypted_like_cleartext guestTables peerTables
      [(.create (egressSa 256 100), Outcomes.success),
        (.create (ingressSa 512 100), Outcomes.success)]
      peerEvents nullEsp nullEsp guestPacket
      (ipipEncap guestTables guestPacket).1 7 guestSent 0
      (Prod.ext rfl (by decide +kernel)) guestSent_returned
      (by decide +kernel) (by decide +kernel)
      ⟨.interfaceIp, 100, 2, ⟨.v4 0, 0⟩⟩
      ((dpGetPortById peerTables.ports 2).getD Port.absent) 0
      ⟨0, by decide⟩ rfl (by decide +kernel) rfl (by decide +kernel) mirrored
      (by decide +kernel)
      (nullEsp_inverse (by decide +kernel) mirrored.dir)
      (peerReceives (guestSent.state.mbufs 7).frame.data) 7 peerGot
      (peerReceives_ipv6 _) rfl peerGot_returned
      (peerReceives (ipipEncap guestTables guestPacket).1.frame.data)
      (peerReceives_ipv6 _) rfl
  exact ⟨like.2.2.1, like.2.1⟩

end DpService.Nodes

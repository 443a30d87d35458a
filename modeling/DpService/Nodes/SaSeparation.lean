import DpService.Nodes.CryptoSafety

/-!
# Direction and tenant separation of the lookups

One table files the associations of both directions, an egress one under its
VNI and an ingress one under its SPI, and neither IPsec node looks at the
direction of what it has found.  That the two cannot be confused follows from
the addresses: the local side of a stored association is in the host's prefix,
and so are the source of a packet to be encrypted and the destination of one
to be decrypted.
-/

namespace DpService.Nodes

open Foundations Packet Dataplane Ipsec

def PrefixesDiffer (db : IpsecDb) : Prop :=
  ∀ key handle, lookupSa db key = some handle →
    (db.heap.sa handle).src.pfx ≠ (db.heap.sa handle).dst.pfx

/-- Every underlay address of a local interface or VNF is in the host's
prefix. -/
structure UnderlayLocal (tables : Tables) : Prop where
  interfaces : ∀ id port, tables.ports.entry id = some port →
    port.iface.ready = true → port.iface.ulIpv6.pfx = tables.conf.underlayIp.pfx
  vnfs : ∀ address vnf, dpGetVnf tables.vnfs address = some vnf →
    address.pfx = tables.conf.underlayIp.pfx

theorem lookupSa_filed {conf : DpConf} {db : IpsecDb} (invariant : DbInvariant conf db)
    {key : SadKey} {handle : Handle} (found : lookupSa db key = some handle) :
    Storable conf (db.heap.sa handle) ∧ (db.heap.sa handle).spec.sadKey = key := by
  rw [lookupSa, Option.bind_eq_some_iff] at found
  obtain ⟨sad, enabled, entry⟩ := found
  obtain ⟨member, filed⟩ := (invariant.filed sad enabled key handle).mp entry
  exact ⟨invariant.storable handle member, filed⟩

section Lookup

variable {conf : DpConf} {db : IpsecDb} {handle : Handle}
variable {lookupSpi : UInt32} {src dst : Ipv6}

theorem lookupSa_fields (invariant : DbInvariant conf db)
    (found : lookupSa db (dpIpsecBuildKey lookupSpi src dst) = some handle) :
    dpIpsecGetLookupSpi (db.heap.sa handle).spec = lookupSpi ∧
      (db.heap.sa handle).src.pfx = src.pfx ∧ (db.heap.sa handle).dst.pfx = dst.pfx := by
  have filed := (lookupSa_filed invariant found).2
  exact (dpIpsecBuildKey_eq_iff _ _ _ _ _ _).mp filed

theorem localPrefix_of_storable {sa : IpsecSa} (storable : Storable conf sa) :
    (if sa.dir = .egress then sa.src else sa.dst).pfx = conf.underlayIp.pfx :=
  beq_iff_eq.mp storable.localSide

theorem egress_of_localSource (invariant : DbInvariant conf db) (differ : PrefixesDiffer db)
    (found : lookupSa db (dpIpsecBuildKey lookupSpi src dst) = some handle)
    (fromHere : src.pfx = conf.underlayIp.pfx) :
    (db.heap.sa handle).dir = .egress := by
  obtain ⟨_, sameSrc, _⟩ := lookupSa_fields invariant found
  have localSide := localPrefix_of_storable (lookupSa_filed invariant found).1
  cases direction : (db.heap.sa handle).dir with
  | egress => rfl
  | ingress =>
    simp only [direction, reduceCtorEq, if_false] at localSide
    apply absurd _ (differ _ handle found)
    rw [sameSrc, fromHere, localSide]

theorem ingress_of_localDestination (invariant : DbInvariant conf db) (differ : PrefixesDiffer db)
    (found : lookupSa db (dpIpsecBuildKey lookupSpi src dst) = some handle)
    (toHere : dst.pfx = conf.underlayIp.pfx) :
    (db.heap.sa handle).dir = .ingress := by
  obtain ⟨_, _, sameDst⟩ := lookupSa_fields invariant found
  have localSide := localPrefix_of_storable (lookupSa_filed invariant found).1
  cases direction : (db.heap.sa handle).dir with
  | ingress => rfl
  | egress =>
    simp only [direction, if_true] at localSide
    apply absurd _ (differ _ handle found)
    rw [sameDst, toHere, localSide]

end Lookup

section Nodes

variable {tables : Tables} {m packet : Mbuf}

theorem dpGetPortUlIpv6_local (addresses : UnderlayLocal tables) (m : Mbuf) :
    (dpGetPortUlIpv6 tables.conf (dpGetInPort tables.ports m)).pfx =
      tables.conf.underlayIp.pfx := by
  unfold dpGetPortUlIpv6
  split
  · rename_i ready
    unfold dpGetInPort at ready ⊢
    cases found : dpGetPortById tables.ports m.port with
    | none =>
      rw [found] at ready
      cases ready
    | some port =>
      rw [found] at ready
      exact addresses.interfaces m.port port (dpGetPortById_eq_some found) ready
  · rfl

theorem ipsecEncap_localSource (addresses : UnderlayLocal tables)
    (handed : ipipEncap tables m = (packet, .ipsecEncap)) :
    packet.port = m.port ∧ (ipv6Src packet.frame).pfx = tables.conf.underlayIp.pfx := by
  obtain ⟨samePort, outcome⟩ := ipipEncap_cases tables m
  rw [handed] at samePort outcome
  rcases outcome with dropped | ⟨next, made⟩
  · cases dropped
  refine ⟨samePort, ?_⟩
  obtain ⟨notBack, _⟩ := ipipEncapNext_ipsecEncap next.symm
  rw [made.ipv6Src, outerSrc, if_neg notBack]
  exact dpGetPortUlIpv6_local addresses m

theorem ipsecDecapBuildKey_of_found {conf : DpConf} {db : IpsecDb} {handle : Handle}
    (invariant : DbInvariant conf db) (differ : PrefixesDiffer db)
    (found : lookupSa db (ipsecDecapBuildKey packet) = some handle) :
    ipsecDecapBuildKey packet =
      dpIpsecBuildKey (espSpi packet.frame) (ipv6Src packet.frame) (ipv6Dst packet.frame) := by
  unfold ipsecDecapBuildKey at found ⊢
  split
  · rename_i short
    rw [if_pos short] at found
    have zeroKey :
        ({ spi := 0, dip := Ipv6.zero, sip := Ipv6.zero } : SadKey) =
          dpIpsecBuildKey 0 Ipv6.zero Ipv6.zero :=
      rfl
    rw [zeroKey] at found
    obtain ⟨_, sameSrc, sameDst⟩ := lookupSa_fields invariant found
    exact absurd (sameSrc.trans sameDst.symm) (differ _ handle found)
  · rfl

end Nodes

/-- The association that `ipsec_encap` finds for a packet is an egress one of
the network the packet comes from, and the one that `ipsec_decap` decrypts
with is an ingress one of the network the frame is addressed to. -/
theorem saLookup_separated (tables : Tables) (events : List SaEvent)
    (differ : PrefixesDiffer ((saMachine tables.conf).run events))
    (addresses : UnderlayLocal tables) :
    let db := (saMachine tables.conf).run events
    (∀ m packet handle, ipipEncap tables m = (packet, .ipsecEncap) →
      lookupSa db (ipsecEncapBuildKey tables packet) = some handle →
        (db.heap.sa handle).dir = .egress ∧
        (db.heap.sa handle).vni = (dpGetInPort tables.ports m).iface.vni ∧
        (db.heap.sa handle).src.pfx = (ipv6Src packet.frame).pfx ∧
        (db.heap.sa handle).dst.pfx = (ipv6Dst packet.frame).pfx) ∧
      ∀ received packet handle, cls tables received = (packet, .ipsecDecap) →
        lookupSa db (ipsecDecapBuildKey packet) = some handle →
        (ipsecDecapPermit tables (db.heap.sa handle) (setCryptoFailed true packet)).2 = true →
          (db.heap.sa handle).dir = .ingress ∧ (db.heap.sa handle).spi = espSpi packet.frame ∧
          (db.heap.sa handle).src.pfx = (ipv6Src packet.frame).pfx ∧
          (db.heap.sa handle).dst.pfx = (ipv6Dst packet.frame).pfx ∧
          ∃ vnf port, tables.endpoint (ipv6Dst packet.frame) = some (vnf, port) ∧
              (db.heap.sa handle).vni = vnf.vni := by
  intro db
  have invariant := saMachine_invariant tables.conf events
  constructor
  · intro m packet handle handed found
    obtain ⟨samePort, fromHere⟩ := ipsecEncap_localSource addresses handed
    have egress : (db.heap.sa handle).spec.dir = .egress :=
      egress_of_localSource invariant differ found fromHere
    obtain ⟨sameSpi, sameSrc, sameDst⟩ := lookupSa_fields invariant found
    rw [dpIpsecGetLookupSpi, if_pos egress] at sameSpi
    have sameInPort : dpGetInPort tables.ports packet = dpGetInPort tables.ports m := by
      rw [dpGetInPort, dpGetInPort, samePort]
    exact ⟨egress, sameInPort ▸ sameSpi, sameSrc, sameDst⟩
  intro received packet handle classified found permitted
  obtain ⟨vnf, port, endpoint, permit⟩ :=
    ipsecDecapPermit_classified classified (db.heap.sa handle)
  rw [permit] at permitted
  have toHere := addresses.vnfs _ vnf (portId_of_endpoint endpoint).1
  rw [ipsecDecapBuildKey_of_found invariant differ found] at found
  have ingress := ingress_of_localDestination invariant differ found toHere
  obtain ⟨sameSpi, sameSrc, sameDst⟩ := lookupSa_fields invariant found
  have notEgress : (db.heap.sa handle).spec.dir ≠ .egress := by
    intro egress
    cases ingress.symm.trans egress
  rw [dpIpsecGetLookupSpi, if_neg notEgress] at sameSpi
  exact ⟨ingress, sameSpi, sameSrc, sameDst, vnf, port, endpoint, (beq_iff_eq.mp permitted).symm⟩

def guestPacket : Mbuf :=
  { mbufOn 2
      { tunnelFrame guestUnderlay peerUnderlay with
        data :=
          dpFillEtherHdr Port.absent etherTypeIpv4 ++
            beBytes 8 0x4500001c00000000 ++ beBytes 20 0 } with
    df :=
      { DpFlow.zeroed with
        l3Type := etherTypeIpv4
        tunInfo := { DpFlow.zeroed.tunInfo with ulDstAddr6 := peerUnderlay } } }

theorem guestTables_local : UnderlayLocal guestTables where
  interfaces := by
    intro id port held ready
    revert ready
    apply
      @PortTable.update_forall _ _
        (fun _ (port : Port) => port.iface.ready = true →
          port.iface.ulIpv6.pfx = hostConf.underlayIp.pfx)
        (fun _ => rfl) _ id port held
    apply PortTable.update_forall
    · intro ready
      cases ready
    apply PortTable.update_forall
    · intro ready
      cases ready
    · intro id port held
      cases held
  vnfs := by
    intro address vnf held
    by_cases same : address = guestUnderlay
    · rw [same]
      rfl
    unfold dpGetVnf at held
    simp only [guestTables, tablesWithGuest, Function.update_of_ne same] at held
    cases held

theorem guestDb_differ : PrefixesDiffer guestDb := by
  have slots : ∀ slot : Fin dpIpsecMaxSa, ∀ handle ∈ guestDb.sas slot,
      (guestDb.heap.sa handle).src.pfx ≠ (guestDb.heap.sa handle).dst.pfx := by
    decide +kernel
  intro key handle found
  rw [lookupSa, Option.bind_eq_some_iff] at found
  obtain ⟨sad, enabled, entry⟩ := found
  have invariant := saMachine_invariant hostConf
    [(.create (egressSa 256 100), Outcomes.success),
      (.create (ingressSa 512 100), Outcomes.success)]
  obtain ⟨member, _⟩ := (invariant.filed sad enabled key handle).mp entry
  obtain ⟨slot, held⟩ := (SlotTable.mem_owners handle).mp member
  exact slots slot handle held

theorem guestLookups_separated :
    ((guestDb.heap.sa 0).dir = .egress ∧ (guestDb.heap.sa 0).vni = 100) ∧
      (guestDb.heap.sa 1).dir = .ingress ∧
      (guestDb.heap.sa 1).spi = espSpi guestReceives.frame := by
  have separated :=
    saLookup_separated guestTables
      [(.create (egressSa 256 100), Outcomes.success),
        (.create (ingressSa 512 100), Outcomes.success)]
      guestDb_differ guestTables_local
  have sent :=
    separated.1 guestPacket (ipipEncap guestTables guestPacket).1 0
      (Prod.ext rfl (by decide +kernel)) (by decide +kernel)
  have received :=
    separated.2 guestReceives (cls guestTables guestReceives).1 1
      (Prod.ext rfl (by decide +kernel)) (by decide +kernel)
      (by decide +kernel)
  exact ⟨⟨sent.1, sent.2.1⟩, received.1, received.2.1⟩

end DpService.Nodes

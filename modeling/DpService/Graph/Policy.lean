import DpService.Graph.Hops

/-!
# The encryption policy

Which packets pass the IPsec nodes on their way through the graph.  Every
packet in flight satisfies a policy that depends on the node it waits at, and
every event keeps it.
-/

namespace DpService.Graph

open Foundations Packet Dataplane Flow Ipsec Nodes

variable {before after : Tables} {db : IpsecDb} {state : CryptoState} {objs : List MbufId}
    {result : BurstResult} {id : MbufId}

/-! ## The policy of a packet -/

namespace Flight

variable (flight : Flight)

def esp : Prop :=
  ipv6Proto flight.received = ipprotoEsp

def decrypted : Prop :=
  .ipsecDecap ∈ flight.path

def relayed : Prop :=
  .packetRelay ∈ flight.path

def encrypted : Prop :=
  .ipsecEncap ∈ flight.path

variable {flight}

theorem decrypted_moveTo (next : Node) : (flight.moveTo next).decrypted ↔
      flight.node = .ipsecDecap ∨ flight.decrypted := by
  unfold decrypted moveTo
  rw [List.mem_cons]
  exact or_congr_left eq_comm

theorem relayed_moveTo (next : Node) : (flight.moveTo next).relayed ↔
      flight.node = .packetRelay ∨ flight.relayed := by
  unfold relayed moveTo
  rw [List.mem_cons]
  exact or_congr_left eq_comm

theorem encrypted_moveTo (next : Node) : (flight.moveTo next).encrypted ↔
      flight.node = .ipsecEncap ∨ flight.encrypted := by
  unfold encrypted moveTo
  rw [List.mem_cons]
  exact or_congr_left eq_comm

end Flight

/-- The protection that the packet was received with is the one of the
endpoint that its tunnel leads to. -/
def Matched (tables : Tables) (flight : Flight) (df : DpFlow) : Prop :=
  ∀ vnf, dpGetVnf tables.vnfs df.tunInfo.ulDstAddr6 = some vnf →
    (flight.esp ↔ tables.encrypts vnf.portId = true)

structure ToGuest (tables : Tables) (df : DpFlow) : Prop where
  vnfType : df.vnfType ≠ .lb
  nxtHop : tables.isPf df.nxtHop = false

structure Inside (tables : Tables) (flight : Flight) (m : Mbuf) : Prop where
  plain : ¬ flight.encrypted
  fromPf : flight.decrypted → tables.isPf m.port = true
  direct : m.df.natType ≠ .lbRecirc

def Policy (tables : Tables) (flight : Flight) (m : Mbuf) : Node → Prop
  | .cls => ¬ flight.decrypted ∧ ¬ flight.encrypted ∧ (ipv6Proto m.frame = ipprotoEsp ↔ flight.esp)
  | .ipsecDecap =>
    Inside tables flight m ∧ tables.isPf m.port = true ∧ flight.esp ∧
      Matched tables flight m.df ∧ ToGuest tables m.df ∧ m.df.tunDstResolved = true
  | .ipipDecap =>
    Inside tables flight m ∧ tables.isPf m.port = true ∧
      (flight.esp ↔ flight.decrypted) ∧ Matched tables flight m.df ∧
      (flight.decrypted → ToGuest tables m.df ∧ m.df.tunDstResolved = true)
  | .conntrack =>
    Inside tables flight m ∧
      (tables.isPf m.port = true → (flight.esp ↔ flight.decrypted) ∧ Matched tables flight m.df) ∧
      (flight.decrypted → ToGuest tables m.df)
  | .lb => Inside tables flight m ∧ tables.isPf m.port = true ∧ ¬ flight.esp ∧ ¬ flight.decrypted
  | .dnat | .ipv4Lookup | .ipv6Lookup | .packetRelay => Inside tables flight m
  | .snat | .firewall =>
    Inside tables flight m ∧ (flight.decrypted → tables.isPf m.df.nxtHop = false)
  | .ipipEncap =>
    ¬ flight.encrypted ∧ (flight.decrypted → tables.isPf m.port = true ∧ flight.relayed) ∧
      (m.df.natType = .lbRecirc → tables.isPf m.port = true ∧ ¬ flight.esp ∧ ¬ flight.decrypted)
  | .ipsecEncap => tables.encrypts m.port = true ∧ tables.isPf m.port = false ∧ ¬ flight.decrypted
  | .tx port =>
    tables.isPf port = true →
      (tables.isPf m.port = false → (flight.encrypted ↔ tables.encrypts m.port = true)) ∧
      (flight.decrypted → flight.relayed ∧ ¬ flight.encrypted)
  | .drop | .arp | .ipv6Nd | .dhcp | .dhcpv6 => True

structure SameRoles (before after : Tables) : Prop where
  vnfs : after.vnfs = before.vnfs
  isPf : after.isPf = before.isPf
  encrypts : after.encrypts = before.encrypts

theorem SameRoles.refl (tables : Tables) : SameRoles tables tables :=
  ⟨rfl, rfl, rfl⟩

theorem Inside.congr {flight : Flight} {m : Mbuf}
    (same : SameRoles before after) (inside : Inside before flight m) :
    Inside after flight m where
  plain := inside.plain
  fromPf := by
    rw [same.isPf]
    exact inside.fromPf
  direct := inside.direct

theorem ToGuest.congr {df : DpFlow} (same : SameRoles before after) (guest : ToGuest before df) :
    ToGuest after df where
  vnfType := guest.vnfType
  nxtHop := by
    rw [same.isPf]
    exact guest.nxtHop

theorem Matched.congr {flight : Flight} {df : DpFlow}
    (same : SameRoles before after) (matched : Matched before flight df) :
    Matched after flight df := by
  unfold Matched
  rw [same.vnfs, same.encrypts]
  exact matched

theorem Policy.congr {flight : Flight} {m : Mbuf} {node : Node} (same : SameRoles before after)
    (policy : Policy before flight m node) :
    Policy after flight m node := by
  cases node with
  | drop | arp | ipv6Nd | dhcp | dhcpv6 => trivial
  | cls => exact policy
  | dnat | ipv4Lookup | ipv6Lookup | packetRelay =>
    exact Inside.congr same policy
  | ipsecDecap =>
    obtain ⟨inside, pf, esp, matched, guest, resolved⟩ := policy
    exact ⟨inside.congr same, same.isPf ▸ pf, esp, matched.congr same, guest.congr same, resolved⟩
  | ipipDecap =>
    obtain ⟨inside, pf, agree, matched, guest⟩ := policy
    exact
      ⟨inside.congr same, same.isPf ▸ pf, agree, matched.congr same,
        fun decrypted => ⟨(guest decrypted).1.congr same, (guest decrypted).2⟩⟩
  | conntrack =>
    obtain ⟨inside, agree, guest⟩ := policy
    refine ⟨inside.congr same, ?_, fun d => (guest d).congr same⟩
    rw [same.isPf]
    intro pf
    exact ⟨(agree pf).1, (agree pf).2.congr same⟩
  | lb =>
    obtain ⟨inside, pf, rest⟩ := policy
    exact ⟨inside.congr same, same.isPf ▸ pf, rest⟩
  | snat | firewall =>
    obtain ⟨inside, guest⟩ := policy
    exact ⟨inside.congr same, by rw [same.isPf]; exact guest⟩
  | ipipEncap =>
    change _ ∧ _ ∧ _
    rw [same.isPf]
    exact policy
  | ipsecEncap =>
    change _ ∧ _ ∧ _
    rw [same.isPf, same.encrypts]
    exact policy
  | tx port =>
    change _ → _
    rw [same.isPf, same.encrypts]
    exact policy

/-! ## One node -/

section Nodes

variable {tables : Tables} {flight : Flight} {m packet : Mbuf} {next : Node}

theorem Inside.move (inside : Inside tables flight m) (notDecap : flight.node ≠ .ipsecDecap)
    (notEncap : flight.node ≠ .ipsecEncap) (port : packet.port = m.port)
    (direct : packet.df.natType ≠ .lbRecirc) :
    Inside tables (flight.moveTo next) packet where
  plain := by
    rw [Flight.encrypted_moveTo]
    rintro (here | before)
    · exact notEncap here
    · exact inside.plain before
  fromPf := by
    rw [Flight.decrypted_moveTo, port]
    rintro (here | before)
    · exact absurd here notDecap
    · exact inside.fromPf before
  direct := direct

theorem not_esp_of_tunnelledType {proto : UInt8} {l3Type : UInt16}
    (carried : tunnelledType proto = some l3Type) :
    proto ≠ ipprotoEsp := by
  intro esp
  rw [esp] at carried
  cases carried

theorem toGuest_of_encrypting (sound : tables.Sound) {ulAddr6 : Ipv6} {vnf : Vnf} {dstPort : Port}
    (endpoint : tables.endpoint ulAddr6 = some (vnf, dstPort))
    (encrypting : dstPort.iface.encrypt = true) (df : DpFlow) :
    ToGuest tables (resolvedFlow df vnf) := by
  obtain ⟨held, found⟩ := portId_of_endpoint endpoint
  have entry := dpGetPortById_eq_some found
  have vf : tables.isPf vnf.portId = false := by
    apply sound.isPf_of_encrypts
    rw [Tables.encrypts_of_found found]
    exact encrypting
  refine ⟨?_, vf⟩
  intro lb
  have pf := (sound.endpoints ulAddr6 vnf dstPort held entry).mpr lb
  rw [Tables.isPf_of_found found, pf] at vf
  cases vf

theorem cls_policy (sound : tables.Sound) (waits : flight.node = .cls)
    (policy : Policy tables flight m .cls) :
    Policy tables (flight.moveTo (cls tables m).2) (cls tables m).1 (cls tables m).2 := by
  obtain ⟨notDecrypted, notEncrypted, esp⟩ := policy
  have decrypted : ∀ next, ¬ (flight.moveTo next).decrypted := by
    intro next
    rw [Flight.decrypted_moveTo, waits]
    exact not_or_intro nofun notDecrypted
  have inside : ∀ packet next, packet.df.natType = .chgNone →
      Inside tables (flight.moveTo next) packet := by
    intro packet next natType
    refine ⟨?_, fun passed => absurd passed (decrypted next), ?_⟩
    · rw [Flight.encrypted_moveTo, waits]
      exact not_or_intro nofun notEncrypted
    · rw [natType]
      exact nofun
  have classified := cls_classified tables m
  generalize cls tables m = result at classified
  cases classified with
  | dropped df => trivial
  | arp => trivial
  | neighbour port received fromVf => trivial
  | guest port l3Type l3PayloadLength received fromVf =>
    refine ⟨inside _ _ rfl, ?_, fun passed => absurd passed (decrypted _)⟩
    intro pf
    have vf := Tables.isPf_of_found received
    rw [fromVf] at vf
    rw [vf] at pf
    cases pf
  | encrypted inPort vnf dstPort received fromPf enabled endpoint encrypting
      isEsp =>
      obtain ⟨held, found⟩ := portId_of_endpoint endpoint
      refine
        ⟨inside _ _ rfl, (Tables.isPf_of_found received).trans fromPf,
          esp.mp isEsp, ?_, toGuest_of_encrypting sound endpoint encrypting _, rfl⟩
      intro other same
      have vnfSame : vnf = other := Option.some_inj.mp (held.symm.trans same)
      rw [← vnfSame, Tables.encrypts_of_found found, encrypting]
      exact iff_of_true (esp.mp isEsp) rfl
  | clearResolved inPort vnf dstPort l3Type received fromPf enabled endpoint
      cleartext carried =>
      obtain ⟨held, found⟩ := portId_of_endpoint endpoint
      have notEsp : ¬ flight.esp := fun received =>
        not_esp_of_tunnelledType carried (esp.mpr received)
      refine
        ⟨inside _ _ rfl, (Tables.isPf_of_found received).trans fromPf,
          iff_of_false notEsp (decrypted _), ?_,
          fun passed => absurd passed (decrypted _)⟩
      intro other same
      have vnfSame : vnf = other := Option.some_inj.mp (held.symm.trans same)
      rw [← vnfSame, Tables.encrypts_of_found found, cleartext]
      exact iff_of_false notEsp nofun
  | clearUnresolved inPort l3Type received fromPf disabled carried =>
    have notEsp : ¬ flight.esp := fun received =>
      not_esp_of_tunnelledType carried (esp.mpr received)
    refine
      ⟨inside _ _ rfl, (Tables.isPf_of_found received).trans fromPf,
        iff_of_false notEsp (decrypted _), ?_,
        fun passed => absurd passed (decrypted _)⟩
    intro vnf held
    refine iff_of_false notEsp fun encrypting => ?_
    have enabled := sound.enabled_of_encrypts encrypting
    rw [disabled] at enabled
    cases enabled

theorem dpVnfResolveTunnelDst_conntrack (tables : Tables) (m : Mbuf) :
    (dpVnfResolveTunnelDst tables m).1.df.conntrack = m.df.conntrack := by
  unfold dpVnfResolveTunnelDst
  split
  · rfl
  split
  · rfl
  · rfl

theorem ipipDecap_conntrack (tables : Tables) (m : Mbuf) :
    (ipipDecap tables m).1.df.conntrack = m.df.conntrack := by
  have resolved := dpVnfResolveTunnelDst_conntrack tables m
  unfold ipipDecap
  split
  · rename_i result
    rw [result] at resolved
    exact resolved
  rename_i result
  rw [result] at resolved
  split
  · exact resolved
  · exact resolved

theorem ipipDecap_hop (tables : Tables) (m : Mbuf) :
    ((ipipDecap tables m).2 = .drop ∨ (ipipDecap tables m).2 = .conntrack) ∧
      (ipipDecap tables m).1.port = m.port ∧ (ipipDecap tables m).1.df.natType = m.df.natType ∧
      (ipipDecap tables m).1.df.tunInfo.ulDstAddr6 = m.df.tunInfo.ulDstAddr6 ∧
      (m.df.tunDstResolved = true → (ipipDecap tables m).1.df = m.df) := by
  have resolution :
      ∃ df, (dpVnfResolveTunnelDst tables m).1 = { m with df } ∧ df.natType = m.df.natType ∧
        df.tunInfo.ulDstAddr6 = m.df.tunInfo.ulDstAddr6 ∧
        (m.df.tunDstResolved = true → df = m.df) := by
    unfold dpVnfResolveTunnelDst
    split
    · exact ⟨m.df, rfl, rfl, rfl, fun _ => rfl⟩
    rename_i unresolved
    split
    · exact ⟨m.df, rfl, rfl, rfl, fun _ => rfl⟩
    · exact ⟨_, rfl, rfl, rfl, fun resolved => absurd resolved unresolved⟩
  obtain ⟨df, same, natType, ulDst, kept⟩ := resolution
  unfold ipipDecap
  split
  · rename_i result
    rw [result] at same
    rw [show _ = _ from same]
    exact ⟨Or.inl rfl, rfl, natType, ulDst, kept⟩
  rename_i resolved dstPort result
  rw [result] at same
  rw [show resolved = _ from same]
  split
  · exact ⟨Or.inl rfl, rfl, natType, ulDst, kept⟩
  · exact ⟨Or.inr rfl, rfl, natType, ulDst, kept⟩

theorem ipipDecap_policy (waits : flight.node = .ipipDecap)
    (policy : Policy tables flight m .ipipDecap) :
    Policy tables (flight.moveTo (ipipDecap tables m).2)
      (ipipDecap tables m).1 (ipipDecap tables m).2 := by
  obtain ⟨edge, port, natType, ulDst, kept⟩ := ipipDecap_hop tables m
  obtain ⟨inside, pf, agree, matched, guest⟩ := policy
  have decrypted : ∀ next, (flight.moveTo next).decrypted ↔ flight.decrypted := by
    intro next
    rw [Flight.decrypted_moveTo, waits]
    exact or_iff_right nofun
  generalize ipipDecap tables m = result at edge port natType ulDst kept
  obtain ⟨packet, next⟩ := result
  dsimp only at edge port natType ulDst kept ⊢
  rcases edge with dropped | tracked
  · rw [dropped]
    trivial
  rw [tracked]
  refine ⟨?_, ?_, ?_⟩
  · exact
      inside.move (by rw [waits]; exact nofun) (by rw [waits]; exact nofun)
        port (natType ▸ inside.direct)
  · intro _
    refine ⟨agree.trans (decrypted _).symm, ?_⟩
    unfold Matched
    rw [ulDst]
    exact matched
  intro passed
  have before := guest ((decrypted _).mp passed)
  rw [kept before.2]
  exact before.1

theorem conntrack_policy {env : NodeEnv} (outcomes : ConntrackOutcomes) (store : FlowStore)
    (waits : flight.node = .conntrack) (policy : Policy env.tables flight m .conntrack) :
    Policy env.tables (flight.moveTo (conntrack env outcomes store m).2.2)
      (conntrack env outcomes store m).2.1
      (conntrack env outcomes store m).2.2 := by
  obtain ⟨same, edge⟩ := conntrack_hop env outcomes store m
  obtain ⟨inside, agree, guest⟩ := policy
  generalize (conntrack env outcomes store m).2 = result at same edge
  obtain ⟨packet, next⟩ := result
  dsimp only at same edge ⊢
  have decrypted : ∀ next, (flight.moveTo next).decrypted ↔ flight.decrypted := by
    intro next
    rw [Flight.decrypted_moveTo, waits]
    exact or_iff_right nofun
  have moved : ∀ next, Inside env.tables (flight.moveTo next) packet :=
    fun next =>
      inside.move (by rw [waits]; exact nofun) (by rw [waits]; exact nofun)
        same.port (same.natType ▸ inside.direct)
  have stays : flight.decrypted → env.tables.isPf packet.df.nxtHop = false := by
    intro passed
    rw [same.nxtHop]
    exact (guest passed).nxtHop
  rcases edge with dropped | dhcp | dhcpv6 | routed
  · rw [dropped]
    trivial
  · rw [dhcp]
    trivial
  · rw [dhcpv6]
    trivial
  rw [routed, conntrackNext]
  split
  · rename_i fromPf
    rw [dpGetInPort_isPf] at fromPf
    split
    · rename_i lb
      have notDecrypted : ¬ flight.decrypted := by
        intro passed
        exact (guest passed).vnfType (same.vnfType ▸ lb)
      have esp := (agree (same.port ▸ fromPf)).1
      exact
        ⟨moved _, fromPf, fun received => notDecrypted (esp.mp received),
          fun passed => notDecrypted ((decrypted _).mp passed)⟩
    · exact moved _
    · exact moved _
    · exact ⟨moved _, fun passed => stays ((decrypted _).mp passed)⟩
    · exact ⟨moved _, fun passed => stays ((decrypted _).mp passed)⟩
    · exact ⟨moved _, fun passed => stays ((decrypted _).mp passed)⟩
    · trivial
  · exact moved _

theorem lb_policy (waits : flight.node = .lb) (policy : Policy tables flight m .lb)
    (balanced : Balanced m packet next) :
    Policy tables (flight.moveTo next) packet next := by
  obtain ⟨inside, pf, notEsp, notDecrypted⟩ := policy
  have decrypted : ∀ next, ¬ (flight.moveTo next).decrypted := by
    intro next
    rw [Flight.decrypted_moveTo, waits]
    exact not_or_intro nofun notDecrypted
  have notDecap : flight.node ≠ .ipsecDecap := by
    rw [waits]
    exact nofun
  have notEncap : flight.node ≠ .ipsecEncap := by
    rw [waits]
    exact nofun
  cases balanced with
  | passed => exact inside.move notDecap notEncap rfl inside.direct
  | dropped => trivial
  | answered => exact inside.move notDecap notEncap rfl nofun
  | sent packet port => ?_
  refine ⟨?_, fun passed => absurd passed (decrypted _), ?_⟩
  · rw [Flight.encrypted_moveTo, waits]
    exact not_or_intro nofun inside.plain
  · intro _
    rw [port]
    exact ⟨pf, notEsp, decrypted _⟩

theorem dnat_policy (waits : flight.node = .dnat) (policy : Policy tables flight m .dnat)
    (carried : Carries m packet) (edge : next ∈ dnatEdges) :
    Policy tables (flight.moveTo next) packet next := by
  have inside : Inside tables flight m := policy
  have moved : Inside tables (flight.moveTo next) packet :=
    inside.move (by rw [waits]; exact nofun) (by rw [waits]; exact nofun)
      carried.port (carried.direct inside.direct)
  simp only [dnatEdges, List.mem_cons, List.not_mem_nil, or_false] at edge
  rcases edge with dropped | relay | lookup | lookup6
  · rw [dropped]
    trivial
  · rw [relay] at moved ⊢
    exact moved
  · rw [lookup] at moved ⊢
    exact moved
  · rw [lookup6] at moved ⊢
    exact moved

theorem lookup_policy (notDecap : flight.node ≠ .ipsecDecap) (notEncap : flight.node ≠ .ipsecEncap)
    (inside : Inside tables flight m) (routed : Routed tables m packet) :
    Policy tables (flight.moveTo .snat) packet .snat := by
  refine ⟨inside.move notDecap notEncap routed.port (routed.natType ▸ inside.direct), ?_⟩
  rw [Flight.decrypted_moveTo]
  rintro (here | passed)
  · exact absurd here notDecap
  · exact routed.nxtHop (inside.fromPf passed)

theorem snat_policy (waits : flight.node = .snat) (policy : Policy tables flight m .snat)
    (carried : Carries m packet) (edge : next ∈ snatEdges) :
    Policy tables (flight.moveTo next) packet next := by
  obtain ⟨inside, stays⟩ := policy
  simp only [snatEdges, List.mem_cons, List.not_mem_nil, or_false] at edge
  rcases edge with dropped | firewall
  · rw [dropped]
    trivial
  rw [firewall]
  refine
    ⟨inside.move (by rw [waits]; decide) (by rw [waits]; decide)
      carried.port (carried.direct inside.direct), ?_⟩
  rw [Flight.decrypted_moveTo, waits, carried.nxtHop]
  rintro (here | passed)
  · cases here
  · exact stays passed

theorem nextVfTx_policy (flight : Flight) (m : Mbuf) (id : PortId) :
    Policy tables (flight.moveTo (tables.nextVfTx id)) m (tables.nextVfTx id) := by
  rcases tables.nextVfTx_cases id with dropped | ⟨sent, vf⟩
  · rw [dropped]
    trivial
  rw [sent]
  intro pf
  rw [vf] at pf
  cases pf

theorem firewall_policy (waits : flight.node = .firewall)
    (policy : Policy tables flight m .firewall)
    (edge : next = .ipipEncap ∧ tables.isPf m.df.nxtHop = true ∨ ∃ id, next = tables.nextVfTx id) :
    Policy tables (flight.moveTo next) m next := by
  obtain ⟨inside, stays⟩ := policy
  rcases edge with ⟨toPf, pf⟩ | ⟨id, toVf⟩
  · rw [toPf]
    have notDecrypted : ¬ (flight.moveTo .ipipEncap).decrypted := by
      rw [Flight.decrypted_moveTo, waits]
      rintro (here | passed)
      · cases here
      · rw [stays passed] at pf
        cases pf
    refine ⟨?_, fun passed => absurd passed notDecrypted, fun recirc => absurd recirc inside.direct⟩
    rw [Flight.encrypted_moveTo, waits]
    exact not_or_intro nofun inside.plain
  · rw [toVf]
    exact nextVfTx_policy flight m id

theorem packetRelay_policy (waits : flight.node = .packetRelay)
    (policy : Policy tables flight m .packetRelay) (relayed : Relayed m packet)
    (edge : next = .drop ∨ next = .ipipEncap) :
    Policy tables (flight.moveTo next) packet next := by
  have inside : Inside tables flight m := policy
  rcases edge with dropped | encap
  · rw [dropped]
    trivial
  rw [encap]
  refine ⟨?_, ?_, ?_⟩
  · rw [Flight.encrypted_moveTo, waits]
    exact not_or_intro nofun inside.plain
  · rw [Flight.decrypted_moveTo, Flight.relayed_moveTo, waits, relayed.port]
    rintro (here | passed)
    · cases here
    · exact ⟨inside.fromPf passed, Or.inl rfl⟩
  · intro recirc
    exact absurd (relayed.natType.symm.trans recirc) inside.direct

theorem ipipEncap_policy (sound : tables.Sound) (waits : flight.node = .ipipEncap)
    (policy : Policy tables flight m .ipipEncap) :
    Policy tables (flight.moveTo (ipipEncap tables m).2)
      (ipipEncap tables m).1 (ipipEncap tables m).2 := by
  obtain ⟨port, edge⟩ := ipipEncap_cases tables m
  obtain ⟨plain, relay, recirc⟩ := policy
  generalize ipipEncap tables m = result at port edge
  obtain ⟨packet, next⟩ := result
  dsimp only at port edge ⊢
  have encrypted : ∀ next, ¬ (flight.moveTo next).encrypted := by
    intro next
    rw [Flight.encrypted_moveTo, waits]
    exact not_or_intro nofun plain
  have decrypted : ∀ next, (flight.moveTo next).decrypted ↔ flight.decrypted := by
    intro next
    rw [Flight.decrypted_moveTo, waits]
    exact or_iff_right nofun
  rcases edge with dropped | ⟨routed, made⟩
  · rw [dropped]
    trivial
  rw [routed, ipipEncapNext]
  split
  · -- back into `cls`, with a tunnel header of this node
    rename_i again
    obtain ⟨pf, notEsp, notDecrypted⟩ := recirc again
    obtain ⟨header, carried, _, payload, layout⟩ := made.df
    have proto : ipv6Proto packet.frame = header.proto :=
      ipv6Proto_of_layout layout (length_dpFillEtherHdr _ _)
    refine
      ⟨fun passed => notDecrypted ((decrypted _).mp passed), encrypted _, iff_of_false ?_ notEsp⟩
    rw [proto]
    exact not_esp_of_tunnelledType (tunnelHeader_proto carried)
  split
  · rename_i encrypting
    rw [dpGetInPort_encrypt] at encrypting
    have vf := sound.isPf_of_encrypts encrypting
    rcases tables.nextIpsec_cases m.df.nxtHop with dropped | encap
    · rw [dropped]
      trivial
    rw [encap]
    change tables.encrypts packet.port = true ∧ _ ∧ _
    rw [port]
    refine ⟨encrypting, vf, ?_⟩
    rw [decrypted]
    intro passed
    rw [(relay passed).1] at vf
    cases vf
  rename_i cleartext
  rw [dpGetInPort_encrypt] at cleartext
  rcases tables.nextPfTx_cases m.df.nxtHop with dropped | sent
  · rw [dropped]
    trivial
  rw [sent]
  intro _
  rw [port]
  refine ⟨fun _ => iff_of_false (encrypted _) cleartext, ?_⟩
  rw [decrypted, Flight.relayed_moveTo]
  intro passed
  exact ⟨Or.inr (relay passed).2, encrypted _⟩

end Nodes

/-! ## Answers to a guest -/

section Services

variable {tables : Tables}

theorem sameRoles_of_updatePort {new old : Port} (held : tables.ports.entry new.portId = some old)
    (isPf : new.isPf = old.isPf) (encrypt : new.iface.encrypt = old.iface.encrypt) :
    SameRoles tables { tables with ports := tables.ports.update new } := by
  have found : ∀ id, dpGetPortById (tables.ports.update new) id = dpGetPortById tables.ports id ∨
        dpGetPortById (tables.ports.update new) id = some new ∧
          dpGetPortById tables.ports id = some old := by
    intro id
    unfold dpGetPortById
    split
    · by_cases same : id = new.portId
      · rw [same, PortTable.update_entry_self, held]
        exact Or.inr ⟨rfl, rfl⟩
      · rw [PortTable.update_entry_of_ne tables.ports same]
        exact Or.inl rfl
    · exact Or.inl rfl
  refine ⟨rfl, ?_, ?_⟩
  · funext id
    unfold Tables.isPf
    rcases found id with same | ⟨after, before⟩
    · rw [same]
    · rw [after, before]
      exact isPf
  funext id
  unfold Tables.encrypts
  rcases found id with same | ⟨after, before⟩
  · rw [same]
  · rw [after, before]
    exact encrypt

theorem dpL2AddrSet_roles (sound : tables.Sound) (id : PortId) (mac : MacAddr) :
    SameRoles tables { tables with ports := dpL2AddrSet tables.ports id mac } ∧
      Tables.Sound
        { tables with ports := dpL2AddrSet tables.ports id mac } := by
  unfold dpL2AddrSet
  split
  · exact ⟨SameRoles.refl tables, sound⟩
  rename_i port found
  have entry := dpGetPortById_eq_some found
  rw [← tables.ports.numbered id port entry] at entry
  constructor
  · exact @sameRoles_of_updatePort tables { port with neighMac := mac } port entry rfl rfl
  refine
    @Tables.Sound.updatePort tables sound { port with neighMac := mac }
      port entry rfl ?_ (sound.pfAllocated port.portId port entry)
  intro encrypting
  refine ⟨sound.enabled port.portId port entry encrypting, ?_⟩
  by_contra pf
  have plain := sound.pfPlain port.portId port entry (Bool.eq_true_of_not_eq_false pf)
  exact Bool.noConfusion (plain.symm.trans encrypting)

theorem service_roles (sound : tables.Sound) (outcome : ServiceOutcome) (m : Mbuf) :
    SameRoles tables (service tables outcome m).1 ∧ (service tables outcome m).1.Sound := by
  unfold service
  cases outcome.answer with
  | none =>
    cases outcome.neighMac with
    | none => exact ⟨SameRoles.refl tables, sound⟩
    | some mac => exact dpL2AddrSet_roles sound m.port mac
  | some frame =>
    cases outcome.neighMac with
    | none => exact ⟨SameRoles.refl tables, sound⟩
    | some mac => exact dpL2AddrSet_roles sound m.port mac

theorem service_policy (flight : Flight) (outcome : ServiceOutcome) (m : Mbuf) :
    Policy tables (flight.moveTo (service tables outcome m).2.2)
      (service tables outcome m).2.1 (service tables outcome m).2.2 := by
  unfold service
  cases outcome.answer with
  | none => trivial
  | some frame => exact nextVfTx_policy flight _ m.port

end Services

/-! ## The IPsec nodes -/

section Bursts

variable {node : CryptoNode} {env : CryptoEnv} {heap : SaHeap}

/-- What of a packet depends on neither its bytes nor its mark. -/
def OfFlowData {Part : Type} (part : Mbuf → Part) : Prop :=
  ∀ m frame mark, part { m with frame, mark } = part m

theorem packetAfter_kept {Part : Type} {part : Mbuf → Part} (ofFlowData : OfFlowData part)
    {m : Mbuf} (permit : ∀ sa, part (node.permit sa m).1 = part m)
    (settle : ∀ ok packet, part (node.settle ok packet) = part packet)
    (completed : List CryptoOp) (id : MbufId) (found : Option Handle) :
    part (packetAfter node env heap completed id found m) = part m := by
  cases found with
  | none => rfl
  | some handle => ?_
  have prepared : part (preparePacket node env heap id handle m).1 = part m := by
    have permitted := permit (heap.sa handle)
    unfold preparePacket
    split
    · rename_i refused
      rw [refused] at permitted
      exact permitted
    · rename_i packet granted
      rw [granted] at permitted
      exact (ofFlowData packet _ packet.mark).trans permitted
  rw [packetAfter]
  dsimp only
  split
  · refine Eq.trans ?_ prepared
    have completes : ∀ packet : Mbuf,
        part (completePacket env heap handle id packet) = part packet :=
      fun packet => ofFlowData packet _ packet.mark
    have processes : ∀ packet : Mbuf,
        part (processedPacket env heap handle id packet) = part packet :=
      fun packet => ofFlowData packet _ packet.mark
    exact (settle _ _).trans ((processes _).trans (completes _))
  · exact prepared

theorem ipsecEncap_settle_tunnel (tables : Tables) (ok : Bool) (m : Mbuf) :
    SameTunnel m ((ipsecEncap tables).settle ok m) := by
  cases ok with
  | true => exact ⟨rfl, rfl, rfl, rfl, rfl, rfl, rfl⟩
  | false => exact ⟨rfl, rfl, rfl, rfl, rfl, rfl, rfl⟩

theorem ipsecDecap_settle_tunnel (tables : Tables) (ok : Bool) (m : Mbuf) :
    SameTunnel m ((ipsecDecap tables).settle ok m) := by
  change SameTunnel m (ipsecDecapSettle ok m)
  unfold ipsecDecapSettle
  split
  · unfold ipsecDecapRestoreFlow
    split
    · exact SameTunnel.refl m
    rename_i restored result
    split at result
    · cases result
    · rw [← Option.some_inj.mp result]
      exact ⟨rfl, rfl, rfl, rfl, rfl, rfl, rfl⟩
  · exact SameTunnel.refl m

theorem ipsecDecapSettle_conntrack (ok : Bool) (m : Mbuf) :
    (ipsecDecapSettle ok m).df.conntrack = m.df.conntrack := by
  unfold ipsecDecapSettle
  split
  · unfold ipsecDecapRestoreFlow
    split
    · rfl
    rename_i restored result
    split at result
    · cases result
    · rw [← Option.some_inj.mp result]
      rfl
  · rfl

theorem ipsecDecapPermit_conntrack (tables : Tables) (sa : IpsecSa) (m : Mbuf) :
    (ipsecDecapPermit tables sa m).1.df.conntrack = m.df.conntrack := by
  have resolved := dpVnfResolveTunnelDst_conntrack tables m
  unfold ipsecDecapPermit
  split
  · rename_i result
    rw [result] at resolved
    exact resolved
  · rename_i result
    rw [result] at resolved
    exact resolved

theorem ipsecDecap_permit_tunnel
    (tables : Tables) {m : Mbuf} (resolved : m.df.tunDstResolved = true)
    (sa : IpsecSa) : SameTunnel m ((ipsecDecap tables).permit sa m).1 := by
  change SameTunnel m (ipsecDecapPermit tables sa m).1
  have known : dpVnfResolveTunnelDst tables m = (m, dpGetPortById tables.ports m.df.nxtHop) := by
    rw [dpVnfResolveTunnelDst, if_pos resolved]
  rw [ipsecDecapPermit, known]
  cases dpGetPortById tables.ports m.df.nxtHop with
  | none => exact SameTunnel.refl m
  | some port => exact SameTunnel.refl m

theorem burst_kept {Part : Type} {part : Mbuf → Part} (ofFlowData : OfFlowData part)
    (spec : BurstSpec node env db state objs result) (member : id ∈ objs)
    (permit : ∀ sa, part (node.permit sa (setCryptoFailed true (state.mbufs id))).1 =
        part (setCryptoFailed true (state.mbufs id)))
    (settle : ∀ ok packet, part (node.settle ok packet) = part packet) :
    part (result.state.mbufs id) = part (state.mbufs id) := by
  have marked : part (setCryptoFailed true (state.mbufs id)) = part (state.mbufs id) :=
    ofFlowData (state.mbufs id) _ _
  rw [spec.packets id member]
  split
  · exact (packetAfter_kept ofFlowData permit settle _ id _).trans marked
  · exact marked

def tunnelOf (m : Mbuf) : PortId × Ipv6 × NatType × VnfType × PortId × Bool × UInt32 :=
  (m.port, m.df.tunInfo.ulDstAddr6, m.df.natType, m.df.vnfType, m.df.nxtHop, m.df.tunDstResolved,
    m.df.l3PayloadLength)

theorem SameTunnel.iff (before after : Mbuf) :
    SameTunnel before after ↔ tunnelOf after = tunnelOf before := by
  simp only [tunnelOf, Prod.mk.injEq]
  constructor
  · intro same
    exact
      ⟨same.port, same.ulDst, same.natType, same.vnfType, same.nxtHop, same.resolved, same.length⟩
  · rintro ⟨port, ulDst, natType, vnfType, nxtHop, resolved, length⟩
    exact ⟨port, ulDst, natType, vnfType, nxtHop, resolved, length⟩

theorem burst_tunnel (spec : BurstSpec node env db state objs result) (member : id ∈ objs)
    (permit : ∀ sa,
      SameTunnel (setCryptoFailed true (state.mbufs id))
        (node.permit sa (setCryptoFailed true (state.mbufs id))).1)
    (settle : ∀ ok packet, SameTunnel packet (node.settle ok packet)) :
    SameTunnel (state.mbufs id) (result.state.mbufs id) := by
  have ofFlowData : OfFlowData tunnelOf := fun _ _ _ => rfl
  rw [SameTunnel.iff]
  exact
    burst_kept ofFlowData spec member (fun sa => (SameTunnel.iff _ _).mp (permit sa))
      (fun ok packet => (SameTunnel.iff _ _).mp (settle ok packet))

theorem burst_conntrack {tables : Tables} {dir : IpsecDir}
    (spec : BurstSpec (ipsecNode tables dir) env db state objs result) (member : id ∈ objs) :
    (result.state.mbufs id).df.conntrack = (state.mbufs id).df.conntrack := by
  have ofFlowData : OfFlowData fun m => m.df.conntrack := fun _ _ _ => rfl
  cases dir with
  | egress =>
    refine burst_kept ofFlowData spec member (fun _ => rfl) ?_
    intro ok packet
    cases ok with
    | true => rfl
    | false => rfl
  | ingress =>
    apply burst_kept ofFlowData spec member
    · intro sa
      exact ipsecDecapPermit_conntrack tables sa _
    · intro ok packet
      exact ipsecDecapSettle_conntrack ok packet

end Bursts

end DpService.Graph

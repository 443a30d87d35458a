import DpService.Graph.Policy
import DpService.Nodes.FlowSteps

/-!
# Packets and their flows on the way through the graph

Every node keeps the sharing of flows, and passes a packet on with a flow that
is still there.  The packets that wait at the NAT nodes stay ready to have
their flow decided about, whatever the other packets do in between.
-/

namespace DpService.Graph

open Foundations Packet Dataplane Flow Ipsec Nodes

variable {f : Handle} {visit : Visit}

variable {demands : Demands} {env : NodeEnv} {store : FlowStore} {m : Mbuf}

theorem quiet_of_undecided (shared : Shared demands store) (live : store.Live f)
    (undecided : (store.value f).Undecided) {after : FlowValue}
    (org : after.org = (store.value f).org) (reply : after.reply = (store.value f).reply)
    (created : after.createdPortId = (store.value f).createdPortId) (other : ¬ after.NatLocal) :
    Quiet (store.value f) after := by
  have unnatted := (shared.undecided f live undecided).2
  exact
    ⟨org, reply, created, iff_of_false other unnatted, fun natLocal => absurd natLocal unnatted,
      fun _ => undecided⟩

theorem undecided_of_hasNoFlags {value : FlowValue} (noFlags : value.flowFlags.hasNoFlags = true) :
    value.Undecided :=
  eq_of_beq noFlags

theorem awaits_nextVfTx (tables : Tables) (id : PortId) : awaits (tables.nextVfTx id) = false := by
  rcases Tables.nextVfTx_cases tables id with drop | ⟨tx, _⟩
  · rw [drop]
    rfl
  · rw [tx]
    rfl

/-! ## `lb` -/

theorem lbNewFlow_passes (shared : Shared demands store)
    (follows : Follows store m) (carried : m.df.conntrack = some f)
    (undecided : (store.value f).Undecided) :
    Passes demands store (lbNewFlow env store f m).flows
      (lbNewFlow env store f m).m (lbNewFlow env store f m).next := by
  have live := follows f carried
  have same := Advances.refl shared
  unfold lbNewFlow
  split
  · exact .of_not_awaits same follows rfl rfl
  split
  · exact .of_not_awaits same follows rfl rfl
  split
  · exact .of_not_awaits same follows rfl rfl
  rename_i target _
  have balanced : ∀ natType : NatType,
      (if natType = .lbRecirc then FlowNatType.lbRecirc
        else FlowNatType.lbForward) ≠ .networkLocal := by
    intro natType
    split
    · exact nofun
    · exact nofun
  have quiet :
      Quiet (store.value f)
        (lbFlow target (lbTowards env.tables m target).df.natType (store.value f)) :=
    quiet_of_undecided shared live undecided rfl rfl rfl (balanced _)
  exact
    .of_not_awaits (Advances.modify_of_counts shared live quiet rfl rfl)
      follows (dpLbSetNextHop_conntrack ..) rfl

theorem lb_passes (shared : Shared demands store)
    (follows : Follows store m) (ready : Ready store m) (result : lb env store m = some visit) :
    Passes demands store visit.flows visit.m visit.next := by
  have same := Advances.refl shared
  unfold lb at result
  split at result
  · rw [← Option.some_inj.mp result]
    exact ⟨same, follows, fun _ => ready⟩
  rw [Option.map_eq_some_iff] at result
  obtain ⟨f, carried, result⟩ := result
  rw [← result]
  dsimp only
  split
  · rename_i new
    rw [Bool.and_eq_true, Bool.and_eq_true] at new
    exact lbNewFlow_passes shared follows carried (undecided_of_hasNoFlags new.1.1)
  split
  · exact .of_not_awaits same follows (dpLbSetNextHop_conntrack ..) rfl
  split
  · exact .of_not_awaits same follows rfl rfl
  · exact ⟨same, follows, fun _ => ready⟩

/-! ## `dnat` -/

theorem decided_modify {f : Handle} {change : FlowValue → FlowValue}
    (org : (change (store.value f)).org = (store.value f).org)
    (reply : (change (store.value f)).reply = (store.value f).reply)
    (created : (change (store.value f)).createdPortId = (store.value f).createdPortId)
    (rules : (change (store.value f)).rules = (store.value f).rules)
    (refCount : (change (store.value f)).refCount = (store.value f).refCount)
    (flags : ¬ (change (store.value f)).Undecided) (ports : NatPorts) :
    Decided store (FlowStore.modify { store with ports } f change) f := by
  have value : (FlowStore.modify { store with ports } f change).value f =
        change (store.value f) :=
    FlowStore.modify_value_self ..
  have changed : Unmoved { store with ports } (FlowStore.modify { store with ports } f change) :=
    .modify org reply refCount rules fun undecided => absurd undecided flags
  exact
    ⟨(Unmoved.setPorts store ports).trans changed,
      fun _ => FlowStore.modify_value_of_ne _ change, value ▸ created, value ▸ flags⟩

theorem raiseDstNat_decided (value : FlowValue) : ¬ (FlowValue.raiseDstNat value).Undecided := by
  intro undecided
  have raised : true = false := congrArg FlowFlags.dstNat undecided
  cases raised

theorem dnatVip_passes (shared : Shared demands store)
    (follows : Follows store m) (ready : Ready store m) (carried : m.df.conntrack = some f)
    (undecided : (store.value f).Undecided) (dnatIp : Ipv4) :
    Passes demands store (dnatVip env true store f m dnatIp).flows
      (dnatVip env true store f m dnatIp).m
      (dnatVip env true store f m dnatIp).next := by
  have live := follows f carried
  have two := (ready f carried undecided).1
  have unnatted := (shared.undecided f live undecided).2
  have decided : Decided store (store.modify f FlowValue.raiseDstNat) f :=
    decided_modify rfl rfl rfl rfl rfl (raiseDstNat_decided _) store.ports
  have carries := changeDstIp_carries env m (setIpv4Dst m.frame dnatIp) dnatIp
  unfold dnatVip
  dsimp only
  generalize changeDstIp env m (setIpv4Dst m.frame dnatIp) dnatIp = changed at carries ⊢
  obtain ⟨after, result, advances, decidedAfter⟩ :=
    Advances.rekey shared live undecided two decided
      (fun reply => { reply with l3Src := .v4 (ipv4Dst changed.frame) })
      (by rw [FlowStore.modify_value_self]; exact shared.sameVni f live)
      (fun _ => Or.inl ⟨by rw [FlowStore.modify_value_self]; exact unnatted, Unchanged.refl _⟩)
  rw [result]
  refine ⟨advances, ?_, ?_⟩
  · intro g held
    exact advances.evolves.live g (follows g (carries.conntrack ▸ held))
  intro _ g held now
  rw [carries.conntrack, carried, Option.some_inj] at held
  rw [← held] at now
  exact absurd now decidedAfter

theorem dnatKnownFlow_of_undecided {value : FlowValue} (undecided : value.Undecided) :
    dnatKnownFlow env value m = (m, lookupNode m.df.l3Type) := by
  have flags : value.flowFlags = FlowFlags.none := undecided
  simp [dnatKnownFlow, dnatForward, dnatAnswer, dnatRewritten, flags, FlowFlags.none]

theorem dnatKnownFlow_passes (shared : Shared demands store)
    (follows : Follows store m) (ready : Ready store m) (carried : m.df.conntrack = some f) :
    Passes demands store store (dnatKnownFlow env (store.value f) m).1
      (dnatKnownFlow env (store.value f) m).2 := by
  obtain ⟨carries, _⟩ := dnatKnownFlow_hop env (store.value f) m
  refine ⟨Advances.refl shared, ?_, ?_⟩
  · intro g held
    exact follows g (carries.conntrack ▸ held)
  intro _ g held undecided
  have same : f = g := by
    rw [carries.conntrack, carried] at held
    exact Option.some_inj.mp held
  subst same
  rw [dnatKnownFlow_of_undecided undecided]
  exact ready f carried undecided

theorem dnatNetworkNat_passes (shared : Shared demands store)
    (follows : Follows store m) (carried : m.df.conntrack = some f)
    (undecided : (store.value f).Undecided) :
    Passes demands store (dnatNetworkNat env store f m).flows
      (dnatNetworkNat env store f m).m (dnatNetworkNat env store f m).next := by
  have live := follows f carried
  unfold dnatNetworkNat
  split
  · have quiet : Quiet (store.value f) ((store.value f).setNatType .asTarget) :=
      quiet_of_undecided shared live undecided rfl rfl rfl nofun
    have advances :
        Advances demands store (store.modify f fun value => value.setNatType .asTarget) :=
      Advances.modify_of_counts shared live quiet rfl rfl
    exact .of_not_awaits advances follows rfl rfl
  split
  · exact .of_not_awaits (Advances.refl shared) follows rfl rfl
  rename_i underlayDst _
  have quiet :
      Quiet (store.value f) (neighnatFlow m.df underlayDst (store.value f)) :=
    quiet_of_undecided shared live undecided rfl rfl rfl nofun
  exact
    .of_not_awaits (Advances.modify_of_counts shared live quiet rfl rfl) follows rfl rfl

theorem dnat_passes (shared : Shared demands store)
    (follows : Follows store m) (ready : Ready store m)
    (result : dnat env true store m = some visit) :
    Passes demands store visit.flows visit.m visit.next := by
  rw [dnat, Option.map_eq_some_iff] at result
  obtain ⟨f, carried, result⟩ := result
  rw [← result]
  dsimp only
  split
  · rename_i new
    rw [Bool.and_eq_true, Bool.and_eq_true] at new
    have undecided := undecided_of_hasNoFlags new.1.1
    unfold dnatNewFlow
    split
    · exact ⟨Advances.refl shared, follows, fun _ => ready⟩
    split
    · exact dnatNetworkNat_passes shared follows carried undecided
    · exact dnatVip_passes shared follows ready carried undecided _
  · exact dnatKnownFlow_passes shared follows ready carried

/-! ## Lookups -/

structure SameHeaders (before after : Mbuf) : Prop where
  conntrack : after.df.conntrack = before.df.conntrack
  flowDir : after.df.flowDir = before.df.flowDir
  l3Type : after.df.l3Type = before.df.l3Type
  src : after.df.src = before.df.src
  dst : after.df.dst = before.df.dst
  l4Type : after.df.l4Type = before.df.l4Type
  l4Info : after.df.l4Info = before.df.l4Info
  dst6 : ipv6Dst after.frame = ipv6Dst before.frame

theorem SameHeaders.matches {after : Mbuf} (same : SameHeaders m after) {key : FlowKey}
    (matching : Matches key m) : Matches key after where
  addresses := by
    rw [keyAddresses, same.l3Type, same.dst, same.src]
    exact matching.addresses
  proto := matching.proto.trans same.l4Type.symm
  dstPort := by
    rw [natDstPort, same.l4Type, same.l4Info]
    exact matching.dstPort
  srcPort := by
    rw [natSrcPort, same.l4Type, same.l4Info]
    exact matching.srcPort
  frameDst := by
    rw [same.l3Type, same.dst6, same.dst]
    exact matching.frameDst

theorem SameHeaders.ready {after : Mbuf} (same : SameHeaders m after) (ready : Ready store m) :
    Ready store after := by
  intro f carried undecided
  rw [same.conntrack] at carried
  obtain ⟨two, forward⟩ := ready f carried undecided
  refine ⟨two, ?_⟩
  intro org
  rw [same.flowDir] at org
  exact same.matches (forward org)

theorem ipv6Dst_write_etherHdr (frame : Frame) (port : Port) (etherType : UInt16) :
    ipv6Dst (frame.write 0 (dpFillEtherHdr port etherType)) = ipv6Dst frame := by
  unfold ipv6Dst Frame.ipv6At
  rw [Frame.bytesAt_write_of_disjoint]
  rw [length_dpFillEtherHdr]
  decide

theorem forwardRouted_headers (strayVni : Vni) (etherType : UInt16) (viaPf : Port → Port)
    (found : Option (Port × RibNode)) :
    (forwardRouted env strayVni etherType viaPf found m = (m, .drop)) ∨
      SameHeaders m (forwardRouted env strayVni etherType viaPf found m).1 := by
  unfold forwardRouted
  split
  · exact Or.inl rfl
  dsimp only
  split
  · split
    · exact Or.inl rfl
    · exact Or.inr ⟨rfl, rfl, rfl, rfl, rfl, rfl, rfl, rfl⟩
  · exact Or.inr ⟨rfl, rfl, rfl, rfl, rfl, rfl, rfl, ipv6Dst_write_etherHdr m.frame _ _⟩

theorem forwardRouted_passes (shared : Shared demands store)
    (follows : Follows store m) (ready : Ready store m) (strayVni : Vni) (etherType : UInt16)
    (viaPf : Port → Port) (found : Option (Port × RibNode)) :
    Passes demands store store
      (forwardRouted env strayVni etherType viaPf found m).1
      (forwardRouted env strayVni etherType viaPf found m).2 := by
  rcases @forwardRouted_headers env m strayVni etherType viaPf found with
    dropped | same
  · rw [dropped]
    exact .of_not_awaits (Advances.refl shared) follows rfl rfl
  · refine ⟨Advances.refl shared, ?_, fun _ => same.ready ready⟩
    intro f held
    exact follows f (same.conntrack ▸ held)

/-! ## `firewall` and `tx` -/

theorem firewall_passes (shared : Shared demands store)
    (follows : Follows store m) (result : firewall env store m = some visit) :
    Passes demands store visit.flows visit.m visit.next := by
  rw [firewall, Option.map_eq_some_iff] at result
  obtain ⟨f, carried, result⟩ := result
  have live := follows f carried
  have elsewhere : awaits visit.next = false := by
    rw [← result]
    dsimp only
    split
    · rfl
    · exact awaits_nextVfTx env.tables _
  have packet : visit.m = m := by
    rw [← result]
  apply Passes.of_not_awaits _ follows (congrArg (·.df.conntrack) packet) elsewhere
  rw [← result]
  dsimp only
  split
  · apply Advances.modify_of_counts shared live _ rfl rfl
    refine ⟨rfl, rfl, rfl, Iff.rfl, fun _ => rfl, ?_⟩
    intro undecided
    have raised : true = false := congrArg FlowFlags.firewall undecided
    cases raised
  · exact Advances.refl shared

theorem tx_advances (shared : Shared demands store)
    (follows : Follows store m) (conf : DpConf) (rules : Nat) :
    Advances demands store (tx conf rules store m) := by
  unfold tx
  split
  · exact Advances.refl shared
  rename_i f carried
  have live := follows f carried
  have counted := shared.counted f live
  obtain ⟨flags, marked, some⟩ := markDefault_eq (store.value f)
  apply Advances.modify shared live
  · rw [marked]
    exact ⟨rfl, rfl, rfl, Iff.rfl, fun _ => rfl, fun undecided => absurd undecided some⟩
  · rw [marked]
    change (store.table.holders f).card + ((store.value f).rules + _) ≤ (store.value f).refCount + _
    omega
  · intro undecided
    rw [marked] at undecided
    exact absurd undecided some

end DpService.Graph

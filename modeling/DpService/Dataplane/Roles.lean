import DpService.Dataplane.NatRequests

/-!
# The roles of ports

What every request keeps: only VFs have interfaces, only load balancers live
on a PF, and an interface encrypts only where the service can.
-/

namespace DpService.Dataplane

open Foundations Packet Flow

namespace Tables

def isPf (tables : Tables) (id : PortId) : Bool :=
  (dpGetPortById tables.ports id).any Port.isPf

def encrypts (tables : Tables) (id : PortId) : Bool :=
  (dpGetPortById tables.ports id).any fun port => port.iface.encrypt

end Tables

theorem dpGetInPort_isPf (tables : Tables) (m : Mbuf) :
    (dpGetInPort tables.ports m).isPf = tables.isPf m.port := by
  rw [dpGetInPort, Tables.isPf]
  cases dpGetPortById tables.ports m.port with
  | none => rfl
  | some port => rfl

theorem dpGetInPort_encrypt (tables : Tables) (m : Mbuf) :
    (dpGetInPort tables.ports m).iface.encrypt = tables.encrypts m.port := by
  rw [dpGetInPort, Tables.encrypts]
  cases dpGetPortById tables.ports m.port with
  | none => rfl
  | some port => rfl

theorem dpGetOutPort_isPf (tables : Tables) (df : DpFlow) :
    (dpGetOutPort tables.ports df).isPf = tables.isPf df.nxtHop := by
  rw [dpGetOutPort, Tables.isPf]
  cases dpGetPortById tables.ports df.nxtHop with
  | none => rfl
  | some port => rfl

namespace Tables

variable {tables : Tables} {id : PortId} {port : Port}

theorem isPf_of_found (found : dpGetPortById tables.ports id = some port) :
    tables.isPf id = port.isPf := by
  rw [isPf, found]
  rfl

theorem encrypts_of_found (found : dpGetPortById tables.ports id = some port) :
    tables.encrypts id = port.iface.encrypt := by
  rw [encrypts, found]
  rfl

theorem nextPfTx_cases (tables : Tables) (id : PortId) :
    tables.nextPfTx id = .drop ∨ tables.nextPfTx id = .tx id := by
  unfold nextPfTx
  split
  · split
    · exact Or.inr rfl
    · exact Or.inl rfl
  · exact Or.inl rfl

theorem nextVfTx_cases (tables : Tables) (id : PortId) : tables.nextVfTx id = .drop ∨
      tables.nextVfTx id = .tx id ∧ tables.isPf id = false := by
  unfold nextVfTx
  split
  · rename_i port found
    split
    · exact Or.inl rfl
    rename_i vf
    apply Or.inr
    refine ⟨rfl, ?_⟩
    rw [isPf_of_found found]
    exact Bool.eq_false_of_not_eq_true vf
  · exact Or.inl rfl

theorem nextIpsec_cases (tables : Tables) (id : PortId) :
    tables.nextIpsec id = .drop ∨ tables.nextIpsec id = .ipsecEncap := by
  unfold nextIpsec
  split
  · split
    · exact Or.inr rfl
    · exact Or.inl rfl
  · exact Or.inl rfl

/-! ## The invariant -/

structure Sound (tables : Tables) : Prop where
  enabled : ∀ id port, tables.ports.entry id = some port →
    port.iface.encrypt = true → tables.conf.ipsecEnabled = true
  pfPlain : ∀ id port, tables.ports.entry id = some port →
    port.isPf = true → port.iface.encrypt = false
  pfAllocated : ∀ id port, tables.ports.entry id = some port →
    port.isPf = true → port.allocated = true
  ifaces : ∀ ifaceId id port, tables.ifaceIds ifaceId = some id →
    tables.ports.entry id = some port → port.isPf = false
  endpoints : ∀ address vnf port, tables.vnfs.handle address = some vnf →
    tables.ports.entry vnf.portId = some port → (port.isPf = true ↔ vnf.type = .lb)
  pf0 : ∃ port, tables.ports.entry tables.pf0 = some port ∧ port.isPf = true

theorem Sound.updatePort (sound : tables.Sound) {new old : Port}
    (held : tables.ports.entry new.portId = some old) (sameKind : new.isPf = old.isPf)
    (permitted : new.iface.encrypt = true → tables.conf.ipsecEnabled = true ∧ new.isPf = false)
    (allocated : new.isPf = true → new.allocated = true) :
    Sound { tables with ports := tables.ports.update new } where
  enabled := PortTable.update_forall (fun encrypting => (permitted encrypting).1) sound.enabled
  pfPlain := by
    apply PortTable.update_forall
    · intro pf
      by_contra encrypting
      have vf := (permitted (Bool.eq_true_of_not_eq_false encrypting)).2
      rw [vf] at pf
      cases pf
    · exact sound.pfPlain
  pfAllocated := PortTable.update_forall allocated sound.pfAllocated
  ifaces := by
    intro ifaceId id port mapped found
    revert mapped
    refine
      @PortTable.update_forall tables.ports new
        (fun id port => tables.ifaceIds ifaceId = some id → port.isPf = false) ?_ ?_ id port found
    · intro mapped
      rw [sameKind]
      exact sound.ifaces ifaceId new.portId old mapped held
    · intro id other entry mapped
      exact sound.ifaces ifaceId id other mapped entry
  endpoints := by
    intro address vnf port registered found
    revert registered
    generalize place : vnf.portId = id at found
    revert place
    refine
      @PortTable.update_forall tables.ports new
        (fun id port => vnf.portId = id → tables.vnfs.handle address = some vnf →
            (port.isPf = true ↔ vnf.type = .lb)) ?_ ?_ id port found
    · intro place registered
      rw [sameKind]
      exact sound.endpoints address vnf old registered (place ▸ held)
    · intro id other entry place registered
      exact sound.endpoints address vnf other registered (place ▸ entry)
  pf0 := by
    obtain ⟨port, entry, pf⟩ := sound.pf0
    by_cases same : tables.pf0 = new.portId
    · refine ⟨new, ?_, ?_⟩
      · change (tables.ports.update new).entry tables.pf0 = some new
        rw [same]
        exact PortTable.update_entry_self tables.ports new
      · rw [same, held, Option.some_inj] at entry
        rw [sameKind, entry]
        exact pf
    refine ⟨port, ?_, pf⟩
    change (tables.ports.update new).entry tables.pf0 = some port
    rw [PortTable.update_entry_of_ne tables.ports same]
    exact entry

theorem Sound.setVnfs (sound : tables.Sound) {vnfs : VnfTables}
    (origin : ∀ address vnf, vnfs.handle address = some vnf →
      tables.vnfs.handle address = some vnf ∨
        ∀ port, tables.ports.entry vnf.portId = some port → (port.isPf = true ↔ vnf.type = .lb)) :
    Sound { tables with vnfs } where
  enabled := sound.enabled
  pfPlain := sound.pfPlain
  pfAllocated := sound.pfAllocated
  ifaces := sound.ifaces
  endpoints := by
    intro address vnf port registered found
    rcases origin address vnf registered with old | new
    · exact sound.endpoints address vnf port old found
    · exact new port found
  pf0 := sound.pf0

theorem Sound.updateIfaceId (sound : tables.Sound) (ifaceId : IfaceId) {target : Option PortId}
    (vf : ∀ id port, target = some id → tables.ports.entry id = some port → port.isPf = false) :
    Sound
      { tables with
        ifaceIds := Function.update tables.ifaceIds ifaceId target } where
  enabled := sound.enabled
  pfPlain := sound.pfPlain
  pfAllocated := sound.pfAllocated
  ifaces := by
    intro other id port mapped found
    change Function.update tables.ifaceIds ifaceId target other = some id at mapped
    by_cases same : other = ifaceId
    · rw [same, Function.update_self] at mapped
      exact vf id port mapped found
    · rw [Function.update_of_ne same] at mapped
      exact sound.ifaces other id port mapped found
  endpoints := sound.endpoints
  pf0 := sound.pf0

theorem Sound.unmap (sound : tables.Sound) (ifaceId : IfaceId) :
    Sound
      { tables with
        ifaceIds := Function.update tables.ifaceIds ifaceId none } := by
  apply sound.updateIfaceId
  intro id port unmapped
  cases unmapped

theorem Sound.ifacePort (sound : tables.Sound) {ifaceId : IfaceId}
    (found : dpGetPortWithIfaceId tables ifaceId = some port) :
    tables.ports.entry port.portId = some port ∧ port.isPf = false := by
  rw [dpGetPortWithIfaceId, Option.bind_eq_some_iff] at found
  obtain ⟨id, mapped, entry⟩ := found
  have numbered := tables.ports.numbered id port entry
  exact ⟨numbered ▸ entry, sound.ifaces ifaceId id port mapped entry⟩

theorem Sound.isPf_of_encrypts (sound : tables.Sound) (encrypting : tables.encrypts id = true) :
    tables.isPf id = false := by
  cases found : dpGetPortById tables.ports id with
  | none =>
    rw [isPf, found]
    rfl
  | some port => ?_
  rw [encrypts_of_found found] at encrypting
  rw [isPf_of_found found]
  by_contra pf
  have plain :=
    sound.pfPlain id port (dpGetPortById_eq_some found) (Bool.eq_true_of_not_eq_false pf)
  rw [plain] at encrypting
  cases encrypting

theorem Sound.enabled_of_encrypts (sound : tables.Sound) (encrypting : tables.encrypts id = true) :
    tables.conf.ipsecEnabled = true := by
  cases found : dpGetPortById tables.ports id with
  | none =>
    rw [encrypts, found] at encrypting
    cases encrypting
  | some port =>
    rw [encrypts_of_found found] at encrypting
    exact sound.enabled id port (dpGetPortById_eq_some found) encrypting

end Tables

/-! ## Registration keeps the invariant -/

theorem IfaceVnf.type_ne_lb (kind : IfaceVnf) : kind.type ≠ .lb := by
  cases kind <;> decide

theorem handle_of_dpDelVnf {vnfs : VnfTables} {ulAddr6 address : Ipv6} {vnf : Vnf}
    (registered : (dpDelVnf vnfs ulAddr6).1.handle address = some vnf) :
    vnfs.handle address = some vnf := by
  unfold dpDelVnf at registered
  split at registered
  · exact registered
  change Function.update vnfs.handle ulAddr6 none address = some vnf at registered
  by_cases same : address = ulAddr6
  · subst same
    rw [Function.update_self] at registered
    cases registered
  · rw [Function.update_of_ne same] at registered
    exact registered

theorem handle_of_dpAddVnf {outcomes : VnfOutcomes} {vnfs : VnfTables} {ulAddr6 address : Ipv6}
    {added vnf : Vnf}
    (registered : (dpAddVnf outcomes vnfs ulAddr6 added).1.handle address = some vnf) :
    vnfs.handle address = some vnf ∨ vnf = added := by
  have inserted : Function.update vnfs.handle ulAddr6 (some added) address = some vnf →
        vnfs.handle address = some vnf ∨ vnf = added := by
    intro held
    by_cases same : address = ulAddr6
    · subst same
      rw [Function.update_self, Option.some_inj] at held
      exact Or.inr held.symm
    · rw [Function.update_of_ne same] at held
      exact Or.inl held
  unfold dpAddVnf at registered
  split at registered
  · exact Or.inl registered
  split at registered
  · exact inserted (handle_of_dpDelVnf registered)
  · exact inserted registered

namespace Tables

variable {tables : Tables} {port : Port}

theorem Sound.unregisterVnf (sound : tables.Sound) (ulAddr6 : Ipv6) :
    (unregisterVnf tables ulAddr6).Sound :=
  sound.setVnfs fun _ _ registered => Or.inl (handle_of_dpDelVnf registered)

theorem Sound.createVnfRoute
    (sound : tables.Sound) (outcomes : VnfOutcomes) (generated ulAddr6 : Ipv6)
    {vnf : Vnf}
    (kind : ∀ port, tables.ports.entry vnf.portId = some port →
      (port.isPf = true ↔ vnf.type = .lb)) :
    (dpCreateVnfRoute outcomes generated tables ulAddr6 vnf).1.Sound := by
  apply sound.setVnfs
  intro address other registered
  rcases handle_of_dpAddVnf registered with old | new
  · exact Or.inl old
  · exact Or.inr (new ▸ kind)

theorem Sound.registerVnf (sound : tables.Sound) (outcomes : VnfOutcomes) (generated : Ipv6)
    (request : VnfRequest) :
    (registerVnf outcomes generated tables request).Sound := by
  unfold Dataplane.registerVnf
  split
  · exact sound
  rename_i vnf requested
  apply sound.createVnfRoute
  intro port found
  unfold VnfRequest.vnf at requested
  split at requested
  · cases requested
    obtain ⟨pf0, entry, pf⟩ := sound.pf0
    rw [entry, Option.some_inj] at found
    rw [← found, pf]
    exact ⟨fun _ => rfl, fun _ => rfl⟩
  rename_i kind _
  rw [Option.map_eq_some_iff] at requested
  obtain ⟨owner, mapped, same⟩ := requested
  subst same
  obtain ⟨entry, vf⟩ := sound.ifacePort mapped
  rw [entry, Option.some_inj] at found
  rw [← found, vf]
  constructor
  · intro pf
    cases pf
  · intro lb
    exact absurd lb kind.type_ne_lb

theorem Sound.setIfaceNat (sound : tables.Sound) (held : tables.ports.entry port.portId = some port)
    (vf : port.isPf = false) (natIp : Ipv4) (natPortRange : PortRange) :
    (setIfaceNat tables port natIp natPortRange).Sound := by
  refine sound.updatePort held rfl ?_ ?_
  · intro encrypting
    exact ⟨sound.enabled port.portId port held encrypting, vf⟩
  · exact sound.pfAllocated port.portId port held

theorem Sound.registerOnVf (sound : tables.Sound)
    (held : tables.ports.entry port.portId = some port) (vf : port.isPf = false)
    (outcomes : VnfOutcomes) (generated ulAddr6 : Ipv6) {vnf : Vnf}
    (place : vnf.portId = port.portId) (kind : vnf.type ≠ .lb) :
    (dpCreateVnfRoute outcomes generated tables ulAddr6 vnf).1.Sound := by
  apply sound.createVnfRoute
  intro other found
  rw [place, held, Option.some_inj] at found
  rw [← found, vf]
  constructor
  · intro pf
    cases pf
  · intro lb
    exact absurd lb kind

end Tables

/-! ## VIP and NAT keep the invariant -/

section NatRequests

variable {config : NatConfig}

theorem ports_of_dpCreateVnfRoute (outcomes : VnfOutcomes) (generated ulAddr6 : Ipv6)
    (tables : Tables) (vnf : Vnf) :
    (dpCreateVnfRoute outcomes generated tables ulAddr6 vnf).1.ports = tables.ports :=
  rfl

theorem Tables.Sound.createVip (sound : config.tables.Sound) (outcomes : NatOutcomes)
    (request : DpgrpcVip) :
    (dpProcessCreateVip outcomes config request).1.tables.Sound := by
  unfold dpProcessCreateVip
  split
  · exact sound
  · exact sound
  rename_i port vip mapped addr
  obtain ⟨held, vf⟩ := sound.ifacePort mapped
  have registered :=
    sound.registerOnVf held vf outcomes.vnf outcomes.generated request.ulAddr6
      (show (⟨.vip, port.iface.vni, port.portId, ⟨.v4 0, 0⟩⟩ : Vnf).portId = port.portId from rfl)
      (show VnfType.vip ≠ .lb by decide)
  split
  · rename_i result
    rw [result] at registered
    exact registered
  rename_i tables ulAddr6 result
  rw [result] at registered
  split
  · exact registered.unregisterVnf ulAddr6
  split
  · exact registered.unregisterVnf ulAddr6
  · exact registered

theorem Tables.Sound.createNat (sound : config.tables.Sound) (outcomes : NatOutcomes)
    (request : DpgrpcNat) :
    (dpProcessCreateNat outcomes config request).1.tables.Sound := by
  unfold dpProcessCreateNat
  split
  · exact sound
  · exact sound
  rename_i port natIp mapped addr
  obtain ⟨held, vf⟩ := sound.ifacePort mapped
  have registered :=
    sound.registerOnVf held vf outcomes.vnf outcomes.generated request.ulAddr6
      (show (⟨.nat, port.iface.vni, port.portId, ⟨.v4 0, 0⟩⟩ : Vnf).portId = port.portId from rfl)
      (show VnfType.nat ≠ .lb by decide)
  have samePorts :=
    ports_of_dpCreateVnfRoute outcomes.vnf outcomes.generated request.ulAddr6 config.tables
      ⟨.nat, port.iface.vni, port.portId, ⟨.v4 0, 0⟩⟩
  split
  · rename_i result
    rw [result] at registered
    exact registered
  rename_i tables ulAddr6 result
  rw [result] at registered samePorts
  split
  · exact registered.unregisterVnf ulAddr6
  split
  · exact registered.unregisterVnf ulAddr6
  exact
    registered.setIfaceNat
      ((congrArg (fun ports => ports.entry port.portId) samePorts).trans held)
      vf natIp request.range

theorem Tables.Sound.deleteVip (sound : config.tables.Sound) (flows : FlowStore)
    (storedRules : FlowKey → Nat) (ifaceId : IfaceId) :
    (dpProcessDeleteVip config flows storedRules ifaceId).1.tables.Sound := by
  unfold dpProcessDeleteVip
  split
  · exact sound
  split
  · exact sound
  · exact sound.unregisterVnf _

theorem Tables.Sound.deleteNat (sound : config.tables.Sound) (flows : FlowStore)
    (storedRules : FlowKey → Nat) (ifaceId : IfaceId) :
    (dpProcessDeleteNat config flows storedRules ifaceId).1.tables.Sound := by
  unfold dpProcessDeleteNat
  split
  · exact sound
  rename_i port mapped
  obtain ⟨held, vf⟩ := sound.ifacePort mapped
  split
  · exact sound
  · rename_i data stored
    exact (sound.unregisterVnf data.ulNatIp6).setIfaceNat held vf 0 PortRange.zeroed

end NatRequests

/-! ## Interfaces keep the invariant -/

theorem entry_of_dpGetPortByName {ports : PortTable} {pciName : String} {port : Port}
    (found : dpGetPortByName ports pciName = some port) :
    ports.entry port.portId = some port := by
  unfold dpGetPortByName at found
  split at found
  · cases found
  obtain ⟨id, _, matched⟩ := List.exists_of_findSome?_eq_some found
  rw [Option.filter_eq_some_iff] at matched
  have numbered := ports.numbered _ port matched.1
  exact numbered ▸ matched.1

/-- A meter does not change what a port is used for. -/
structure SameUse (before after : Port) : Prop where
  portId : after.portId = before.portId
  isPf : after.isPf = before.isPf
  encrypt : after.iface.encrypt = before.iface.encrypt

theorem configurePublicMeter_sameUse
    (outcomes : MeterOutcomes) (port : Port) (publicFlowRateCap : UInt64) :
    SameUse port (configurePublicMeter outcomes port publicFlowRateCap).1 := by
  unfold configurePublicMeter
  split
  · exact ⟨rfl, rfl, rfl⟩
  split
  · exact ⟨rfl, rfl, rfl⟩
  · exact ⟨rfl, rfl, rfl⟩

theorem meterInterface_sameUse (conf : DpConf) (outcomes : MeterOutcomes) (port : Port)
    (totalFlowRateCap publicFlowRateCap : UInt64) :
    SameUse port
      (meterInterface conf outcomes port totalFlowRateCap publicFlowRateCap).1 := by
  unfold meterInterface
  split
  · exact ⟨rfl, rfl, rfl⟩
  unfold dpPortMeterConfig
  split
  · exact ⟨rfl, rfl, rfl⟩
  split
  · exact ⟨rfl, rfl, rfl⟩
  split
  · exact ⟨rfl, rfl, rfl⟩
  · exact configurePublicMeter_sameUse outcomes port publicFlowRateCap
  have kept :=
    configurePublicMeter_sameUse outcomes
      (setTotalFlowRateCap port totalFlowRateCap) publicFlowRateCap
  exact ⟨kept.portId, kept.isPf, kept.encrypt⟩

namespace Tables

variable {tables : Tables} {port : Port} {request : DpgrpcIface}

theorem Sound.withdrawInterface (sound : tables.Sound)
    (held : tables.ports.entry port.portId = some port) (vf : port.isPf = false) {iface : PortIface}
    (permitted : iface.encrypt = true → tables.conf.ipsecEnabled = true) :
    (withdrawInterface tables request { port with iface }).Sound := by
  have updated :
      Sound
        { tables with ports := tables.ports.update { port with iface } } := by
    refine @Sound.updatePort tables sound { port with iface } port held rfl ?_ ?_
    · intro encrypting
      exact ⟨permitted encrypting, vf⟩
    · exact sound.pfAllocated port.portId port held
  exact
    (updated.unmap request.ifaceId).setVnfs fun _ _ registered =>
      Or.inl (handle_of_dpDelVnf registered)

theorem Sound.setupInterface
    (sound : tables.Sound) (held : tables.ports.entry port.portId = some port)
    (vf : port.isPf = false) (outcomes : CreateOutcomes)
    (permitted : request.encrypt = true → tables.conf.ipsecEnabled = true) :
    (setupInterface outcomes tables request port).1.Sound := by
  unfold Dataplane.setupInterface
  split
  · exact sound.withdrawInterface held vf (sound.enabled port.portId port held)
  have kept :=
    meterInterface_sameUse tables.conf outcomes.meter
      { port with iface := requestedIface port.iface request }
      request.totalFlowRateCap request.publicFlowRateCap
  split
  rename_i metered ok result
  rw [result] at kept
  split
  · exact sound.withdrawInterface held vf fun encrypting => nomatch encrypting
  refine
    @Sound.updatePort tables sound (startedPort outcomes metered) port
      ?_ kept.isPf ?_ fun _ => rfl
  · change tables.ports.entry metered.portId = some port
    rw [kept.portId]
    exact held
  · intro encrypting
    have requested : request.encrypt = true := kept.encrypt.symm.trans encrypting
    exact ⟨permitted requested, kept.isPf.trans vf⟩

theorem Sound.mapInterface
    (sound : tables.Sound) (held : tables.ports.entry port.portId = some port)
    (vf : port.isPf = false) (outcomes : CreateOutcomes)
    (permitted : request.encrypt = true → tables.conf.ipsecEnabled = true) :
    (mapInterface outcomes tables request port).1.Sound := by
  unfold Dataplane.mapInterface
  split
  · exact sound.unregisterVnf request.ulAddr6
  have mapped :
      Sound
        { tables with
          ifaceIds := Function.update tables.ifaceIds request.ifaceId (some port.portId) } := by
    apply sound.updateIfaceId
    intro id other same found
    rw [← Option.some_inj.mp same, held, Option.some_inj] at found
    rw [← found]
    exact vf
  exact mapped.setupInterface held vf outcomes permitted

theorem Sound.createInterface (sound : tables.Sound) (outcomes : CreateOutcomes)
    (request : DpgrpcIface) :
    (dpProcessCreateInterface outcomes tables request).1.Sound := by
  unfold dpProcessCreateInterface
  split
  · exact sound
  rename_i allowed
  have permitted : request.encrypt = true → tables.conf.ipsecEnabled = true := by
    intro encrypting
    simpa [encrypting] using allowed
  split
  · exact sound
  rename_i port named
  split
  · exact sound
  rename_i unused
  have held := entry_of_dpGetPortByName named
  have vf : port.isPf = false := by
    by_contra pf
    exact unused (sound.pfAllocated port.portId port held (Bool.eq_true_of_not_eq_false pf))
  have registered :
      (dpCreateVnfRoute outcomes.vnf outcomes.generated tables
        request.ulAddr6
        ⟨.interfaceIp, request.vni, port.portId, ⟨.v4 0, 0⟩⟩).1.Sound := by
    apply sound.createVnfRoute
    intro other found
    rw [held, Option.some_inj] at found
    rw [← found, vf]
    change false = true ↔ VnfType.interfaceIp = .lb
    decide
  split
  · rename_i result
    rw [result] at registered
    exact registered
  rename_i after ulAddr6 result
  have sameTables : after.ports = tables.ports ∧ after.conf = tables.conf := by
    have parts := congrArg Prod.fst result
    rw [← show _ = after from parts]
    exact ⟨rfl, rfl⟩
  rw [result] at registered
  apply registered.mapInterface _ vf outcomes
  · intro encrypting
    rw [sameTables.2]
    exact permitted encrypting
  · rw [sameTables.1]
    exact held

theorem Sound.deleteInterface (sound : tables.Sound) (outcomes : DeleteOutcomes) (flows : FlowStore)
    (ifaceId : IfaceId) :
    (dpProcessDeleteInterface outcomes tables flows ifaceId).1.Sound := by
  unfold dpProcessDeleteInterface
  split
  · exact sound
  rename_i port mapped
  obtain ⟨held, vf⟩ := sound.ifacePort mapped
  let cleared : Port :=
    { port with
      allocated := if outcomes.stopped then false else port.allocated
      iface := PortIface.zeroed }
  have updated :
      Sound { tables with ports := tables.ports.update cleared } := by
    refine @Sound.updatePort tables sound cleared port held rfl ?_ ?_
    · intro encrypting
      cases encrypting
    · intro pf
      rw [show cleared.isPf = false from vf] at pf
      cases pf
  exact
    (updated.unmap ifaceId).setVnfs fun _ _ registered => Or.inl (handle_of_dpDelVnf registered)

theorem Sound.setEncryption (sound : tables.Sound) {ifaceId : IfaceId}
    (mapped : dpGetPortWithIfaceId tables ifaceId = some port) {encrypt : Bool}
    (permitted : encrypt = true → tables.conf.ipsecEnabled = true) :
    (setEncryption tables port encrypt).Sound := by
  obtain ⟨held, vf⟩ := sound.ifacePort mapped
  refine
    @Sound.updatePort tables sound (port.setEncrypt encrypt) port held rfl
      ?_ (sound.pfAllocated port.portId port held)
  intro encrypting
  exact ⟨permitted encrypting, vf⟩

theorem Sound.enableEncryption (sound : tables.Sound) (ifaceId : IfaceId) :
    (dpProcessEnableInterfaceEncryption tables ifaceId).1.Sound := by
  unfold dpProcessEnableInterfaceEncryption
  split
  · exact sound
  rename_i enabled
  split
  · exact sound
  rename_i port mapped
  split
  · exact sound
  · exact sound.setEncryption mapped fun _ => by simpa using enabled

theorem Sound.disableEncryption (sound : tables.Sound) (ifaceId : IfaceId) :
    (dpProcessDisableInterfaceEncryption tables ifaceId).1.Sound := by
  unfold dpProcessDisableInterfaceEncryption
  split
  · exact sound
  rename_i port mapped
  split
  · exact sound
  · exact sound.setEncryption mapped fun on => nomatch on

end Tables

end DpService.Dataplane

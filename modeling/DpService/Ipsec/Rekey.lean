import DpService.Ipsec.Contract

/-!
# Rekeying and the session pool

Replacing an association takes over its slot, but its new crypto session is
created before the old one is released.  The pool holds one session for each
of the 64 associations, so a database that is full has none left.
-/

namespace DpService.Ipsec

open Foundations

def IpsecDb.storedCount (db : IpsecDb) : Nat :=
  (Finset.univ.filter fun slot => (db.sas slot).isSome).card

section Rekey

variable {conf : DpConf} {db : IpsecDb}

theorem DbInvariant.sessionsInUse_eq (invariant : DbInvariant conf db) :
    db.heap.sessionsInUse = db.storedCount := by
  have complete : ∀ handle ∈ db.sas.owners, ((IpsecSa.session ∘ db.heap.sa) handle).isSome :=
    fun handle member => (invariant.storable handle member).session
  calc
    db.heap.sessionsInUse
        = (Arena.linked (IpsecSa.session ∘ db.heap.sa) db.sas.owners).card :=
      invariant.owned.inUse
    _ = db.sas.owners.card :=
      invariant.owned.sessions.card_linked invariant.owned.sas.allocated complete
    _ = db.storedCount := SlotTable.card_owners invariant.distinct

theorem dpIpsecBuildSa_success (heap : SaHeap) (request : IpsecSa) (lookupSpi : UInt32) :
    (dpIpsecBuildSa Outcomes.success heap request lookupSpi).2 =
      if heap.sessionsInUse < dpIpsecNbSessions then .ok heap.sas.next
      else .error .saCreate := by
  have sameInUse : (heap.allocSa (initialSa request)).sessionsInUse = heap.sessionsInUse := rfl
  by_cases free : heap.sessionsInUse < dpIpsecNbSessions
  · simp [dpIpsecBuildSa, sessionAvailable, dpIpsecCreateIpsecSa, Outcomes.success, sameInUse, free]
  · simp [dpIpsecBuildSa, sessionAvailable, Outcomes.success, sameInUse, free]

theorem dpIpsecUpdateSa_result {spec : IpsecSaSpec} {request : IpsecSa} {handle : Handle}
    (invariant : DbInvariant conf db) (egress : spec.dir = .egress) (algo : request.algo ≠ .max)
    (localSide : dpIpsecIsLocalSideValid conf request = true)
    (window : dpIpsecIsReplayWindowValid request = true) (member : handle ∈ db.sas.owners)
    (names : (db.heap.sa handle).spec.Names spec) :
    (dpIpsecUpdateSa conf Outcomes.success db spec request).2 =
      if db.storedCount < dpIpsecNbSessions then .ok ()
      else .error .saCreate := by
  have stored : db.sas.owners ≠ ∅ := Finset.ne_empty_of_mem member
  cases found : db.sad with
  | none => exact absurd (invariant.disabled found) stored
  | some sad => ?_
  have lookup : dpIpsecFindSa sad db.heap spec = some handle :=
    (dpIpsecFindSa_eq_some_iff invariant found).mpr ⟨member, names⟩
  obtain ⟨slot, slotFound⟩ := SlotTable.exists_slotOf member
  have outcome := dpIpsecBuildSa_success db.heap request (dpIpsecGetLookupSpi spec)
  rw [invariant.sessionsInUse_eq] at outcome
  cases build : dpIpsecBuildSa Outcomes.success db.heap request (dpIpsecGetLookupSpi spec) with
  | mk heap built =>
    rw [build] at outcome
    simp only [dpIpsecUpdateSa, found, egress, algo, localSide, window,
      lookup, slotFound, build, ne_eq, not_true_eq_false, if_false,
      Bool.not_true, Bool.false_eq_true]
    by_cases free : db.storedCount < dpIpsecNbSessions
    · simp only [free, if_true] at outcome ⊢
      rw [outcome]
      rfl
    · simp only [free, if_false] at outcome ⊢
      rw [outcome]

end Rekey

/-- In every reachable state, when no call fails but session creation on an
empty pool, replacing an existing egress association succeeds exactly while
fewer than 64 associations are stored. -/
theorem rekey_succeeds_iff (conf : DpConf) (events : List SaEvent) (request : DpgrpcIpsecSaUpdate)
    (egress : request.sa.id.dir = .egress) (algo : request.sa.algo ≠ .max)
    (localSide : request.sa.id.src.pfx = conf.underlayIp.pfx) (window : request.sa.replayWindow = 0)
    (slot : Fin dpIpsecMaxSa) (handle : Handle)
    (held : ((saMachine conf).run events).sas slot = some handle)
    (names : (((saMachine conf).run events).heap.sa handle).spec.Names request.sa.id) :
    (processSaRequest conf Outcomes.success ((saMachine conf).run events)
        (.update request)).2 = .ok () ↔
      ((saMachine conf).run events).storedCount < dpIpsecNbSessions := by
  have invariant := saMachine_invariant conf events
  have member : handle ∈ ((saMachine conf).run events).sas.owners :=
    (SlotTable.mem_owners handle).mpr ⟨slot, held⟩
  have requestLocal :
      dpIpsecIsLocalSideValid conf (requestedSa request.sa request.newSpi) = true := by
    simp [dpIpsecIsLocalSideValid, requestedSa, egress, localSide]
  have requestWindow :
      dpIpsecIsReplayWindowValid (requestedSa request.sa request.newSpi) = true := by
    simp [dpIpsecIsReplayWindowValid, requestedSa, egress, window]
  have result :=
    dpIpsecUpdateSa_result invariant egress
      (show (requestedSa request.sa request.newSpi).algo ≠ .max from algo)
      requestLocal requestWindow member names
  change
    (dpIpsecUpdateSa conf Outcomes.success ((saMachine conf).run events)
      request.sa.id (requestedSa request.sa request.newSpi)).2 = .ok () ↔ _
  rw [result]
  by_cases free : ((saMachine conf).run events).storedCount < dpIpsecNbSessions
  · simp [free]
  · simp [free]

def hostConf : DpConf where
  underlayIp := { pfx := 0xfc00000100000000, sfx := 1 }
  ipsecEnabled := true

def egressSa (spi : UInt32) (vni : Vni) : DpgrpcIpsecSa where
  id :=
    { spi := spi
      vni := vni
      dir := .egress
      src := { pfx := 0xfc00000100000000, sfx := 2 }
      dst := { pfx := 0xfc00000200000000, sfx := 3 } }
  algo := .aes128Gcm
  key := Vector.replicate _ 7
  salt := Vector.replicate _ 9
  replayWindow := 0
  esn := false

theorem rekey_single_succeeds_iff :
    (processSaRequest hostConf Outcomes.success
        ((saMachine hostConf).run [(.create (egressSa 256 100), Outcomes.success)])
        (.update { sa := egressSa 256 100, newSpi := 257 })).2 = .ok () ↔
      ((saMachine hostConf).run [(.create (egressSa 256 100), Outcomes.success)]).storedCount <
          dpIpsecNbSessions :=
  rekey_succeeds_iff hostConf
    [(.create (egressSa 256 100), Outcomes.success)]
    { sa := egressSa 256 100, newSpi := 257 }
    rfl (by decide) rfl rfl ⟨0, by decide⟩ 0 rfl (by decide)

def fillEvents : List SaEvent :=
  (List.range dpIpsecMaxSa).map fun index =>
    (.create (egressSa 256 index.toUInt32), Outcomes.success)

theorem rekey_fails_when_full :
    let db := (saMachine hostConf).run fillEvents
    db.sas ⟨5, by decide⟩ = some 5 ∧ (db.heap.sa 5).spec.Names (egressSa 256 5).id ∧
      (processSaRequest hostConf Outcomes.success db
        (.update { sa := egressSa 256 5, newSpi := 257 })).2 = .error .saCreate := by
  decide +kernel

end DpService.Ipsec

import DpService.Ipsec.Consistency

/-!
# The contract of the database

What a client of the database can rely on after any sequence of requests, in
terms of the two tables and of the heap alone.
-/

namespace DpService.Ipsec

open Foundations

namespace IpsecDb

/-- An association that the SAD or a slot of `dp_ipsec_sas` refers to. -/
def Reaches (db : IpsecDb) (handle : Handle) : Prop :=
  (∃ sad key, db.sad = some sad ∧ sad key = some handle) ∨ ∃ slot, db.sas slot = some handle

/-- The SAD entries and the non-NULL slots correspond one to one, each entry
referring to the association of its slot, and there are at most 64. -/
def TablesMatch (db : IpsecDb) : Prop :=
  (∀ sad, db.sad = some sad →
    (∃ slotOfKey : {key // (sad key).isSome} ≃ {slot // (db.sas slot).isSome},
      ∀ key, sad key.1 = db.sas (slotOfKey key).1) ∧
    Nat.card {key // (sad key).isSome} ≤ 64) ∧
  (db.sad = none → ∀ slot, db.sas slot = none)

/-- Each stored association is filed under its VNI if it is an egress one and
under its SPI otherwise, with both addresses masked, and under nothing else. -/
def FiledUnderOwnKey (db : IpsecDb) : Prop :=
  ∀ sad, db.sad = some sad → ∀ slot handle, db.sas slot = some handle →
    ∀ key, sad key = some handle ↔ key =
        { spi :=
            if (db.heap.sa handle).dir = .egress then (db.heap.sa handle).vni
            else (db.heap.sa handle).spi
          dip := (db.heap.sa handle).dst.maskPrefix
          sip := (db.heap.sa handle).src.maskPrefix }

/-- Nothing reachable was released, and every other association ever
allocated was released exactly once, with its session and its librte_ipsec
state. -/
def ReleasedOnce (db : IpsecDb) : Prop :=
  (∀ handle, db.Reaches handle → db.heap.sas.freed handle = 0 ∧
    (∀ session, (db.heap.sa handle).session = some session → db.heap.sessions.freed session = 0) ∧
    ∀ ipsecSa, (db.heap.sa handle).ipsecSa = some ipsecSa → db.heap.ipsecSas.freed ipsecSa = 0) ∧
  ∀ handle < db.heap.sas.next, ¬ db.Reaches handle → db.heap.sas.freed handle = 1 ∧
    (∀ session, (db.heap.sa handle).session = some session → db.heap.sessions.freed session = 1) ∧
    ∀ ipsecSa, (db.heap.sa handle).ipsecSa = some ipsecSa → db.heap.ipsecSas.freed ipsecSa = 1

def SameStored (db after : IpsecDb) : Prop :=
  after.sad = db.sad ∧ after.sas = db.sas ∧
    ∀ handle, db.Reaches handle → after.heap.sa handle = db.heap.sa handle

end IpsecDb

section Contract

variable {conf : DpConf} {db : IpsecDb}

theorem DbInvariant.reaches_iff (invariant : DbInvariant conf db) (handle : Handle) :
    db.Reaches handle ↔ handle ∈ db.sas.owners := by
  rw [SlotTable.mem_owners]
  constructor
  · intro reached
    rcases reached with ⟨sad, key, found, entry⟩ | held
    · have filed := (invariant.filed sad found key handle).mp entry
      exact (SlotTable.mem_owners handle).mp filed.1
    · exact held
  · intro held
    exact Or.inr held

theorem DbInvariant.sad_oneToOne {sad : Sad} (invariant : DbInvariant conf db)
    (found : db.sad = some sad) :
    OneToOne sad := by
  intro first second handle firstEntry secondEntry
  have firstKey := ((invariant.filed sad found first handle).mp firstEntry).2
  have secondKey := ((invariant.filed sad found second handle).mp secondEntry).2
  exact firstKey.symm.trans secondKey

theorem DbInvariant.tablesMatch (invariant : DbInvariant conf db) : db.TablesMatch := by
  constructor
  · intro sad found
    have sameValues : ∀ handle, (∃ key, sad key = some handle) ↔
          ∃ slot, db.sas slot = some handle := by
      intro handle
      rw [← SlotTable.mem_owners]
      constructor
      · intro entry
        obtain ⟨key, entry⟩ := entry
        exact ((invariant.filed sad found key handle).mp entry).1
      · intro member
        exact ⟨_, (invariant.filed sad found _ handle).mpr ⟨member, rfl⟩⟩
    obtain ⟨slotOfKey, agrees⟩ :=
      exists_equiv_of_same_values (invariant.sad_oneToOne found) invariant.distinct sameValues
    refine ⟨⟨slotOfKey, agrees⟩, ?_⟩
    calc
      Nat.card {key // (sad key).isSome} = Nat.card {slot // (db.sas slot).isSome} :=
        Nat.card_congr slotOfKey
      _ ≤ Nat.card (Fin dpIpsecMaxSa) :=
        Nat.card_le_card_of_injective Subtype.val Subtype.val_injective
      _ = 64 := Nat.card_fin _
  intro off slot
  have noOwners := invariant.disabled off
  cases held : db.sas slot with
  | none => rfl
  | some handle =>
    have member : handle ∈ db.sas.owners := (SlotTable.mem_owners handle).mpr ⟨slot, held⟩
    rw [noOwners] at member
    cases member

theorem DbInvariant.filedUnderOwnKey (invariant : DbInvariant conf db) : db.FiledUnderOwnKey := by
  intro sad found slot handle held key
  have member : handle ∈ db.sas.owners := (SlotTable.mem_owners handle).mpr ⟨slot, held⟩
  rw [invariant.filed sad found key handle, eq_comm]
  constructor
  · intro filed
    exact filed.2
  · intro sameKey
    exact ⟨member, sameKey⟩

private theorem attached_freed {arena : Arena} {bound : Handle} {link : Handle → Option Handle}
    {live : Finset Handle} (attached : arena.Attached bound link live)
    (below : ∀ owner ∈ live, owner < bound) {owner object : Handle} (ownerBound : owner < bound)
    (held : link owner = some object) :
    (owner ∈ live → arena.freed object = 0) ∧ (owner ∉ live → arena.freed object = 1) := by
  constructor
  · intro member
    exact attached.balanced.held object ((Arena.mem_linked ..).mpr ⟨owner, member, held⟩)
  intro notMember
  have allocated := attached.allocated owner ownerBound object held
  refine attached.balanced.givenBack object allocated ?_
  intro linkedMember
  obtain ⟨other, otherMember, otherHeld⟩ :=
    (Arena.mem_linked ..).mp linkedMember
  have same : other = owner :=
    attached.distinct other (below other otherMember) owner ownerBound object otherHeld held
  rw [same] at otherMember
  exact notMember otherMember

theorem DbInvariant.releasedOnce (invariant : DbInvariant conf db) : db.ReleasedOnce := by
  have owned := invariant.owned
  have below := owned.sas.allocated
  constructor
  · intro handle reached
    have member := (invariant.reaches_iff handle).mp reached
    refine ⟨owned.sas.held handle member, ?_, ?_⟩
    · intro session held
      exact (attached_freed owned.sessions below (below handle member) held).1 member
    · intro ipsecSa held
      exact (attached_freed owned.ipsecSas below (below handle member) held).1 member
  intro handle bound notReached
  have notMember : handle ∉ db.sas.owners := fun member =>
    notReached ((invariant.reaches_iff handle).mpr member)
  refine ⟨owned.sas.givenBack handle bound notMember, ?_, ?_⟩
  · intro session held
    exact (attached_freed owned.sessions below bound held).2 notMember
  · intro ipsecSa held
    exact (attached_freed owned.ipsecSas below bound held).2 notMember

theorem DbInvariant.error_sameStored {outcomes : Outcomes} {request : SaRequest} {err : GrpcErr}
    (invariant : DbInvariant conf db)
    (failed : (processSaRequest conf outcomes db request).2 = .error err) :
    db.SameStored (processSaRequest conf outcomes db request).1 := by
  cases done : processSaRequest conf outcomes db request with
  | mk after result =>
    rw [done] at failed
    rcases processSaRequest_cases invariant request done with
      ⟨_, _, untouched⟩ | ⟨succeeded, _⟩
    · refine ⟨untouched.sad, untouched.sas, ?_⟩
      intro handle reached
      exact untouched.stored handle ((invariant.reaches_iff handle).mp reached)
    · rw [succeeded] at failed
      cases failed

theorem DbInvariant.getSa_eq_ok_iff {id : DpgrpcIpsecSaId} {sa : IpsecSa}
    (invariant : DbInvariant conf db) :
    dpIpsecGetSa db id = .ok sa ↔ ∃ slot handle, db.sas slot = some handle ∧
        (db.heap.sa handle).spec.Names id ∧ db.heap.sa handle = sa := by
  unfold dpIpsecGetSa
  cases found : db.sad with
  | none =>
    refine iff_of_false (fun impossible => by cases impossible) ?_
    intro stored
    obtain ⟨slot, handle, held, _⟩ := stored
    rw [invariant.tablesMatch.2 found slot] at held
    cases held
  | some sad => ?_
  have lookup : ∀ handle, dpIpsecFindSa sad db.heap id = some handle ↔
        handle ∈ db.sas.owners ∧ (db.heap.sa handle).spec.Names id :=
    fun _ => dpIpsecFindSa_eq_some_iff invariant found
  constructor
  · intro answered
    cases entry : dpIpsecFindSa sad db.heap id with
    | none =>
      simp only [entry] at answered
      cases answered
    | some handle => ?_
    simp only [entry, Except.ok.injEq] at answered
    obtain ⟨member, names⟩ := (lookup handle).mp entry
    obtain ⟨slot, held⟩ := (SlotTable.mem_owners handle).mp member
    exact ⟨slot, handle, held, names, answered⟩
  intro stored
  obtain ⟨slot, handle, held, names, same⟩ := stored
  have member : handle ∈ db.sas.owners := (SlotTable.mem_owners handle).mpr ⟨slot, held⟩
  have entry := (lookup handle).mpr ⟨member, names⟩
  simp only [entry, same]

theorem DbInvariant.get_isOk_iff (invariant : DbInvariant conf db) (id : DpgrpcIpsecSaId) :
    (∃ reply, dpProcessGetSecurityAssociation db id = .ok reply) ↔
      ∃ slot handle, db.sas slot = some handle ∧ (db.heap.sa handle).spec.Names id := by
  unfold dpProcessGetSecurityAssociation
  constructor
  · intro answered
    obtain ⟨reply, answered⟩ := answered
    cases answer : dpIpsecGetSa db id with
    | error err =>
      rw [answer] at answered
      cases answered
    | ok sa =>
      obtain ⟨slot, handle, held, names, _⟩ := invariant.getSa_eq_ok_iff.mp answer
      exact ⟨slot, handle, held, names⟩
  intro stored
  obtain ⟨slot, handle, held, names⟩ := stored
  have answer := invariant.getSa_eq_ok_iff.mpr ⟨slot, handle, held, names, rfl⟩
  rw [answer]
  exact ⟨_, rfl⟩

end Contract

/-- After every sequence of requests, with any mix of failing calls: the SAD
and the owner array match and hold at most 64 associations; each association
is filed under its own key; nothing reachable was released and everything
else was, exactly once; a request that fails changes nothing stored; and Get
answers exactly for the names of stored associations. -/
theorem saDatabase_consistent (conf : DpConf) (events : List SaEvent) :
    let db := (saMachine conf).run events
    db.TablesMatch ∧ db.FiledUnderOwnKey ∧ db.ReleasedOnce ∧
      (∀ request outcomes err, (processSaRequest conf outcomes db request).2 = .error err →
          db.SameStored (processSaRequest conf outcomes db request).1) ∧
      ∀ id, (∃ reply, dpProcessGetSecurityAssociation db id = .ok reply) ↔
          ∃ slot handle, db.sas slot = some handle ∧ (db.heap.sa handle).spec.Names id := by
  intro db
  have invariant : DbInvariant conf db := saMachine_invariant conf events
  exact
    ⟨invariant.tablesMatch, invariant.filedUnderOwnKey, invariant.releasedOnce,
      fun _ _ _ failed => invariant.error_sameStored failed, invariant.get_isOk_iff⟩

end DpService.Ipsec

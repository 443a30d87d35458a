import DpService.Ipsec.Ownership

/-!
# Consistency of the database

`DbInvariant` ties the SAD, the owner array and the heap together.  Every
request keeps it, whichever of its calls fail, and the contract of the
database follows from it.
-/

namespace DpService.Ipsec

open Foundations

structure Storable (conf : DpConf) (sa : IpsecSa) : Prop where
  session : sa.session.isSome
  ipsecSa : sa.ipsecSa.isSome
  maskedSrc : sa.src = sa.src.maskPrefix
  maskedDst : sa.dst = sa.dst.maskPrefix
  algo : sa.algo ≠ .max
  localSide : dpIpsecIsLocalSideValid conf sa = true

structure DbInvariant (conf : DpConf) (db : IpsecDb) : Prop where
  owned : db.heap.Owned db.sas.owners
  distinct : OneToOne db.sas
  storable : ∀ handle ∈ db.sas.owners, Storable conf (db.heap.sa handle)
  enabled : db.sad.isSome = conf.ipsecEnabled
  disabled : db.sad = none → db.sas.owners = ∅
  filed : ∀ sad, db.sad = some sad → ∀ key handle,
    sad key = some handle ↔ handle ∈ db.sas.owners ∧ (db.heap.sa handle).spec.sadKey = key

theorem dbInvariant_init (conf : DpConf) : DbInvariant conf (dpIpsecInit conf) := by
  have noOwners : (dpIpsecInit conf).sas.owners = ∅ := by
    ext handle
    simp [dpIpsecInit]
  exact
    { owned := by
        rw [noOwners]
        exact SaHeap.owned_empty
      distinct := by
        intro first second value held
        cases held
      storable := by simp [noOwners]
      enabled := by
        cases conf.ipsecEnabled.eq_false_or_eq_true with
        | inl on => simp [dpIpsecInit, on]
        | inr off => simp [dpIpsecInit, off]
      disabled := fun _ => noOwners
      filed := by
        intro sad found key handle
        simp only [dpIpsecInit] at found
        split at found
        · cases found
          simp [noOwners]
        cases found }

/-! ## What a request can do to the tables -/

/-- A request that failed: the tables and every stored association are as
before, and nothing that was built on the way is still held. -/
structure Untouched (db after : IpsecDb) : Prop where
  sad : after.sad = db.sad
  sas : after.sas = db.sas
  stored : ∀ handle ∈ db.sas.owners, after.heap.sa handle = db.heap.sa handle
  owned : after.heap.Owned db.sas.owners

theorem Untouched.refl {conf : DpConf} {db : IpsecDb} (invariant : DbInvariant conf db) :
    Untouched db db :=
  ⟨rfl, rfl, fun _ _ => rfl, invariant.owned⟩

theorem Untouched.invariant {conf : DpConf} {db after : IpsecDb}
    (untouched : Untouched db after) (invariant : DbInvariant conf db) :
    DbInvariant conf after where
  owned := by
    rw [untouched.sas]
    exact untouched.owned
  distinct := by
    rw [untouched.sas]
    exact invariant.distinct
  storable := by
    intro handle member
    rw [untouched.sas] at member
    rw [untouched.stored handle member]
    exact invariant.storable handle member
  enabled := by rw [untouched.sad, invariant.enabled]
  disabled := by
    rw [untouched.sad, untouched.sas]
    exact invariant.disabled
  filed := by
    intro sad found key handle
    rw [untouched.sad] at found
    rw [invariant.filed sad found key handle, untouched.sas]
    refine and_congr_right fun member => ?_
    rw [untouched.stored handle member]

section Change

variable {conf : DpConf} {db : IpsecDb} {sad : Sad} {heap : SaHeap}
variable {slot : Fin dpIpsecMaxSa} {handle : Handle}

/-- The heap after a change holds `handle` in addition to `kept`, whose
associations did not change. -/
structure Stored
    (conf : DpConf) (before heap : SaHeap) (kept : Finset Handle)
    (handle : Handle) : Prop where
  fresh : handle ∉ kept
  owned : heap.Owned (insert handle kept)
  frame : ∀ other ∈ kept, heap.sa other = before.sa other
  storable : Storable conf (heap.sa handle)

theorem DbInvariant.insert (invariant : DbInvariant conf db) (found : db.sad = some sad)
    (empty : db.sas slot = none) (stored : Stored conf db.heap heap db.sas.owners handle)
    (unused : sad (heap.sa handle).spec.sadKey = none) :
    DbInvariant conf
      { sad := some (Function.update sad (heap.sa handle).spec.sadKey (some handle))
        sas := Function.update db.sas slot (some handle)
        heap } := by
  have owners := SlotTable.owners_update_of_empty empty handle
  exact
    { owned := by
        rw [owners]
        exact stored.owned
      distinct := by
        refine invariant.distinct.update ?_
        intro other value _ held same
        cases same
        exact stored.fresh ((SlotTable.mem_owners handle).mpr ⟨other, held⟩)
      storable := by
        intro other member
        rw [owners, Finset.mem_insert] at member
        rcases member with rfl | member
        · exact stored.storable
        · rw [stored.frame other member]
          exact invariant.storable other member
      enabled := by
        rw [← invariant.enabled, found]
        rfl
      disabled := fun impossible => absurd impossible (by simp)
      filed := by
        intro sad' found' key other
        cases found'
        rw [owners, Finset.mem_insert]
        have before := invariant.filed sad found
        by_cases same : key = (heap.sa handle).spec.sadKey
        · subst same
          rw [Function.update_self, Option.some_inj]
          constructor
          · rintro rfl
            exact ⟨Or.inl rfl, rfl⟩
          rintro ⟨rfl | member, filed⟩
          · rfl
          rw [stored.frame other member] at filed
          have held := (before _ other).mpr ⟨member, filed⟩
          rw [unused] at held
          cases held
        rw [Function.update_of_ne same, before]
        constructor
        · rintro ⟨member, filed⟩
          exact ⟨Or.inr member, by rw [stored.frame other member, filed]⟩
        rintro ⟨rfl | member, filed⟩
        · exact absurd filed.symm same
        · rw [stored.frame other member] at filed
          exact ⟨member, filed⟩ }

theorem DbInvariant.remove {key : SadKey} (invariant : DbInvariant conf db)
    (found : db.sad = some sad) (held : db.sas slot = some handle) (filed : sad key = some handle) :
    DbInvariant conf
      { sad := some (Function.update sad key none)
        sas := Function.update db.sas slot none
        heap := dpIpsecFreeSa db.heap handle } := by
  have owners := SlotTable.owners_clear invariant.distinct held
  have before := invariant.filed sad found
  obtain ⟨member, handleKey⟩ := (before key handle).mp filed
  exact
    { owned := by
        rw [owners]
        exact invariant.owned.freeSa member
      distinct := by
        refine invariant.distinct.update ?_
        intro other value _ _ same
        cases same
      storable := by
        intro other otherMember
        rw [owners] at otherMember
        exact invariant.storable other (Finset.mem_of_mem_erase otherMember)
      enabled := by
        rw [← invariant.enabled, found]
        rfl
      disabled := fun impossible => absurd impossible (by simp)
      filed := by
        intro sad' found' otherKey other
        cases found'
        rw [owners, Finset.mem_erase, SaHeap.freeSa_sa]
        by_cases same : otherKey = key
        · subst same
          rw [Function.update_self]
          refine iff_of_false (fun impossible => by cases impossible) ?_
          rintro ⟨⟨different, otherMember⟩, otherKeyEq⟩
          have otherHeld := (before _ other).mpr ⟨otherMember, otherKeyEq⟩
          exact different (Option.some.inj (otherHeld.symm.trans filed))
        rw [Function.update_of_ne same, before]
        constructor
        · rintro ⟨otherMember, otherKeyEq⟩
          refine ⟨⟨?_, otherMember⟩, otherKeyEq⟩
          rintro rfl
          exact same (otherKeyEq.symm.trans handleKey)
        · rintro ⟨⟨_, otherMember⟩, otherKeyEq⟩
          exact ⟨otherMember, otherKeyEq⟩ }

theorem DbInvariant.replace {old : Handle} (invariant : DbInvariant conf db)
    (found : db.sad = some sad) (held : db.sas slot = some old)
    (stored : Stored conf db.heap heap db.sas.owners handle)
    (filed : sad (heap.sa handle).spec.sadKey = some old) :
    DbInvariant conf
      { sad := some (Function.update sad (heap.sa handle).spec.sadKey (some handle))
        sas := Function.update db.sas slot (some handle)
        heap := dpIpsecFreeSa heap old } := by
  have owners := SlotTable.owners_replace invariant.distinct held handle
  have before := invariant.filed sad found
  obtain ⟨oldMember, oldKey⟩ := (before _ old).mp filed
  have different : handle ≠ old := by
    rintro rfl
    exact stored.fresh oldMember
  exact
    { owned := by
        have released := stored.owned.freeSa (Finset.mem_insert_of_mem oldMember)
        rw [Finset.erase_insert_of_ne different] at released
        rw [owners]
        exact released
      distinct := by
        refine invariant.distinct.update ?_
        intro other value _ otherHeld same
        cases same
        exact stored.fresh ((SlotTable.mem_owners handle).mpr ⟨other, otherHeld⟩)
      storable := by
        intro other member
        rw [owners, Finset.mem_insert] at member
        rw [SaHeap.freeSa_sa]
        rcases member with rfl | member
        · exact stored.storable
        · have older := Finset.mem_of_mem_erase member
          rw [stored.frame other older]
          exact invariant.storable other older
      enabled := by
        rw [← invariant.enabled, found]
        rfl
      disabled := fun impossible => absurd impossible (by simp)
      filed := by
        intro sad' found' key other
        cases found'
        rw [owners, Finset.mem_insert, Finset.mem_erase, SaHeap.freeSa_sa]
        by_cases same : key = (heap.sa handle).spec.sadKey
        · subst same
          rw [Function.update_self, Option.some_inj]
          constructor
          · rintro rfl
            exact ⟨Or.inl rfl, rfl⟩
          rintro ⟨rfl | ⟨otherNe, member⟩, otherKey⟩
          · rfl
          · rw [stored.frame other member] at otherKey
            have otherHeld := (before _ other).mpr ⟨member, otherKey⟩
            exact absurd (Option.some.inj (otherHeld.symm.trans filed)) otherNe
        rw [Function.update_of_ne same, before]
        constructor
        · rintro ⟨member, otherKey⟩
          refine ⟨Or.inr ⟨?_, member⟩, by
            rw [stored.frame other member, otherKey]⟩
          rintro rfl
          exact same (otherKey.symm.trans oldKey)
        rintro ⟨rfl | ⟨_, member⟩, otherKey⟩
        · exact absurd otherKey.symm same
        · rw [stored.frame other member] at otherKey
          exact ⟨member, otherKey⟩ }

end Change

/-- Under the invariant, an association is found exactly under the names it
agrees with in SPI, VNI, direction and address prefixes. -/
theorem dpIpsecFindSa_eq_some_iff {conf : DpConf} {db : IpsecDb} {sad : Sad} {spec : IpsecSaSpec}
    {handle : Handle} (invariant : DbInvariant conf db) (found : db.sad = some sad) :
    dpIpsecFindSa sad db.heap spec = some handle ↔
      handle ∈ db.sas.owners ∧ (db.heap.sa handle).spec.Names spec := by
  have filed := invariant.filed sad found
  unfold dpIpsecFindSa dpIpsecLookupOne
  constructor
  · intro lookup
    cases entry : sad spec.sadKey with
    | none =>
      rw [entry] at lookup
      cases lookup
    | some other => ?_
    rw [entry] at lookup
    simp only at lookup
    split at lookup
    · cases lookup
    next verified =>
    cases lookup
    obtain ⟨member, sameKey⟩ := (filed _ handle).mp entry
    rw [IpsecSaSpec.sadKey, IpsecSaSpec.sadKey, dpIpsecBuildKey_eq_iff] at sameKey
    simp only [not_or, not_not] at verified
    exact ⟨member, verified.2.2, verified.2.1, verified.1, sameKey.2.1, sameKey.2.2⟩
  rintro ⟨member, names⟩
  have entry : sad spec.sadKey = some handle := (filed _ handle).mpr ⟨member, names.sadKey_eq⟩
  obtain ⟨sameSpi, sameVni, sameDir, _, _⟩ := names
  have verified :
      ¬ ((db.heap.sa handle).dir ≠ spec.dir ∨ (db.heap.sa handle).vni ≠ spec.vni ∨
          (db.heap.sa handle).spi ≠ spec.spi) := by
    simp only [not_or, not_not]
    exact ⟨sameDir, sameVni, sameSpi⟩
  rw [entry]
  simp only
  rw [if_neg verified]

/-! ## One request -/

theorem storable_builtSa {conf : DpConf} {request : IpsecSa} (session ipsecSa : Handle)
    (algo : request.algo ≠ .max) (localSide : dpIpsecIsLocalSideValid conf request = true) :
    Storable conf (builtSa request session ipsecSa) where
  session := rfl
  ipsecSa := rfl
  maskedSrc := rfl
  maskedDst := rfl
  algo := algo
  localSide := by
    rw [← localSide]
    by_cases egress : request.dir = .egress
    · simp [dpIpsecIsLocalSideValid, builtSa, initialSa, egress]
    · simp [dpIpsecIsLocalSideValid, builtSa, initialSa, egress]

section Requests

variable {conf : DpConf} {outcomes : Outcomes} {db after : IpsecDb}
variable {request : IpsecSa} {spec : IpsecSaSpec}
variable {result : Except GrpcErr Unit}

/-- A build that fails leaves the database untouched, and so does one whose
association is released again. -/
private theorem untouched_of_build {heap : SaHeap} {lookupSpi : UInt32}
    {built : Except GrpcErr Handle} (invariant : DbInvariant conf db)
    (build : dpIpsecBuildSa outcomes db.heap request lookupSpi = (heap, built)) :
    (∀ err, built = .error err → Untouched db { db with heap }) ∧
      (∀ handle, built = .ok handle →
        Untouched db { db with heap := dpIpsecFreeSa heap handle }) := by
  obtain ⟨frame, cases⟩ := dpIpsecBuildSa_cases invariant.owned build
  have fresh := invariant.owned.sas.next_notMem
  have stored : ∀ handle ∈ db.sas.owners, heap.sa handle = db.heap.sa handle := by
    intro handle member
    refine frame handle ?_
    rintro rfl
    exact fresh member
  constructor
  · intro err failed
    rcases cases with ⟨_, _, owned⟩ | ⟨succeeded, _⟩
    · exact ⟨rfl, rfl, stored, owned⟩
    · rw [failed] at succeeded
      cases succeeded
  intro handle succeeded
  rcases cases with ⟨_, failed, _⟩ | ⟨same, owned, _⟩
  · rw [succeeded] at failed
    cases failed
  rw [succeeded] at same
  cases same
  have released := owned.freeSa (Finset.mem_insert_self ..)
  rw [Finset.erase_insert fresh] at released
  exact ⟨rfl, rfl, stored, released⟩

private theorem stored_of_build {heap : SaHeap} {lookupSpi : UInt32} {handle : Handle}
    (invariant : DbInvariant conf db) (algo : request.algo ≠ .max)
    (localSide : dpIpsecIsLocalSideValid conf request = true)
    (build : dpIpsecBuildSa outcomes db.heap request lookupSpi = (heap, .ok handle)) :
    Stored conf db.heap heap db.sas.owners handle ∧ heap.sa handle =
        builtSa request db.heap.sessions.next db.heap.ipsecSas.next := by
  obtain ⟨frame, cases⟩ := dpIpsecBuildSa_cases invariant.owned build
  have fresh := invariant.owned.sas.next_notMem
  rcases cases with ⟨_, failed, _⟩ | ⟨same, owned, contents⟩
  · cases failed
  cases same
  refine ⟨⟨fresh, owned, ?_, ?_⟩, contents⟩
  · intro other member
    refine frame other ?_
    rintro rfl
    exact fresh member
  · rw [contents]
    exact storable_builtSa _ _ algo localSide

structure Created
    (conf : DpConf) (db : IpsecDb) (request : IpsecSa) (after : IpsecDb) :
    Prop where
  change : ∃ sad slot heap, db.sad = some sad ∧ db.sas slot = none ∧
    Stored conf db.heap heap db.sas.owners db.heap.sas.next ∧
    heap.sa db.heap.sas.next = builtSa request db.heap.sessions.next db.heap.ipsecSas.next ∧
    sad request.spec.sadKey = none ∧
    after =
      { sad := some (Function.update sad request.spec.sadKey (some db.heap.sas.next))
        sas := Function.update db.sas slot (some db.heap.sas.next)
        heap }

theorem dpIpsecCreateSa_cases (invariant : DbInvariant conf db)
    (done : dpIpsecCreateSa conf outcomes db request = (after, result)) :
    (∃ err, result = .error err ∧ Untouched db after) ∨
      (result = .ok () ∧ Created conf db request after) := by
  have refused := Untouched.refl invariant
  unfold dpIpsecCreateSa at done
  split at done
  · cases done
    exact Or.inl ⟨_, rfl, refused⟩
  next sad found =>
  split at done
  · cases done
    exact Or.inl ⟨_, rfl, refused⟩
  next algo =>
  split at done
  · cases done
    exact Or.inl ⟨_, rfl, refused⟩
  next localSide =>
  split at done
  · cases done
    exact Or.inl ⟨_, rfl, refused⟩
  split at done
  · cases done
    exact Or.inl ⟨_, rfl, refused⟩
  next unused =>
  split at done
  · cases done
    exact Or.inl ⟨_, rfl, refused⟩
  next slot free =>
  simp only at done
  split at done
  · next heap err build =>
    cases done
    exact Or.inl ⟨_, rfl, (untouched_of_build invariant build).1 _ rfl⟩
  next heap handle build =>
  split at done
  · cases done
    exact Or.inl ⟨_, rfl, (untouched_of_build invariant build).2 _ rfl⟩
  have sameHandle : handle = db.heap.sas.next := by
    obtain ⟨_, ⟨_, failed, _⟩ | ⟨same, _⟩⟩ :=
      dpIpsecBuildSa_cases invariant.owned build
    · cases failed
    · exact Except.ok.inj same
  subst sameHandle
  obtain ⟨stored, contents⟩ := stored_of_build invariant algo (by simpa using localSide) build
  cases done
  refine Or.inr ⟨rfl, ⟨sad, slot, heap, found,
    SlotTable.empty_of_firstFree free, stored, contents, ?_, ?_⟩⟩
  · simpa [dpIpsecLookupOne] using unused
  · rw [contents]
    rfl

theorem Created.invariant (created : Created conf db request after)
    (invariant : DbInvariant conf db) :
    DbInvariant conf after := by
  obtain ⟨sad, slot, heap, found, empty, stored, contents, unused, rfl⟩ := created.change
  have sameKey : (heap.sa db.heap.sas.next).spec.sadKey = request.spec.sadKey := by
    rw [contents]
    rfl
  rw [← sameKey] at unused ⊢
  exact invariant.insert found empty stored unused

structure Replaced
    (conf : DpConf) (db : IpsecDb) (spec : IpsecSaSpec) (request : IpsecSa)
    (after : IpsecDb) : Prop where
  change : ∃ sad slot old heap, db.sad = some sad ∧ db.sas slot = some old ∧
    old ∈ db.sas.owners ∧ (db.heap.sa old).spec.Names spec ∧
    Stored conf db.heap heap db.sas.owners db.heap.sas.next ∧
    heap.sa db.heap.sas.next = builtSa request db.heap.sessions.next db.heap.ipsecSas.next ∧
    after =
      { sad := some (Function.update sad spec.sadKey (some db.heap.sas.next))
        sas := Function.update db.sas slot (some db.heap.sas.next)
        heap := dpIpsecFreeSa heap old }

theorem dpIpsecUpdateSa_cases (invariant : DbInvariant conf db)
    (sameSrc : request.src = spec.src) (sameDst : request.dst = spec.dst)
    (done : dpIpsecUpdateSa conf outcomes db spec request = (after, result)) :
    (∃ err, result = .error err ∧ Untouched db after) ∨
      (result = .ok () ∧ spec.dir = .egress ∧ Replaced conf db spec request after) := by
  have refused := Untouched.refl invariant
  unfold dpIpsecUpdateSa at done
  split at done
  · cases done
    exact Or.inl ⟨_, rfl, refused⟩
  next sad found =>
  split at done
  · cases done
    exact Or.inl ⟨_, rfl, refused⟩
  next egress =>
  split at done
  · cases done
    exact Or.inl ⟨_, rfl, refused⟩
  next algo =>
  split at done
  · cases done
    exact Or.inl ⟨_, rfl, refused⟩
  next localSide =>
  split at done
  · cases done
    exact Or.inl ⟨_, rfl, refused⟩
  split at done
  · cases done
    exact Or.inl ⟨_, rfl, refused⟩
  next old lookup =>
  split at done
  · cases done
    exact Or.inl ⟨_, rfl, refused⟩
  next slot slotFound =>
  simp only at done
  split at done
  · next heap err build =>
    cases done
    exact Or.inl ⟨_, rfl, (untouched_of_build invariant build).1 _ rfl⟩
  next heap handle build =>
  split at done
  · cases done
    exact Or.inl ⟨_, rfl, (untouched_of_build invariant build).2 _ rfl⟩
  have sameHandle : handle = db.heap.sas.next := by
    obtain ⟨_, ⟨_, failed, _⟩ | ⟨same, _⟩⟩ :=
      dpIpsecBuildSa_cases invariant.owned build
    · cases failed
    · exact Except.ok.inj same
  subst sameHandle
  obtain ⟨stored, contents⟩ := stored_of_build invariant algo (by simpa using localSide) build
  obtain ⟨member, names⟩ := (dpIpsecFindSa_eq_some_iff invariant found).mp lookup
  cases done
  refine Or.inr ⟨rfl, not_not.mp egress, ⟨sad, slot, old, heap, found,
    SlotTable.held_of_slotOf slotFound, member, names, stored, contents, ?_⟩⟩
  rw [contents, IpsecSaSpec.sadKey, ← sameSrc, ← sameDst]
  rfl

theorem Replaced.invariant (replaced : Replaced conf db spec request after)
    (egress : spec.dir = .egress) (sameDir : request.dir = spec.dir)
    (sameVni : request.vni = spec.vni) (sameSrc : request.src = spec.src)
    (sameDst : request.dst = spec.dst) (invariant : DbInvariant conf db) :
    DbInvariant conf after := by
  obtain ⟨sad, slot, old, heap, found, held, member, names, stored,
    contents, rfl⟩ := replaced.change
  have sameKey : (heap.sa db.heap.sas.next).spec.sadKey = spec.sadKey := by
    rw [contents, IpsecSaSpec.sadKey, IpsecSaSpec.sadKey, dpIpsecBuildKey_eq_iff]
    refine ⟨?_, by rw [← sameSrc]; rfl, by rw [← sameDst]; rfl⟩
    have builtEgress :
        (builtSa request db.heap.sessions.next db.heap.ipsecSas.next).spec.dir = .egress :=
      sameDir.trans egress
    rw [dpIpsecGetLookupSpi, if_pos builtEgress, dpIpsecGetLookupSpi, if_pos egress]
    exact sameVni
  have filed : sad spec.sadKey = some old :=
    (invariant.filed sad found _ old).mpr ⟨member, names.sadKey_eq⟩
  rw [← sameKey] at filed ⊢
  exact invariant.replace found held stored filed

structure Deleted
    (db : IpsecDb) (spec : IpsecSaSpec) (after : IpsecDb) : Prop where
  change : ∃ sad slot handle, db.sad = some sad ∧ db.sas slot = some handle ∧
    handle ∈ db.sas.owners ∧ (db.heap.sa handle).spec.Names spec ∧
    after =
      { sad := some (Function.update sad spec.sadKey none)
        sas := Function.update db.sas slot none
        heap := dpIpsecFreeSa db.heap handle }

theorem dpIpsecDeleteSa_cases (invariant : DbInvariant conf db)
    (done : dpIpsecDeleteSa outcomes db spec = (after, result)) :
    (∃ err, result = .error err ∧ Untouched db after) ∨
      (result = .ok () ∧ Deleted db spec after) := by
  have refused := Untouched.refl invariant
  unfold dpIpsecDeleteSa at done
  split at done
  · cases done
    exact Or.inl ⟨_, rfl, refused⟩
  next sad found =>
  split at done
  · cases done
    exact Or.inl ⟨_, rfl, refused⟩
  next handle lookup =>
  split at done
  · cases done
    exact Or.inl ⟨_, rfl, refused⟩
  obtain ⟨member, names⟩ := (dpIpsecFindSa_eq_some_iff invariant found).mp lookup
  obtain ⟨slot, slotFound⟩ := SlotTable.exists_slotOf member
  simp only [slotFound] at done
  cases done
  exact Or.inr ⟨rfl, ⟨sad, slot, handle, found,
    SlotTable.held_of_slotOf slotFound, member, names, rfl⟩⟩

theorem Deleted.invariant (deleted : Deleted db spec after) (invariant : DbInvariant conf db) :
    DbInvariant conf after := by
  obtain ⟨sad, slot, handle, found, held, member, names, rfl⟩ := deleted.change
  have filed : sad spec.sadKey = some handle :=
    (invariant.filed sad found _ handle).mpr ⟨member, names.sadKey_eq⟩
  exact invariant.remove found held filed

end Requests

/-! ## Every request -/

section Runs

variable {conf : DpConf} {outcomes : Outcomes} {db after : IpsecDb}
variable {result : Except GrpcErr Unit}

/-- What a request that succeeds does to the database. -/
def Applied (conf : DpConf) (db after : IpsecDb) : SaRequest → Prop
  | .create request => Created conf db (requestedSa request request.id.spi) after
  | .update request =>
    request.sa.id.dir = .egress ∧
      Replaced conf db request.sa.id (requestedSa request.sa request.newSpi) after
  | .delete request => Deleted db request after

theorem processSaRequest_cases (invariant : DbInvariant conf db) (request : SaRequest)
    (done : processSaRequest conf outcomes db request = (after, result)) :
    (∃ err, result = .error err ∧ Untouched db after) ∨
      (result = .ok () ∧ Applied conf db after request) := by
  cases request with
  | create request => exact dpIpsecCreateSa_cases invariant done
  | update request => exact dpIpsecUpdateSa_cases invariant rfl rfl done
  | delete request => exact dpIpsecDeleteSa_cases invariant done

theorem Applied.invariant {request : SaRequest} (applied : Applied conf db after request)
    (invariant : DbInvariant conf db) :
    DbInvariant conf after := by
  cases request with
  | create request => exact Created.invariant applied invariant
  | update request =>
    exact applied.2.invariant applied.1 rfl rfl rfl rfl invariant
  | delete request => exact Deleted.invariant applied invariant

theorem processSaRequest_invariant (invariant : DbInvariant conf db) (request : SaRequest)
    (outcomes : Outcomes) :
    DbInvariant conf (processSaRequest conf outcomes db request).1 := by
  cases done : processSaRequest conf outcomes db request with
  | mk after result =>
    rcases processSaRequest_cases invariant request done with
      ⟨_, _, untouched⟩ | ⟨_, applied⟩
    · exact untouched.invariant invariant
    · exact applied.invariant invariant

def SaRequest.target : SaRequest → Option IpsecSaSpec
  | .create _ => none
  | .update request => some request.sa.id
  | .delete request => some request

theorem Applied.survives {request : SaRequest} {slot : Fin dpIpsecMaxSa} {handle : Handle}
    (applied : Applied conf db after request) (held : db.sas slot = some handle)
    (spared : ∀ target, request.target = some target → ¬ (db.heap.sa handle).spec.Names target) :
    after.sas slot = some handle ∧ after.heap.sa handle = db.heap.sa handle := by
  have member : handle ∈ db.sas.owners := (SlotTable.mem_owners handle).mpr ⟨slot, held⟩
  cases request with
  | create request =>
    obtain ⟨sad, newSlot, heap, _, empty, stored, _, _, rfl⟩ :=
      applied.change
    have different : slot ≠ newSlot := by
      intro same
      rw [same, empty] at held
      cases held
    exact ⟨(Function.update_of_ne different ..).trans held, stored.frame handle member⟩
  | update request =>
    obtain ⟨sad, oldSlot, old, heap, _, oldHeld, _, names, stored, _, rfl⟩ :=
      applied.2.change
    have different : slot ≠ oldSlot := by
      intro same
      rw [same, oldHeld] at held
      cases held
      exact spared _ rfl names
    exact ⟨(Function.update_of_ne different ..).trans held, stored.frame handle member⟩
  | delete request =>
    obtain ⟨sad, oldSlot, old, _, oldHeld, _, names, rfl⟩ :=
      applied.change
    have different : slot ≠ oldSlot := by
      intro same
      rw [same, oldHeld] at held
      cases held
      exact spared _ rfl names
    exact ⟨(Function.update_of_ne different ..).trans held, rfl⟩

theorem processSaRequest_survives {request : SaRequest} {slot : Fin dpIpsecMaxSa} {handle : Handle}
    (invariant : DbInvariant conf db)
    (held : db.sas slot = some handle)
    (spared : ∀ target, request.target = some target → (db.heap.sa handle).spec.Names target →
        (processSaRequest conf outcomes db request).2 ≠ .ok ()) :
    (processSaRequest conf outcomes db request).1.sas slot = some handle ∧
      (processSaRequest conf outcomes db request).1.heap.sa handle = db.heap.sa handle := by
  cases done : processSaRequest conf outcomes db request with
  | mk after result =>
    rw [done] at spared
    rcases processSaRequest_cases invariant request done with
      ⟨_, _, untouched⟩ | ⟨succeeded, applied⟩
    · have member : handle ∈ db.sas.owners :=
        (SlotTable.mem_owners handle).mpr ⟨slot, held⟩
      exact ⟨by rw [untouched.sas, held], untouched.stored handle member⟩
    · refine applied.survives held ?_
      intro target targeted names
      exact spared target targeted names succeeded

theorem saMachine_invariant (conf : DpConf) (events : List SaEvent) :
    DbInvariant conf ((saMachine conf).run events) := by
  have preserved : ∀ db event,
      DbInvariant conf db → DbInvariant conf ((saMachine conf).step db event) :=
    fun _ event invariant => processSaRequest_invariant invariant event.1 event.2
  exact Machine.run_invariant (dbInvariant_init conf) preserved events

end Runs

end DpService.Ipsec

import DpService.Ipsec.Database

/-!
# Ownership of associations

`SaHeap.Owned live` says that the associations in `live` are exactly the ones
held, that each of them holds its own crypto session and librte_ipsec state,
and that the session pool has handed out exactly the sessions they hold.
Every heap operation of the database keeps it.
-/

namespace DpService.Ipsec

open Foundations

/-- The associations in `live` are held; all others were released once,
together with what they owned. -/
structure SaHeap.Owned (heap : SaHeap) (live : Finset Handle) : Prop where
  sas : heap.sas.Balanced live
  sessions : heap.sessions.Attached heap.sas.next (IpsecSa.session ∘ heap.sa) live
  ipsecSas : heap.ipsecSas.Attached heap.sas.next (IpsecSa.ipsecSa ∘ heap.sa) live
  inUse : heap.sessionsInUse = (Arena.linked (IpsecSa.session ∘ heap.sa) live).card

namespace SaHeap

variable {heap : SaHeap} {live : Finset Handle} {handle : Handle}

theorem owned_empty : SaHeap.empty.Owned ∅ where
  sas := Arena.balanced_empty
  sessions := Arena.attached_empty _
  ipsecSas := Arena.attached_empty _
  inUse := by simp [SaHeap.empty, Arena.linked]

@[simp]
theorem write_sa_self (sa : IpsecSa) : (heap.write handle sa).sa handle = sa :=
  Function.update_self ..

theorem write_sa_of_ne {other : Handle} (different : other ≠ handle) (sa : IpsecSa) :
    (heap.write handle sa).sa other = heap.sa other :=
  Function.update_of_ne different ..

private theorem link_write {Link : Type} (link : IpsecSa → Link) (sa : IpsecSa) :
    link ∘ (heap.write handle sa).sa = Function.update (link ∘ heap.sa) handle (link sa) :=
  Function.comp_update ..

private theorem link_write_same {Link : Type} (link : IpsecSa → Link) {sa : IpsecSa}
    (same : link sa = link (heap.sa handle)) :
    link ∘ (heap.write handle sa).sa = link ∘ heap.sa := by
  rw [link_write, same]
  exact Function.update_eq_self ..

theorem Owned.write (owned : heap.Owned live) {sa : IpsecSa}
    (sameSession : sa.session = (heap.sa handle).session)
    (sameIpsecSa : sa.ipsecSa = (heap.sa handle).ipsecSa) :
    (heap.write handle sa).Owned live where
  sas := owned.sas
  sessions := by
    rw [link_write_same IpsecSa.session sameSession]
    exact owned.sessions
  ipsecSas := by
    rw [link_write_same IpsecSa.ipsecSa sameIpsecSa]
    exact owned.ipsecSas
  inUse := by
    rw [link_write_same IpsecSa.session sameSession]
    exact owned.inUse

theorem Owned.allocSa (owned : heap.Owned live) {sa : IpsecSa}
    (noSession : sa.session = none) (noIpsecSa : sa.ipsecSa = none) :
    (heap.allocSa sa).Owned (insert heap.sas.next live) where
  sas := owned.sas.alloc
  sessions := by
    have link : IpsecSa.session ∘ (heap.write heap.sas.next sa).sa =
          Function.update (IpsecSa.session ∘ heap.sa) heap.sas.next none := by
      rw [link_write, noSession]
    change
      heap.sessions.Attached (heap.sas.next + 1)
        (IpsecSa.session ∘ (heap.write heap.sas.next sa).sa) _
    rw [link]
    exact owned.sessions.newOwner owned.sas.allocated
  ipsecSas := by
    have link : IpsecSa.ipsecSa ∘ (heap.write heap.sas.next sa).sa =
          Function.update (IpsecSa.ipsecSa ∘ heap.sa) heap.sas.next none := by
      rw [link_write, noIpsecSa]
    change
      heap.ipsecSas.Attached (heap.sas.next + 1)
        (IpsecSa.ipsecSa ∘ (heap.write heap.sas.next sa).sa) _
    rw [link]
    exact owned.ipsecSas.newOwner owned.sas.allocated
  inUse := by
    have link : IpsecSa.session ∘ (heap.write heap.sas.next sa).sa =
          Function.update (IpsecSa.session ∘ heap.sa) heap.sas.next none := by
      rw [link_write, noSession]
    change
      heap.sessionsInUse =
        (Arena.linked (IpsecSa.session ∘ (heap.write heap.sas.next sa).sa) _).card
    rw [link, Arena.linked_update_none owned.sas.next_notMem]
    exact owned.inUse

theorem Owned.attachSession (owned : heap.Owned live) (member : handle ∈ live)
    (noSession : (heap.sa handle).session = none) :
    (heap.attachSession handle).Owned live := by
  have sessionLink : IpsecSa.session ∘ (heap.attachSession handle).sa =
        Function.update (IpsecSa.session ∘ heap.sa) handle (some heap.sessions.next) :=
    link_write IpsecSa.session _
  have ipsecLink : IpsecSa.ipsecSa ∘ (heap.attachSession handle).sa = IpsecSa.ipsecSa ∘ heap.sa :=
    link_write_same IpsecSa.ipsecSa rfl
  exact
    { sas := owned.sas
      sessions := by
        rw [sessionLink]
        exact owned.sessions.attach member noSession
      ipsecSas := by
        rw [ipsecLink]
        exact owned.ipsecSas
      inUse := by
        rw [sessionLink, Arena.linked_update_some member noSession,
          Finset.card_insert_of_notMem owned.sessions.balanced.next_notMem, ← owned.inUse]
        rfl }

theorem Owned.attachIpsecSa (owned : heap.Owned live) (member : handle ∈ live)
    (noIpsecSa : (heap.sa handle).ipsecSa = none) :
    (heap.attachIpsecSa handle).Owned live := by
  have sessionLink : IpsecSa.session ∘ (heap.attachIpsecSa handle).sa = IpsecSa.session ∘ heap.sa :=
    link_write_same IpsecSa.session rfl
  have ipsecLink : IpsecSa.ipsecSa ∘ (heap.attachIpsecSa handle).sa =
        Function.update (IpsecSa.ipsecSa ∘ heap.sa) handle (some heap.ipsecSas.next) :=
    link_write IpsecSa.ipsecSa _
  exact
    { sas := owned.sas
      sessions := by
        rw [sessionLink]
        exact owned.sessions
      ipsecSas := by
        rw [ipsecLink]
        exact owned.ipsecSas.attach member noIpsecSa
      inUse := by
        rw [sessionLink]
        exact owned.inUse }

theorem Owned.freeSa (owned : heap.Owned live) (member : handle ∈ live) :
    (dpIpsecFreeSa heap handle).Owned (live.erase handle) where
  sas := owned.sas.free member
  sessions := owned.sessions.dropOwner owned.sas.allocated member
  ipsecSas := owned.ipsecSas.dropOwner owned.sas.allocated member
  inUse := by
    have before := owned.inUse
    cases session : (heap.sa handle).session with
    | none =>
      have unlinked : (IpsecSa.session ∘ heap.sa) handle = none := session
      change _ = (Arena.linked (IpsecSa.session ∘ heap.sa) _).card
      rw [Arena.linked_erase_of_none unlinked, ← before]
      simp only [dpIpsecFreeSa, session]
    | some object => ?_
    have held : (IpsecSa.session ∘ heap.sa) handle = some object := session
    have objectMember : object ∈ Arena.linked (IpsecSa.session ∘ heap.sa) live :=
      (Arena.mem_linked ..).mpr ⟨handle, member, held⟩
    change _ = (Arena.linked (IpsecSa.session ∘ heap.sa) _).card
    rw [owned.sessions.linked_erase_of_some owned.sas.allocated member held,
      Finset.card_erase_of_mem objectMember, ← before]
    simp only [dpIpsecFreeSa, session]

@[simp]
theorem freeSa_sa : (dpIpsecFreeSa heap handle).sa = heap.sa :=
  rfl

end SaHeap

/-! ## Building an association -/

def builtSa (request : IpsecSa) (session ipsecSa : Handle) : IpsecSa :=
  { initialSa request with
    src := request.src.maskPrefix
    dst := request.dst.maskPrefix
    session := some session
    ipsecSa := some ipsecSa }

/-- A heap on the way from `heap` to one with a new association: only that
association differs, and it is held in addition to `live`. -/
structure SaHeap.Building
    (heap : SaHeap) (live : Finset Handle) (current : SaHeap) : Prop where
  frame : ∀ other, other ≠ heap.sas.next → current.sa other = heap.sa other
  owned : current.Owned (insert heap.sas.next live)

namespace SaHeap.Building

variable {heap current : SaHeap} {live : Finset Handle}

theorem allocSa (owned : heap.Owned live) {sa : IpsecSa}
    (noSession : sa.session = none) (noIpsecSa : sa.ipsecSa = none) :
    heap.Building live (heap.allocSa sa) where
  frame := fun _ different => write_sa_of_ne different _
  owned := owned.allocSa noSession noIpsecSa

theorem attachSession (building : heap.Building live current)
    (noSession : (current.sa heap.sas.next).session = none) :
    heap.Building live (current.attachSession heap.sas.next) where
  frame := by
    intro other different
    rw [← building.frame other different]
    exact write_sa_of_ne different _
  owned := building.owned.attachSession (Finset.mem_insert_self ..) noSession

theorem attachIpsecSa (building : heap.Building live current)
    (noIpsecSa : (current.sa heap.sas.next).ipsecSa = none) :
    heap.Building live (current.attachIpsecSa heap.sas.next) where
  frame := by
    intro other different
    rw [← building.frame other different]
    exact write_sa_of_ne different _
  owned := building.owned.attachIpsecSa (Finset.mem_insert_self ..) noIpsecSa

theorem write (building : heap.Building live current) {sa : IpsecSa}
    (sameSession : sa.session = (current.sa heap.sas.next).session)
    (sameIpsecSa : sa.ipsecSa = (current.sa heap.sas.next).ipsecSa) :
    heap.Building live (current.write heap.sas.next sa) where
  frame := by
    intro other different
    rw [← building.frame other different]
    exact write_sa_of_ne different _
  owned := building.owned.write sameSession sameIpsecSa

theorem freeSa (building : heap.Building live current) (owned : heap.Owned live) :
    (dpIpsecFreeSa current heap.sas.next).Owned live := by
  have released := building.owned.freeSa (Finset.mem_insert_self ..)
  rwa [Finset.erase_insert owned.sas.next_notMem] at released

end SaHeap.Building

theorem dpIpsecCreateIpsecSa_cases {outcomes : Outcomes} {heap current after : SaHeap}
    {live : Finset Handle} {done : Bool} (building : heap.Building live current)
    (noIpsecSa : (current.sa heap.sas.next).ipsecSa = none)
    (created : dpIpsecCreateIpsecSa outcomes current heap.sas.next = (after, done)) :
    heap.Building live after ∧ (done = true → after = current.attachIpsecSa heap.sas.next) := by
  unfold dpIpsecCreateIpsecSa at created
  split at created
  · cases created
    exact ⟨building, fun impossible => absurd impossible (by decide)⟩
  cases created
  exact ⟨building.attachIpsecSa noIpsecSa, fun _ => rfl⟩

/-- All that `dp_ipsec_build_sa` can do: it fails and leaves nothing behind,
or it returns a complete association under the next handle. -/
theorem dpIpsecBuildSa_cases {outcomes : Outcomes} {heap after : SaHeap} {request : IpsecSa}
    {lookupSpi : UInt32} {result : Except GrpcErr Handle}
    {live : Finset Handle} (owned : heap.Owned live)
    (built : dpIpsecBuildSa outcomes heap request lookupSpi = (after, result)) :
    (∀ other, other ≠ heap.sas.next → after.sa other = heap.sa other) ∧
      ((∃ err, result = .error err ∧ after.Owned live) ∨
        (result = .ok heap.sas.next ∧ after.Owned (insert heap.sas.next live) ∧
          after.sa heap.sas.next = builtSa request heap.sessions.next heap.ipsecSas.next)) := by
  have allocated : heap.Building live (heap.allocSa (initialSa request)) :=
    SaHeap.Building.allocSa owned rfl rfl
  have allocatedSa : (heap.allocSa (initialSa request)).sa heap.sas.next = initialSa request :=
    SaHeap.write_sa_self _
  have attached := allocated.attachSession (by rw [allocatedSa]; rfl)
  have noIpsecSa :
      (((heap.allocSa (initialSa request)).attachSession
        heap.sas.next).sa heap.sas.next).ipsecSa = none := by
    simp only [SaHeap.attachSession, SaHeap.write_sa_self, allocatedSa]
    rfl
  unfold dpIpsecBuildSa at built
  split at built
  · cases built
    exact ⟨fun _ _ => rfl, Or.inl ⟨_, rfl, owned⟩⟩
  simp only at built
  split at built
  · cases built
    exact ⟨allocated.frame, Or.inl ⟨_, rfl, allocated.freeSa owned⟩⟩
  split at built
  · next current created =>
    obtain ⟨building, _⟩ :=
      dpIpsecCreateIpsecSa_cases attached noIpsecSa created
    cases built
    exact ⟨building.frame, Or.inl ⟨_, rfl, building.freeSa owned⟩⟩
  next current created =>
  obtain ⟨building, complete⟩ := dpIpsecCreateIpsecSa_cases attached noIpsecSa created
  have finished :
      heap.Building live
        (current.write heap.sas.next
          { current.sa heap.sas.next with
            src := (current.sa heap.sas.next).src.maskPrefix
            dst := (current.sa heap.sas.next).dst.maskPrefix }) :=
    building.write rfl rfl
  cases built
  refine ⟨finished.frame, Or.inr ⟨rfl, finished.owned, ?_⟩⟩
  rw [complete rfl]
  simp only [SaHeap.attachIpsecSa, SaHeap.attachSession, SaHeap.write_sa_self, allocatedSa]
  rfl

end DpService.Ipsec

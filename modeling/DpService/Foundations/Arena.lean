import Mathlib.Data.Finset.Basic
import Mathlib.Data.Finset.Card
import Mathlib.Data.Finset.Union
import Mathlib.Data.Finset.Option
import Mathlib.Logic.Function.Basic

/-!
# Allocation ledgers

An arena hands out objects under fresh handles and counts how often each of
them was given back.  `Balanced live` says that the objects in `live` are
exactly the ones still held: none of them was given back, and every other
object ever handed out was given back exactly once.

An object can own another one, of a second arena, through a link.  `Attached`
says that the linked objects of the live owners are exactly the ones held.
-/

namespace DpService.Foundations

abbrev Handle := Nat

/-- The ledger of one allocator. -/
structure Arena where
  next : Handle
  freed : Handle → Nat

namespace Arena

def empty : Arena where
  next := 0
  freed := fun _ => 0

def alloc (arena : Arena) : Arena :=
  { arena with next := arena.next + 1 }

def free (arena : Arena) (handle : Handle) : Arena :=
  { arena with freed := Function.update arena.freed handle (arena.freed handle + 1) }

@[simp]
theorem alloc_next (arena : Arena) : arena.alloc.next = arena.next + 1 :=
  rfl

/-- The objects in `live` are the ones held, and every other object handed
out was given back exactly once. -/
structure Balanced (arena : Arena) (live : Finset Handle) : Prop where
  allocated : ∀ handle ∈ live, handle < arena.next
  held : ∀ handle ∈ live, arena.freed handle = 0
  givenBack : ∀ handle < arena.next, handle ∉ live → arena.freed handle = 1
  fresh : ∀ handle, arena.next ≤ handle → arena.freed handle = 0

theorem balanced_empty : empty.Balanced ∅ where
  allocated := by simp
  held := by simp
  givenBack := fun handle bound => absurd bound (Nat.not_lt_zero handle)
  fresh := fun _ _ => rfl

theorem Balanced.next_notMem {arena : Arena} {live : Finset Handle}
    (balanced : arena.Balanced live) :
    arena.next ∉ live :=
  fun member => Nat.lt_irrefl _ (balanced.allocated _ member)

theorem Balanced.alloc {arena : Arena} {live : Finset Handle} (balanced : arena.Balanced live) :
    arena.alloc.Balanced (insert arena.next live) where
  allocated := by
    intro handle member
    rcases Finset.mem_insert.mp member with rfl | member
    · exact Nat.lt_succ_self _
    · exact Nat.lt_succ_of_lt (balanced.allocated handle member)
  held := by
    intro handle member
    rcases Finset.mem_insert.mp member with rfl | member
    · exact balanced.fresh _ (Nat.le_refl _)
    · exact balanced.held handle member
  givenBack := by
    intro handle bound notMember
    rw [Finset.mem_insert, not_or] at notMember
    have older : handle < arena.next := lt_of_le_of_ne (Nat.le_of_lt_succ bound) notMember.1
    exact balanced.givenBack handle older notMember.2
  fresh := fun handle bound => balanced.fresh handle (Nat.le_of_succ_le bound)

theorem Balanced.free {arena : Arena} {live : Finset Handle} {handle : Handle}
    (balanced : arena.Balanced live) (member : handle ∈ live) :
    (arena.free handle).Balanced (live.erase handle) where
  allocated := fun other otherMember =>
    balanced.allocated other (Finset.mem_of_mem_erase otherMember)
  held := by
    intro other otherMember
    have different : other ≠ handle := Finset.ne_of_mem_erase otherMember
    have otherHeld : arena.freed other = 0 :=
      balanced.held other (Finset.mem_of_mem_erase otherMember)
    simpa only [Arena.free, Function.update_of_ne different] using otherHeld
  givenBack := by
    intro other bound notMember
    by_cases same : other = handle
    · subst same
      simp only [Arena.free, Function.update_self, balanced.held other member]
    have notLive : other ∉ live := fun otherMember =>
      notMember (Finset.mem_erase.mpr ⟨same, otherMember⟩)
    simpa only [Arena.free, Function.update_of_ne same] using
      balanced.givenBack other bound notLive
  fresh := by
    intro other bound
    have different : other ≠ handle := by
      rintro rfl
      exact Nat.not_lt.mpr bound (balanced.allocated other member)
    simpa only [Arena.free, Function.update_of_ne different] using balanced.fresh other bound

/-- Give back the object a link refers to, if there is one. -/
def freeOption (arena : Arena) : Option Handle → Arena
  | none => arena
  | some handle => arena.free handle

@[simp]
theorem freeOption_next (arena : Arena) (link : Option Handle) :
    (arena.freeOption link).next = arena.next := by
  cases link <;> rfl

/-! ## Objects owned through a link -/

/-- The objects that the owners in `live` link to. -/
def linked (link : Handle → Option Handle) (live : Finset Handle) : Finset Handle :=
  live.biUnion fun owner => (link owner).toFinset

@[simp]
theorem mem_linked (link : Handle → Option Handle) (live : Finset Handle) (object : Handle) :
    object ∈ linked link live ↔ ∃ owner ∈ live, link owner = some object := by
  simp [linked]

/-- Among the owners with handles below `bound`, no object is linked twice,
and the objects of the live owners are exactly the ones held. -/
structure Attached
    (arena : Arena) (bound : Handle) (link : Handle → Option Handle)
    (live : Finset Handle) : Prop where
  balanced : arena.Balanced (linked link live)
  distinct : ∀ first < bound, ∀ second < bound, ∀ object,
    link first = some object → link second = some object →
      first = second
  allocated : ∀ owner < bound, ∀ object, link owner = some object → object < arena.next

theorem attached_empty (link : Handle → Option Handle) : empty.Attached 0 link ∅ where
  balanced := by simpa [linked] using balanced_empty
  distinct := fun first bound => absurd bound (Nat.not_lt_zero first)
  allocated := fun owner bound => absurd bound (Nat.not_lt_zero owner)

section Attached

variable {arena : Arena} {bound : Handle} {link : Handle → Option Handle}
variable {live : Finset Handle}

theorem linked_update_none {owner : Handle} (notLive : owner ∉ live) :
    linked (Function.update link owner none) (insert owner live) = linked link live := by
  ext object
  simp only [mem_linked, Finset.mem_insert]
  constructor
  · rintro ⟨other, rfl | member, held⟩
    · simp at held
    have different : other ≠ owner := by
      rintro rfl
      exact notLive member
    rw [Function.update_of_ne different] at held
    exact ⟨other, member, held⟩
  rintro ⟨other, member, held⟩
  have different : other ≠ owner := by
    rintro rfl
    exact notLive member
  exact ⟨other, Or.inr member, by rw [Function.update_of_ne different, held]⟩

theorem linked_update_some {owner object : Handle} (member : owner ∈ live)
    (unlinked : link owner = none) :
    linked (Function.update link owner (some object)) live = insert object (linked link live) := by
  ext other
  simp only [mem_linked, Finset.mem_insert]
  constructor
  · rintro ⟨holder, holderMember, held⟩
    by_cases same : holder = owner
    · subst same
      rw [Function.update_self] at held
      exact Or.inl (Option.some.inj held).symm
    · rw [Function.update_of_ne same] at held
      exact Or.inr ⟨holder, holderMember, held⟩
  rintro (rfl | ⟨holder, holderMember, held⟩)
  · exact ⟨owner, member, Function.update_self ..⟩
  have different : holder ≠ owner := by
    rintro rfl
    rw [unlinked] at held
    exact Option.some_ne_none _ held.symm
  exact
    ⟨holder, holderMember, by
      rw [Function.update_of_ne different, held]⟩

theorem linked_erase_of_none {owner : Handle} (unlinked : link owner = none) :
    linked link (live.erase owner) = linked link live := by
  ext object
  simp only [mem_linked, Finset.mem_erase]
  constructor
  · rintro ⟨other, ⟨_, member⟩, held⟩
    exact ⟨other, member, held⟩
  rintro ⟨other, member, held⟩
  refine ⟨other, ⟨?_, member⟩, held⟩
  rintro rfl
  rw [unlinked] at held
  exact Option.some_ne_none _ held.symm

theorem Attached.linked_erase_of_some {owner object : Handle}
    (attached : arena.Attached bound link live) (below : ∀ other ∈ live, other < bound)
    (member : owner ∈ live) (held : link owner = some object) :
    linked link (live.erase owner) = (linked link live).erase object := by
  ext other
  simp only [mem_linked, Finset.mem_erase]
  constructor
  · rintro ⟨holder, ⟨different, holderMember⟩, otherHeld⟩
    refine ⟨?_, holder, holderMember, otherHeld⟩
    rintro rfl
    exact different <|
      attached.distinct holder (below holder holderMember)
        owner (below owner member) other otherHeld held
  rintro ⟨different, holder, holderMember, otherHeld⟩
  refine ⟨holder, ⟨?_, holderMember⟩, otherHeld⟩
  rintro rfl
  exact different (Option.some.inj (otherHeld.symm.trans held))

theorem Attached.newOwner (attached : arena.Attached bound link live)
    (below : ∀ owner ∈ live, owner < bound) :
    arena.Attached (bound + 1) (Function.update link bound none) (insert bound live) := by
  have notLive : bound ∉ live := fun member => Nat.lt_irrefl bound (below bound member)
  have older : ∀ owner < bound + 1, ∀ object, Function.update link bound none owner = some object →
        owner < bound ∧ link owner = some object := by
    intro owner ownerBound object held
    by_cases same : owner = bound
    · subst same
      simp at held
    · rw [Function.update_of_ne same] at held
      exact ⟨lt_of_le_of_ne (Nat.le_of_lt_succ ownerBound) same, held⟩
  exact
    { balanced := by
        rw [linked_update_none notLive]
        exact attached.balanced
      distinct := by
        intro first firstBound second secondBound object firstHeld secondHeld
        obtain ⟨firstOlder, firstLink⟩ := older first firstBound _ firstHeld
        obtain ⟨secondOlder, secondLink⟩ := older second secondBound _ secondHeld
        exact attached.distinct first firstOlder second secondOlder object firstLink secondLink
      allocated := by
        intro owner ownerBound object held
        obtain ⟨ownerOlder, ownerLink⟩ := older owner ownerBound _ held
        exact attached.allocated owner ownerOlder object ownerLink }

theorem Attached.attach {owner : Handle} (attached : arena.Attached bound link live)
    (member : owner ∈ live) (unlinked : link owner = none) :
    arena.alloc.Attached bound (Function.update link owner (some arena.next)) live := by
  have fresh : ∀ other < bound, link other ≠ some arena.next := by
    intro other otherBound held
    exact Nat.lt_irrefl _ (attached.allocated other otherBound _ held)
  exact
    { balanced := by
        rw [linked_update_some member unlinked]
        exact attached.balanced.alloc
      distinct := by
        intro first firstBound second secondBound object firstHeld secondHeld
        by_cases firstSame : first = owner <;>
          by_cases secondSame : second = owner
        · rw [firstSame, secondSame]
        · subst firstSame
          rw [Function.update_self] at firstHeld
          rw [Function.update_of_ne secondSame, ← firstHeld] at secondHeld
          exact absurd secondHeld (fresh second secondBound)
        · subst secondSame
          rw [Function.update_self] at secondHeld
          rw [Function.update_of_ne firstSame, ← secondHeld] at firstHeld
          exact absurd firstHeld (fresh first firstBound)
        · rw [Function.update_of_ne firstSame] at firstHeld
          rw [Function.update_of_ne secondSame] at secondHeld
          exact attached.distinct first firstBound second secondBound object firstHeld secondHeld
      allocated := by
        intro other otherBound object held
        by_cases same : other = owner
        · subst same
          rw [Function.update_self, Option.some_inj] at held
          rw [← held]
          exact Nat.lt_succ_self _
        · rw [Function.update_of_ne same] at held
          exact Nat.lt_succ_of_lt (attached.allocated other otherBound _ held) }

theorem Attached.dropOwner {owner : Handle} (attached : arena.Attached bound link live)
    (below : ∀ other ∈ live, other < bound) (member : owner ∈ live) :
    (arena.freeOption (link owner)).Attached bound link (live.erase owner) where
  balanced := by
    cases held : link owner with
    | none =>
      rw [linked_erase_of_none held]
      exact attached.balanced
    | some object =>
      rw [attached.linked_erase_of_some below member held]
      exact attached.balanced.free ((mem_linked ..).mpr ⟨owner, member, held⟩)
  distinct := attached.distinct
  allocated := by
    intro other otherBound object held
    rw [freeOption_next]
    exact attached.allocated other otherBound object held

theorem Attached.card_linked (attached : arena.Attached bound link live)
    (below : ∀ owner ∈ live, owner < bound) (complete : ∀ owner ∈ live, (link owner).isSome) :
    (linked link live).card = live.card := by
  symm
  refine Finset.card_bij (fun owner member => (link owner).get (complete owner member)) ?_ ?_ ?_
  · intro owner member
    exact (mem_linked ..).mpr ⟨owner, member, (Option.some_get _).symm⟩
  · intro first firstMember second secondMember equal
    have firstHeld := (Option.some_get (complete first firstMember)).symm
    refine
      attached.distinct first (below first firstMember)
        second (below second secondMember) _ firstHeld ?_
    rw [equal]
    exact (Option.some_get _).symm
  · intro object member
    obtain ⟨owner, ownerMember, held⟩ := (mem_linked ..).mp member
    exact ⟨owner, ownerMember, by simp [held]⟩

end Attached

end Arena

end DpService.Foundations

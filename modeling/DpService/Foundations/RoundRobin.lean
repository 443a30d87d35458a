import Mathlib.Data.Finset.Card
import Mathlib.Data.List.Perm.Subperm
import Mathlib.Data.Nat.ModEq
import Mathlib.Order.Interval.Finset.Nat
import DpService.Foundations.Table

/-!
# Slots claimed in turn

Claimants take turns in claiming slots.  Each of them has a list of all slots
in its order of preference and claims, when it is its turn, the first one that
is still free.  All slots are claimed in the end, and the numbers of slots of
two claimants differ by at most one.
-/

namespace DpService.Foundations

/-! ## Turns -/

/-- Who has claimed which slot, how far each claimant has gone through its
list, and the number of slots claimed. -/
structure Filling where
  owner : Nat → Option Nat
  next : Nat → Nat
  num : Nat

namespace Filling

def empty : Filling where
  owner := fun _ => none
  next := fun _ => 0
  num := 0

/-- Look for a free slot from a place of a preference list on.  The result is
the place behind the one found. -/
def scan (owner : Nat → Option Nat) (preference : Nat → Nat) : Nat → Nat → Nat × Option Nat
  | 0, place => (place, none)
  | steps + 1, place =>
    if owner (preference place) = none then (place + 1, some (preference place))
    else scan owner preference steps (place + 1)

variable (size : Nat) (preference : Nat → Nat → Nat)

/-- A round of turns.  It ends early, with `false`, when the last slot is
claimed. -/
def round : List Nat → Filling → Filling × Bool
  | [], filling => (filling, true)
  | claimant :: claimants, filling =>
    match
      scan filling.owner (preference claimant)
        (size - filling.next claimant) (filling.next claimant) with
    | (place, none) =>
      round claimants
        { filling with next := assign filling.next claimant place }
    | (place, some slot) =>
      let filling :=
        { owner := assign filling.owner slot (some claimant)
          next := assign filling.next claimant place
          num := filling.num + 1 }
      if filling.num = size then (filling, false)
      else round claimants filling

/-- Rounds until the last slot is claimed, or `none` if the fuel does not last
so long. -/
def fill (claimants : List Nat) : Nat → Filling → Option Filling
  | 0, _ => none
  | fuel + 1, filling =>
    match round size preference claimants filling with
    | (filling, false) => some filling
    | (filling, true) => fill claimants fuel filling

/-! ## Shares -/

def slots (filling : Filling) (claimant : Nat) : Finset Nat :=
  (Finset.range size).filter fun slot => filling.owner slot = some claimant

def taken (filling : Filling) : Finset Nat :=
  (Finset.range size).filter fun slot => filling.owner slot ≠ none

variable {size preference}

@[simp]
theorem mem_slots {filling : Filling} {claimant slot : Nat} : slot ∈ slots size filling claimant ↔
      slot < size ∧ filling.owner slot = some claimant := by
  simp [slots]

@[simp]
theorem mem_taken {filling : Filling} {slot : Nat} :
    slot ∈ taken size filling ↔ slot < size ∧ filling.owner slot ≠ none := by
  simp [taken]

structure Complete (size count : Nat) (preference : Nat → Nat → Nat) :
    Prop where
  listed : ∀ claimant < count, ∀ slot < size, ∃ place < size, preference claimant place = slot
  inside : ∀ claimant < count, ∀ place < size, preference claimant place < size

/-- In round `rounds`, before the turn of `turn`: everybody has one slot for
each turn, and what a claimant has passed in its list is taken. -/
structure Fair (size count : Nat) (preference : Nat → Nat → Nat)
    (rounds turn : Nat) (filling : Filling) : Prop where
  next_le : ∀ claimant < count, filling.next claimant ≤ size
  passed : ∀ claimant < count, ∀ place < filling.next claimant,
    filling.owner (preference claimant place) ≠ none
  owner_lt : ∀ slot claimant, filling.owner slot = some claimant → claimant < count
  share : ∀ claimant < count,
    (slots size filling claimant).card = rounds + if claimant < turn then 1 else 0
  num_eq : filling.num = (taken size filling).card
  total : filling.num = rounds * count + turn

theorem fair_empty (size count : Nat) (preference : Nat → Nat → Nat) :
    Fair size count preference 0 0 empty where
  next_le := fun _ _ => Nat.zero_le _
  passed := fun _ _ _ impossible => absurd impossible (Nat.not_lt_zero _)
  owner_lt := nofun
  share := by simp [slots, empty]
  num_eq := by simp [taken, empty]
  total := by simp [empty]

theorem Fair.next_round {count rounds : Nat} {filling : Filling}
    (fair : Fair size count preference rounds count filling) :
    Fair size count preference (rounds + 1) 0 filling where
  next_le := fair.next_le
  passed := fair.passed
  owner_lt := fair.owner_lt
  share := by
    intro claimant inside
    rw [fair.share claimant inside, if_pos inside, if_neg (Nat.not_lt_zero _)]
  num_eq := fair.num_eq
  total := by rw [fair.total, Nat.add_mul, Nat.one_mul, Nat.add_zero]

/-! ## One turn -/

theorem scan_finds {owner : Nat → Option Nat} {row : Nat → Nat} {steps place free : Nat}
    (ahead : place ≤ free) (reached : free < place + steps) (isFree : owner (row free) = none) :
    ∃ found, place ≤ found ∧ found < place + steps ∧ owner (row found) = none ∧
        (∀ between, place ≤ between → between < found → owner (row between) ≠ none) ∧
        scan owner row steps place = (found + 1, some (row found)) := by
  induction steps generalizing place with
  | zero => omega
  | succ steps ih =>
    rw [scan]
    by_cases here : owner (row place) = none
    · rw [if_pos here]
      exact ⟨place, le_rfl, by omega, here, fun _ from_ below => by omega, rfl⟩
    rw [if_neg here]
    have later : place ≠ free := by
      rintro rfl
      exact here isFree
    obtain ⟨found, from_, below, foundFree, between, result⟩ :=
      @ih (place + 1) (by omega) (by omega)
    refine ⟨found, by omega, by omega, foundFree, ?_, result⟩
    intro middle start stop
    by_cases first : middle = place
    · rw [first]
      exact here
    · exact between middle (by omega) stop

theorem Fair.scan {count rounds turn : Nat} {filling : Filling}
    (complete : Complete size count preference)
    (fair : Fair size count preference rounds turn filling) (unfilled : filling.num < size)
    (inside : turn < count) :
    ∃ found,
      filling.next turn ≤ found ∧ found < size ∧ filling.owner (preference turn found) = none ∧
        (∀ between < found, filling.owner (preference turn between) ≠ none) ∧
        Filling.scan filling.owner (preference turn)
            (size - filling.next turn) (filling.next turn) =
          (found + 1, some (preference turn found)) := by
  obtain ⟨slot, slotInside, slotFree⟩ : ∃ slot < size, filling.owner slot = none := by
    by_contra none_free
    simp only [not_exists, not_and] at none_free
    have whole : taken size filling = Finset.range size := by
      apply Finset.filter_true_of_mem
      intro slot listed
      exact none_free slot (Finset.mem_range.mp listed)
    have count_eq := fair.num_eq
    rw [whole, Finset.card_range] at count_eq
    omega
  obtain ⟨free, freeInside, rfl⟩ := complete.listed turn inside slot slotInside
  have bound := fair.next_le turn inside
  have ahead : filling.next turn ≤ free := by
    by_contra behind
    exact fair.passed turn inside free (by omega) slotFree
  obtain ⟨found, from_, below, foundFree, between, result⟩ :=
    @scan_finds filling.owner (preference turn) (size - filling.next turn)
      (filling.next turn) free ahead (by omega) slotFree
  refine ⟨found, from_, by omega, foundFree, ?_, result⟩
  intro middle stop
  by_cases old : middle < filling.next turn
  · exact fair.passed turn inside middle old
  · exact between middle (by omega) stop

/-- A filling in which a claimant has gone on to a place and claimed the slot
there. -/
def claimed (filling : Filling) (claimant place slot : Nat) : Filling where
  owner := assign filling.owner slot (some claimant)
  next := assign filling.next claimant place
  num := filling.num + 1

section Claimed

variable {filling : Filling} {claimant place slot : Nat}

@[simp]
theorem claimed_owner_self : (filling.claimed claimant place slot).owner slot = some claimant :=
  assign_self ..

theorem claimed_owner_of_ne {other : Nat} (different : other ≠ slot) :
    (filling.claimed claimant place slot).owner other = filling.owner other :=
  assign_of_ne _ _ different

theorem claimed_owner_ne_none {other : Nat} (before : filling.owner other ≠ none) :
    (filling.claimed claimant place slot).owner other ≠ none := by
  by_cases same : other = slot
  · simp [same]
  · rwa [claimed_owner_of_ne same]

theorem slots_claimed_self (inside : slot < size) (free : filling.owner slot = none) :
    (slots size (filling.claimed claimant place slot) claimant).card =
      (slots size filling claimant).card + 1 := by
  have grown : slots size (filling.claimed claimant place slot) claimant =
        insert slot (slots size filling claimant) := by
    ext other
    by_cases same : other = slot
    · simp [same, inside]
    · simp [claimed_owner_of_ne same, same]
  rw [grown, Finset.card_insert_of_notMem]
  simp [free]

theorem slots_claimed_other {other : Nat} (free : filling.owner slot = none)
    (different : other ≠ claimant) :
    slots size (filling.claimed claimant place slot) other = slots size filling other := by
  ext tested
  by_cases same : tested = slot
  · simp [same, free, different.symm]
  · simp [claimed_owner_of_ne same]

theorem taken_claimed (inside : slot < size) (free : filling.owner slot = none) :
    (taken size (filling.claimed claimant place slot)).card = (taken size filling).card + 1 := by
  have grown : taken size (filling.claimed claimant place slot) =
        insert slot (taken size filling) := by
    ext other
    by_cases same : other = slot
    · simp [same, inside]
    · simp [claimed_owner_of_ne same, same]
  rw [grown, Finset.card_insert_of_notMem]
  simp [free]

end Claimed

theorem Fair.claim {count rounds turn found : Nat} {filling : Filling}
    (complete : Complete size count preference)
    (fair : Fair size count preference rounds turn filling) (inside : turn < count)
    (below : found < size) (free : filling.owner (preference turn found) = none)
    (between : ∀ place < found, filling.owner (preference turn place) ≠ none) :
    Fair size count preference rounds (turn + 1)
      (filling.claimed turn (found + 1) (preference turn found)) where
  next_le := by
    intro claimant claimantInside
    by_cases same : claimant = turn
    · simpa [claimed, same] using below
    · simpa [claimed, assign_of_ne _ _ same] using fair.next_le claimant claimantInside
  passed := by
    intro claimant claimantInside place behind
    by_cases same : claimant = turn
    · subst same
      simp only [claimed, assign_self] at behind
      rcases Nat.lt_succ_iff_lt_or_eq.mp behind with earlier | rfl
      · exact claimed_owner_ne_none (between place earlier)
      · simp
    · simp only [claimed, assign_of_ne _ _ same] at behind
      exact claimed_owner_ne_none (fair.passed claimant claimantInside place behind)
  owner_lt := by
    intro slot claimant owned
    by_cases same : slot = preference turn found
    · rw [same, claimed_owner_self] at owned
      rw [← Option.some.inj owned]
      exact inside
    · rw [claimed_owner_of_ne same] at owned
      exact fair.owner_lt slot claimant owned
  share := by
    intro claimant claimantInside
    have before := fair.share claimant claimantInside
    by_cases same : claimant = turn
    · subst same
      rw [if_neg (Nat.lt_irrefl _)] at before
      rw [slots_claimed_self (complete.inside claimant inside found below) free,
        before, if_pos (Nat.lt_succ_self _)]
    · have turns : claimant < turn + 1 ↔ claimant < turn := by omega
      rw [slots_claimed_other free same, before]
      simp only [turns]
  num_eq := by
    rw [taken_claimed (complete.inside turn inside found below) free, ← fair.num_eq]
    rfl
  total := by
    have before := fair.total
    change filling.num + 1 = _
    omega

/-! ## Rounds -/

/-- A round from some turn on either claims the last slot or gives everybody a
slot and leaves some free. -/
theorem Fair.round {count rounds : Nat} (complete : Complete size count preference)
    (remaining : Nat) {turn : Nat} {filling : Filling}
    (fair : Fair size count preference rounds turn filling) (unfilled : filling.num < size)
    (rest : turn + remaining = count) :
    (∃ final last,
        Filling.round size preference (List.range' turn remaining) filling = (final, false) ∧
        Fair size count preference rounds last final ∧ last ≤ count ∧ final.num = size) ∨
      ∃ final, Filling.round size preference (List.range' turn remaining) filling = (final, true) ∧
        Fair size count preference rounds count final ∧ final.num < size := by
  induction remaining generalizing turn filling with
  | zero =>
    obtain rfl : turn = count := by omega
    exact Or.inr ⟨filling, rfl, fair, unfilled⟩
  | succ remaining ih =>
    have inside : turn < count := by omega
    obtain ⟨found, -, below, free, between, scanned⟩ :=
      fair.scan complete unfilled inside
    have next := fair.claim complete inside below free between
    rw [List.range'_succ, Filling.round, scanned]
    dsimp only
    change
      (∃ final last,
        (if (filling.claimed turn (found + 1)
            (preference turn found)).num = size then _ else _) = _ ∧ _) ∨ _
    by_cases full : (filling.claimed turn (found + 1) (preference turn found)).num = size
    · exact Or.inl ⟨_, turn + 1, if_pos full, next, inside, full⟩
    have unfilled' :
        (filling.claimed turn (found + 1) (preference turn found)).num < size :=
      Nat.lt_of_le_of_ne unfilled full
    have later := ih next unfilled' (by omega)
    rcases later with ⟨final, last, result, rest⟩ | ⟨final, result, rest⟩
    · exact Or.inl ⟨final, last, (if_neg full).trans result, rest⟩
    · exact Or.inr ⟨final, (if_neg full).trans result, rest⟩

theorem Fair.fill {count : Nat} (complete : Complete size count preference) (some_ : 0 < count)
    (fuel : Nat) {rounds : Nat} {filling : Filling}
    (fair : Fair size count preference rounds 0 filling) (unfilled : filling.num < size)
    (enough : size ≤ filling.num + fuel) :
    ∃ final rounds last,
      Filling.fill size preference (List.range' 0 count) fuel filling = some final ∧
      Fair size count preference rounds last final ∧ last ≤ count ∧ final.num = size := by
  induction fuel generalizing rounds filling with
  | zero => omega
  | succ fuel ih =>
    rw [Filling.fill]
    rcases fair.round complete count unfilled (Nat.zero_add count) with
      ⟨final, last, result, fairFinal, bounded, full⟩ |
      ⟨final, result, fairFinal, rest⟩
    · rw [result]
      exact ⟨final, rounds, last, rfl, fairFinal, bounded, full⟩
    rw [result]
    have grown : filling.num + count = final.num := by
      rw [fair.total, fairFinal.total, Nat.add_zero]
    exact ih fairFinal.next_round rest (by omega)

theorem fill_mono {claimants : List Nat} {fuel more : Nat} {filling final : Filling}
    (enough : fuel ≤ more)
    (filled : Filling.fill size preference claimants fuel filling = some final) :
    Filling.fill size preference claimants more filling = some final := by
  induction fuel generalizing more filling with
  | zero => simp [Filling.fill] at filled
  | succ fuel ih =>
    obtain ⟨more, rfl⟩ := Nat.exists_eq_add_of_le' enough
    rw [Filling.fill] at filled
    rw [show more + (fuel + 1) = more + fuel + 1 from rfl, Filling.fill]
    generalize Filling.round size preference claimants filling = result at filled ⊢
    rcases result with ⟨next, _ | _⟩
    · exact filled
    · exact ih (Nat.le_add_left fuel more) filled

/-- In a fair filling without a free slot every slot has an owner, and no two
claimants differ by more than one slot. -/
theorem Fair.full {count rounds last : Nat} {filling : Filling}
    (fair : Fair size count preference rounds last filling) (full : filling.num = size) :
    (∀ slot < size, ∃ claimant < count, filling.owner slot = some claimant) ∧
      ∀ first < count, ∀ second < count, (slots size filling first).card ≤
          (slots size filling second).card + 1 := by
  constructor
  · intro slot inside
    have whole : taken size filling = Finset.range size := by
      apply Finset.eq_of_subset_of_card_le (Finset.filter_subset _ _)
      rw [Finset.card_range]
      exact full.ge.trans fair.num_eq.le
    have listed : slot ∈ taken size filling := by
      rw [whole]
      exact Finset.mem_range.mpr inside
    obtain ⟨claimant, owned⟩ :=
      Option.ne_none_iff_exists'.mp (mem_taken.mp listed).2
    exact ⟨claimant, fair.owner_lt slot claimant owned, owned⟩
  · intro first firstInside second secondInside
    rw [fair.share first firstInside, fair.share second secondInside]
    split_ifs <;> omega

end Filling

/-! ## Arithmetic progressions -/

section Progression

variable {modulus step : Nat}

theorem progression_injective (coprime : Nat.Coprime step modulus) (offset : Nat)
    {first second : Nat} (firstInside : first < modulus) (secondInside : second < modulus)
    (same : (offset + first * step) % modulus = (offset + second * step) % modulus) :
    first = second := by
  have congruent : first * step ≡ second * step [MOD modulus] :=
    Nat.ModEq.add_left_cancel' offset same
  have steps : first ≡ second [MOD modulus] :=
    Nat.ModEq.cancel_right_of_coprime coprime.symm congruent
  rwa [Nat.ModEq, Nat.mod_eq_of_lt firstInside, Nat.mod_eq_of_lt secondInside] at steps

theorem progression_perm (positive : 0 < modulus) (coprime : Nat.Coprime step modulus)
    (offset : Nat) :
    ((List.range modulus).map fun place => (offset + place * step) % modulus).Perm
      (List.range modulus) := by
  have distinct :
      ((List.range modulus).map fun place => (offset + place * step) % modulus).Nodup := by
    apply List.Nodup.map_on _ List.nodup_range
    intro first firstInside second secondInside same
    exact
      progression_injective coprime offset (List.mem_range.mp firstInside)
        (List.mem_range.mp secondInside) same
  apply (List.subperm_of_subset distinct _).perm_of_length_le
  · simp
  · intro slot listed
    obtain ⟨place, -, rfl⟩ := List.mem_map.mp listed
    exact List.mem_range.mpr (Nat.mod_lt _ positive)

end Progression

theorem Filling.complete_of_perm {size count : Nat} {preference : Nat → Nat → Nat}
    (permutation : ∀ claimant < count,
      ((List.range size).map (preference claimant)).Perm (List.range size)) :
    Filling.Complete size count preference where
  listed := by
    intro claimant inside slot slotInside
    have listed := (permutation claimant inside).mem_iff.mpr (List.mem_range.mpr slotInside)
    obtain ⟨place, placeInside, same⟩ := List.mem_map.mp listed
    exact ⟨place, List.mem_range.mp placeInside, same⟩
  inside := by
    intro claimant inside place placeInside
    have listed : preference claimant place ∈ (List.range size).map (preference claimant) :=
      List.mem_map_of_mem (List.mem_range.mpr placeInside)
    exact List.mem_range.mp ((permutation claimant inside).mem_iff.mp listed)

end DpService.Foundations

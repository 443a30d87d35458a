import Mathlib.Tactic.NormNum.Prime
import DpService.Base
import DpService.Foundations.RoundRobin

/-!
# The lookup table of a load balancer

The targets of a load balancer are kept in ascending order, and a table of
fixed prime size assigns every flow hash to one of them.  The table is filled
by the targets in turn, each of which goes through the slots in an order of
its own that two hashes of its address give.
-/

namespace DpService.Lb

open Foundations

def murmurhash2Magic : UInt32 :=
  0x5bd1e995

/-- One round of the loop of `dp_murmur_hash2` over four bytes. -/
def murmurRound (h : UInt32) (b0 b1 b2 b3 : UInt8) : UInt32 :=
  let k := b0.toUInt32 ||| b1.toUInt32 <<< 8 ||| b2.toUInt32 <<< 16 ||| b3.toUInt32 <<< 24
  let k := k * murmurhash2Magic
  let k := k ^^^ k >>> 24
  let k := k * murmurhash2Magic
  h * murmurhash2Magic ^^^ k

def murmurRounds : UInt32 → List UInt8 → UInt32
  | h, b0 :: b1 :: b2 :: b3 :: data => murmurRounds (murmurRound h b0 b1 b2 b3) data
  | h, _ => h

/-- `dp_murmur_hash2`.  Of sixteen bytes nothing is left behind the rounds. -/
def dpMurmurHash2 (ipv6 : Ipv6) : UInt32 :=
  let h := murmurRounds 16 ipv6.toBytes
  let h := h ^^^ h >>> 13
  let h := h * murmurhash2Magic
  h ^^^ h >>> 15

def dpDjbHash (ipv6 : Ipv6) : UInt32 :=
  let hash : UInt32 :=
    ipv6.toBytes.foldl (fun (hash : UInt32) byte => (hash <<< 5 + hash) + byte.toUInt32) 5381
  hash &&& ~~~((1 : UInt32) <<< 31)

/-! ## The table -/

def maglevLookupSize : Nat :=
  503

def maxIpsPerVip : Nat :=
  64

/-- The part of `struct lb_value` that the targets are kept in.  The arrays are
read at places below their sizes only; a slot of the table that is
`DP_MAGLEV_POS_FREE` is `none`. -/
structure LbBackends where
  backEndIps : Nat → Ipv6
  maglevHash : Nat → Option Nat
  backEndCnt : Nat

def LbBackends.zeroed : LbBackends where
  backEndIps := fun _ => Ipv6.zero
  maglevHash := fun _ => some 0
  backEndCnt := 0

def maglevOffset (ipv6 : Ipv6) : UInt32 :=
  dpMurmurHash2 ipv6 % 503

def maglevSkip (ipv6 : Ipv6) : UInt32 :=
  dpDjbHash ipv6 % (503 - 1) + 1

def permutationRow (ipv6 : Ipv6) (j : Nat) : Nat :=
  ((maglevOffset ipv6 + UInt32.ofNat j * maglevSkip ipv6) % 503).toNat

def dpMaglevPermutation (backEndIps : Nat → Ipv6) (i j : Nat) : Nat :=
  permutationRow (backEndIps i) j

/-- `dp_maglev_populate_iteration` repeated while it asks for more, on a table
without an entry: the targets claim slots in turn.  The fuel bounds the number
of iterations. -/
def populateIterations (backEndIps : Nat → Ipv6) (backEndCnt fuel : Nat) : Option Filling :=
  Filling.fill maglevLookupSize (dpMaglevPermutation backEndIps)
    (List.range' 0 backEndCnt) fuel .empty

def fillFree (backEndCnt : Nat) (maglevHash : Nat → Option Nat) : Nat → Option Nat :=
  fun slot =>
    if slot < maglevLookupSize ∧ maglevHash slot = none then some (slot % backEndCnt)
    else maglevHash slot

/-- `dp_maglev_populate`, for which as many iterations as slots suffice. -/
def dpMaglevPopulate (backEndIps : Nat → Ipv6) (backEndCnt : Nat) : Nat → Option Nat :=
  match populateIterations backEndIps backEndCnt maglevLookupSize with
  | some filling => fillFree backEndCnt filling.owner
  | none => fun _ => none

/-- `dp_maglev_calc_hash_lookup_table`; without memory the table stays. -/
def dpMaglevCalcHashLookupTable (allocated : Bool) (lbval : LbBackends) : LbBackends × Bool :=
  if allocated then
    ({ lbval with
       maglevHash := dpMaglevPopulate lbval.backEndIps lbval.backEndCnt },
      true)
  else (lbval, false)

/-! ## Its rows are permutations -/

theorem maglevOffset_lt (ipv6 : Ipv6) : (maglevOffset ipv6).toNat < 503 := by
  rw [maglevOffset, UInt32.toNat_mod]
  exact Nat.mod_lt _ (by decide)

theorem maglevSkip_bounds (ipv6 : Ipv6) :
    0 < (maglevSkip ipv6).toNat ∧ (maglevSkip ipv6).toNat < 503 := by
  have residue : (dpDjbHash ipv6 % (503 - 1)).toNat < 502 := by
    rw [UInt32.toNat_mod]
    exact Nat.mod_lt _ (by decide)
  have value : (maglevSkip ipv6).toNat = (dpDjbHash ipv6 % (503 - 1)).toNat + 1 := by
    rw [maglevSkip, UInt32.toNat_add]
    exact Nat.mod_eq_of_lt (by simp only [UInt32.toNat_one]; omega)
  omega

theorem permutationRow_eq (ipv6 : Ipv6) {j : Nat} (inside : j < 503) : permutationRow ipv6 j =
      ((maglevOffset ipv6).toNat + j * (maglevSkip ipv6).toNat) % 503 := by
  have offset := maglevOffset_lt ipv6
  have skip := maglevSkip_bounds ipv6
  have product : j * (maglevSkip ipv6).toNat ≤ 502 * 502 := Nat.mul_le_mul (by omega) (by omega)
  have place : (UInt32.ofNat j).toNat = j :=
    UInt32.toNat_ofNat_of_lt' (by simp only [UInt32.size]; omega)
  have multiplied : (UInt32.ofNat j * maglevSkip ipv6).toNat = j * (maglevSkip ipv6).toNat := by
    rw [UInt32.toNat_mul, place]
    exact Nat.mod_eq_of_lt (by omega)
  have added : (maglevOffset ipv6 + UInt32.ofNat j * maglevSkip ipv6).toNat =
        (maglevOffset ipv6).toNat + j * (maglevSkip ipv6).toNat := by
    rw [UInt32.toNat_add, multiplied]
    exact Nat.mod_eq_of_lt (by omega)
  rw [permutationRow, UInt32.toNat_mod, added]
  rfl

theorem permutationRow_perm (ipv6 : Ipv6) :
    ((List.range maglevLookupSize).map (permutationRow ipv6)).Perm
      (List.range maglevLookupSize) := by
  have skip := maglevSkip_bounds ipv6
  have coprime : Nat.Coprime (maglevSkip ipv6).toNat 503 := by
    have prime : Nat.Prime 503 := by norm_num
    apply Nat.Coprime.symm
    rw [prime.coprime_iff_not_dvd]
    intro divides
    have atLeast := Nat.le_of_dvd skip.1 divides
    omega
  have rows : (List.range maglevLookupSize).map (permutationRow ipv6) =
        (List.range 503).map fun place =>
          ((maglevOffset ipv6).toNat + place * (maglevSkip ipv6).toNat) % 503 := by
    apply List.map_congr_left
    intro place listed
    exact permutationRow_eq ipv6 (List.mem_range.mp listed)
  rw [rows]
  exact progression_perm (by decide) coprime _

/-! ## It is filled evenly -/

def backEndSlots (maglevHash : Nat → Option Nat) (i : Nat) : Finset Nat :=
  (Finset.range maglevLookupSize).filter fun slot => maglevHash slot = some i

theorem fillFree_eq_self {maglevHash : Nat → Option Nat}
    (full : ∀ slot < maglevLookupSize, maglevHash slot ≠ none) (backEndCnt : Nat) :
    fillFree backEndCnt maglevHash = maglevHash := by
  funext slot
  apply if_neg
  rintro ⟨inside, free⟩
  exact full slot inside free

theorem dpMaglevPermutation_perm (backEndIps : Nat → Ipv6) (i : Nat) :
    ((List.range maglevLookupSize).map (dpMaglevPermutation backEndIps i)).Perm
      (List.range maglevLookupSize) :=
  permutationRow_perm (backEndIps i)

theorem populate_filled (backEndIps : Nat → Ipv6) {backEndCnt : Nat} (positive : 0 < backEndCnt) :
    ∃ filling : Filling, populateIterations backEndIps backEndCnt maglevLookupSize = some filling ∧
        dpMaglevPopulate backEndIps backEndCnt = filling.owner ∧
        (∀ slot < maglevLookupSize, ∃ i < backEndCnt, filling.owner slot = some i) ∧
        ∀ i < backEndCnt, ∀ j < backEndCnt, (backEndSlots filling.owner i).card ≤
            (backEndSlots filling.owner j).card + 1 := by
  have complete :
      Filling.Complete maglevLookupSize backEndCnt (dpMaglevPermutation backEndIps) :=
    Filling.complete_of_perm fun i _ => dpMaglevPermutation_perm backEndIps i
  obtain ⟨filling, rounds, last, filled, fair, -, full⟩ :=
    (Filling.fair_empty maglevLookupSize backEndCnt _).fill complete positive
      maglevLookupSize (by decide) (Nat.le_add_left _ _)
  obtain ⟨owned, balanced⟩ := fair.full full
  refine ⟨filling, filled, ?_, owned, balanced⟩
  rw [dpMaglevPopulate, populateIterations, filled]
  apply fillFree_eq_self
  intro slot inside free
  obtain ⟨i, -, owner⟩ := owned slot inside
  rw [free] at owner
  exact absurd owner (by simp)

/-- For any targets, more than none: each row is a permutation of the slots,
the iterations come to an end, which is the same for all sufficient fuel, with
a target in every slot; the last loop changes nothing, and two targets differ
by at most one slot. -/
theorem dpMaglevPopulate_balanced (backEndIps : Nat → Ipv6) {backEndCnt : Nat}
    (positive : 0 < backEndCnt) :
    (∀ i < backEndCnt,
      ((List.range maglevLookupSize).map
        (dpMaglevPermutation backEndIps i)).Perm (List.range maglevLookupSize)) ∧
    ∃ filling : Filling,
      (∀ fuel ≥ maglevLookupSize, populateIterations backEndIps backEndCnt fuel = some filling) ∧
      (∀ slot < maglevLookupSize, ∃ i < backEndCnt, filling.owner slot = some i) ∧
      dpMaglevPopulate backEndIps backEndCnt = filling.owner ∧
      ∀ i < backEndCnt, ∀ j < backEndCnt,
        (backEndSlots (dpMaglevPopulate backEndIps backEndCnt) i).card ≤
          (backEndSlots (dpMaglevPopulate backEndIps backEndCnt) j).card + 1 := by
  obtain ⟨filling, filled, populated, owned, balanced⟩ := populate_filled backEndIps positive
  rw [populated]
  exact
    ⟨fun i _ => dpMaglevPermutation_perm backEndIps i, filling,
      fun fuel enough => Filling.fill_mono enough filled, owned, rfl, balanced⟩

theorem dpMaglevPopulate_three : ∃ filling : Filling,
      dpMaglevPopulate (fun i => ⟨0xfd00000000000000, UInt64.ofNat i⟩) 3 = filling.owner ∧
        ∀ slot < maglevLookupSize, ∃ i < 3, filling.owner slot = some i := by
  obtain ⟨-, filling, -, owned, populated, -⟩ :=
    @dpMaglevPopulate_balanced (fun i => ⟨0xfd00000000000000, UInt64.ofNat i⟩) 3 (by decide)
  exact ⟨filling, populated, owned⟩

end DpService.Lb

import Mathlib.Data.UInt

/-!
# One's complement sums

The Internet checksum: the 16-bit words of a message, in network byte order,
are added with each carry brought back in, and the complement of the sum is
stored.  A sum is known by its residue modulo 65535, up to the two
representations of zero.
-/

namespace DpService.Foundations

def onesAdd (first second : Nat) : Nat :=
  if first + second < 65536 then first + second
  else first + second - 65535

def onesSum (words : List Nat) : Nat :=
  words.foldr onesAdd 0

/-- An odd last byte is padded with zero. -/
def beWords : List UInt8 → List Nat
  | [] => []
  | [last] => [256 * last.toNat]
  | high :: low :: rest => (256 * high.toNat + low.toNat) :: beWords rest

def onesChecksum (bytes : List UInt8) : Nat :=
  65535 - onesSum (beWords bytes)

/-- Together with its checksum a message sums up to zero, represented either
way. -/
def OnesValid (bytes : List UInt8) : Prop :=
  onesSum (beWords bytes) = 0 ∨ onesSum (beWords bytes) = 65535

theorem beWords_le (bytes : List UInt8) : ∀ word ∈ beWords bytes, word ≤ 65535 := by
  induction bytes using beWords.induct with
  | case1 => simp [beWords]
  | case2 last =>
    have bound := last.toNat_lt
    simp only [beWords, List.mem_singleton, forall_eq]
    omega
  | case3 high low rest ih =>
    have highBound := high.toNat_lt
    have lowBound := low.toNat_lt
    simp only [beWords, List.mem_cons, forall_eq_or_imp]
    exact ⟨by omega, ih⟩

theorem onesSum_spec {words : List Nat} (small : ∀ word ∈ words, word ≤ 65535) :
    onesSum words ≤ 65535 ∧ onesSum words % 65535 = words.sum % 65535 ∧
      (onesSum words = 0 ↔ words.sum = 0) := by
  induction words with
  | nil => simp [onesSum]
  | cons word words ih =>
    simp only [List.mem_cons, forall_eq_or_imp] at small
    have head := small.1
    obtain ⟨bound, residue, zero⟩ := ih small.2
    change onesAdd word (onesSum words) ≤ _ ∧ onesAdd word (onesSum words) % _ = _ ∧
      (onesAdd word (onesSum words) = 0 ↔ _)
    rw [onesAdd, List.sum_cons]
    split <;> refine ⟨?_, ?_, ?_⟩ <;> omega

theorem onesValid_iff (bytes : List UInt8) :
    OnesValid bytes ↔ (beWords bytes).sum % 65535 = 0 := by
  have spec := onesSum_spec (beWords_le bytes)
  unfold OnesValid
  omega

/-- A sum of words that were loaded in the other byte order is the sum with
its bytes exchanged. -/
theorem onesSum_eq_swapped {words : List Nat} {folded : Nat}
    (small : ∀ word ∈ words, word ≤ 65535) (bound : folded ≤ 65535)
    (residue : 256 * folded % 65535 = words.sum % 65535) (zero : folded = 0 ↔ words.sum = 0) :
    onesSum words = 256 * (folded % 256) + folded / 256 := by
  have spec := onesSum_spec small
  omega

end DpService.Foundations

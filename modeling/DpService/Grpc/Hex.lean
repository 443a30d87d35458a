import Mathlib.Data.Nat.Bits
import Mathlib.Data.UInt
import Mathlib.Tactic.IntervalCases

/-!
# The hexadecimal codec

`HexToBytes` and `BytesToHex` of the gRPC conversions, on the bytes of a
`std::string`.  Decoding accepts both cases of every digit; encoding a decoded
string gives its lower-case spelling back.
-/

namespace DpService.Grpc

abbrev StdString := List UInt8

def hexDigit (c : UInt8) : Option (Fin 16) :=
  if digit : 48 ≤ c.toNat ∧ c.toNat ≤ 57 then some ⟨c.toNat - 48, by omega⟩
  else if lower : 97 ≤ c.toNat ∧ c.toNat ≤ 102 then some ⟨c.toNat - 97 + 10, by omega⟩
  else if upper : 65 ≤ c.toNat ∧ c.toNat ≤ 70 then some ⟨c.toNat - 65 + 10, by omega⟩
  else none

def joinDigits (hi lo : Fin 16) : UInt8 :=
  ((hi.val <<< 4) ||| lo.val).toUInt8

def hexPairs : StdString → Option (List UInt8)
  | hi :: lo :: rest =>
    match hexDigit hi, hexDigit lo with
    | some high, some low => (hexPairs rest).map (joinDigits high low :: ·)
    | _, _ => none
  | _ => some []

/-- `HexToBytes`: the `len` bytes written to the destination, or `none` when
the string is refused. -/
def hexToBytes (str : StdString) (len : Nat) : Option (List UInt8) :=
  if str.length ≠ len * 2 then none else hexPairs str

def hexChars : Vector UInt8 16 :=
  #v[48, 49, 50, 51, 52, 53, 54, 55, 56, 57, 97, 98, 99, 100, 101, 102]

def bytesToHex (src : List UInt8) : StdString :=
  src.flatMap fun byte =>
    [hexChars.getD (byte.toNat >>> 4) 0, hexChars.getD (byte.toNat &&& 0x0f) 0]

def asciiToLower (c : UInt8) : UInt8 :=
  if 65 ≤ c.toNat ∧ c.toNat ≤ 90 then c + 32 else c

def IsHexChar (c : UInt8) : Prop :=
  (48 ≤ c.toNat ∧ c.toNat ≤ 57) ∨ (97 ≤ c.toNat ∧ c.toNat ≤ 102) ∨ (65 ≤ c.toNat ∧ c.toNat ≤ 70)

instance (c : UInt8) : Decidable (IsHexChar c) :=
  inferInstanceAs (Decidable (_ ∨ _))

/-- A hexadecimal spelling of exactly `len` bytes. -/
def IsHexOf (str : StdString) (len : Nat) : Prop :=
  str.length = len * 2 ∧ ∀ c ∈ str, IsHexChar c

theorem hexDigit_isSome_iff (c : UInt8) : (hexDigit c).isSome ↔ IsHexChar c := by
  unfold hexDigit IsHexChar
  split
  next digit => simp [digit]
  next notDigit =>
    split
    next lower => simp [lower]
    next notLower =>
      split
      next upper => simp [upper]
      next notUpper => simp [notDigit, notLower, notUpper]

theorem hexChars_hexDigit {c : UInt8} {value : Fin 16} (digit : hexDigit c = some value) :
    hexChars.getD value.val 0 = asciiToLower c := by
  have isHex : IsHexChar c := by
    rw [← hexDigit_isSome_iff, digit]
    rfl
  obtain ⟨code, small, rfl⟩ : ∃ code, code < 256 ∧ c = UInt8.ofNat code :=
    ⟨c.toNat, c.toNat_lt, (UInt8.ofNat_toNat).symm⟩
  have sameCode : (UInt8.ofNat code).toNat = code := by
    simpa using small
  rw [IsHexChar, sameCode] at isHex
  rcases isHex with ⟨lower, upper⟩ | ⟨lower, upper⟩ | ⟨lower, upper⟩ <;>
    interval_cases code <;> cases digit <;> rfl

theorem joinDigits_hi (hi lo : Fin 16) : (joinDigits hi lo).toNat >>> 4 = hi.val := by
  revert hi lo
  decide

theorem joinDigits_lo (hi lo : Fin 16) : (joinDigits hi lo).toNat &&& 0x0f = lo.val := by
  revert hi lo
  decide

/-! ## Strings -/

theorem hexPairs_length : ∀ {str : StdString} {bytes : List UInt8} (len : Nat),
      str.length = len * 2 → hexPairs str = some bytes → bytes.length = len
  | [], bytes, len, even, decoded => by
    simp only [hexPairs, Option.some_inj] at decoded
    subst decoded
    simp at even ⊢
    omega
  | [_], _, len, even, _ => by
    simp only [List.length_singleton] at even
    omega
  | hi :: lo :: rest, bytes, len, even, decoded => by
    simp only [List.length_cons] at even
    simp only [hexPairs] at decoded
    split at decoded
    next high low highDigit lowDigit =>
      obtain ⟨tail, tailDecoded, rfl⟩ := Option.map_eq_some_iff.mp decoded
      have tailLength : tail.length = len - 1 := hexPairs_length (len - 1) (by omega) tailDecoded
      simp only [List.length_cons, tailLength]
      omega
    next => cases decoded

theorem bytesToHex_hexPairs : ∀ {str : StdString} {bytes : List UInt8} (len : Nat),
      str.length = len * 2 → hexPairs str = some bytes → bytesToHex bytes = str.map asciiToLower
  | [], bytes, _, _, decoded => by
    simp only [hexPairs, Option.some_inj] at decoded
    subst decoded
    rfl
  | [_], _, len, even, _ => by
    simp only [List.length_singleton] at even
    omega
  | hi :: lo :: rest, bytes, len, even, decoded => by
    simp only [List.length_cons] at even
    simp only [hexPairs] at decoded
    split at decoded
    next high low highDigit lowDigit =>
      obtain ⟨tail, tailDecoded, rfl⟩ := Option.map_eq_some_iff.mp decoded
      have tailEncoded : bytesToHex tail = rest.map asciiToLower :=
        bytesToHex_hexPairs (len - 1) (by omega) tailDecoded
      have headEncoded : bytesToHex (joinDigits high low :: tail) =
            hexChars.getD high.val 0 :: hexChars.getD low.val 0 :: bytesToHex tail := by
        simp only [bytesToHex, List.flatMap_cons, joinDigits_hi,
          joinDigits_lo, List.cons_append, List.nil_append]
      rw [headEncoded, tailEncoded, hexChars_hexDigit highDigit, hexChars_hexDigit lowDigit]
      rfl
    next => cases decoded

theorem hexPairs_isSome_iff : ∀ {str : StdString} (len : Nat), str.length = len * 2 →
      ((hexPairs str).isSome ↔ ∀ c ∈ str, IsHexChar c)
  | [], _, _ => by simp [hexPairs]
  | [_], len, even => by
    simp only [List.length_singleton] at even
    omega
  | hi :: lo :: rest, len, even => by
    simp only [List.length_cons] at even
    have tailIff := hexPairs_isSome_iff (len - 1) (show rest.length = (len - 1) * 2 by omega)
    have highIff := hexDigit_isSome_iff hi
    have lowIff := hexDigit_isSome_iff lo
    simp only [hexPairs, List.forall_mem_cons, ← highIff, ← lowIff, ← tailIff]
    cases hexDigit hi <;> cases hexDigit lo <;> simp

theorem hexToBytes_isSome_iff (str : StdString) (len : Nat) :
    (hexToBytes str len).isSome ↔ IsHexOf str len := by
  unfold hexToBytes IsHexOf
  by_cases even : str.length = len * 2
  · simp only [even, ne_eq, not_true_eq_false, if_false, true_and]
    exact hexPairs_isSome_iff len even
  · simp [even]

theorem hexToBytes_length {str : StdString} {len : Nat} {bytes : List UInt8}
    (decoded : hexToBytes str len = some bytes) :
    bytes.length = len := by
  unfold hexToBytes at decoded
  split at decoded
  · cases decoded
  next even => exact hexPairs_length len (not_not.mp even) decoded

theorem bytesToHex_hexToBytes {str : StdString} {len : Nat} {bytes : List UInt8}
    (decoded : hexToBytes str len = some bytes) :
    bytesToHex bytes = str.map asciiToLower := by
  unfold hexToBytes at decoded
  split at decoded
  · cases decoded
  next even => exact bytesToHex_hexPairs len (not_not.mp even) decoded

end DpService.Grpc

import Mathlib.Data.Nat.Log
import ApiContract.Decimal.Binary64
/-!
# Integers as doubles

An integer of 64 bits is rounded to a finite double: its exponent is below 64, far from the exponent
of the infinities.

* `Binary64.binaryExponent_one` : the exponent of an integer is the place of its first bit.
* `Binary64.isFinite_ofInt` : integers of 64 bits have finite doubles.
-/

namespace ApiContract
namespace Binary64

theorem isFinite_ofParts (negative : Bool) {n : Nat} (h : n < infinityBits) :
    (ofParts negative n).isFinite = true := by
  have hinfinity : infinityBits < 2 ^ 63 := by decide
  have hbits : (ofParts negative n).unsigned = n := by
    simp only [ofParts, unsigned, UInt64.toNat_ofNat', Nat.pow_eq]
    cases negative with
    | false => simp only [Bool.false_eq_true, if_false]; omega
    | true => simp only [if_true]; omega
  rw [isFinite, hbits]
  exact decide_eq_true h

theorem roundDiv_le (num den : Nat) : roundDiv num den ≤ num / den + 1 := by
  unfold roundDiv
  dsimp only
  split
  · omega
  · split
    · omega
    · split <;> omega

theorem binaryExponent_one {num : Nat} (h : num ≠ 0) : binaryExponent num 1 = Nat.log2 num := by
  have hreached : 2 ^ Nat.log2 num ≤ num := Nat.log2_self_le h
  have hguess : (Nat.log2 num : Int) - (Nat.log2 1 : Int) = Nat.log2 num := by
    rw [show Nat.log2 1 = 0 by decide]
    omega
  have hnonneg : ¬(Nat.log2 num : Int) < 0 := by omega
  simp only [binaryExponent, hguess, if_neg hnonneg, Int.toNat_natCast, Nat.pow_eq, Nat.one_mul,
    if_pos hreached]

/-- The significand of a natural number takes at most 53 bits, and one more by rounding. -/
theorem significand_le {num l : Nat} (h : num < Nat.pow 2 (l + 1)) :
    (if (l : Int) - 52 < 0 then roundDiv (num * Nat.pow 2 (-((l : Int) - 52)).toNat) 1
      else roundDiv num (1 * Nat.pow 2 ((l : Int) - 52).toNat)) ≤ Nat.pow 2 53 := by
  simp only [Nat.pow_eq, Nat.one_mul] at h ⊢
  split
  · next hl =>
    have hround := roundDiv_le (num * 2 ^ (-((l : Int) - 52)).toNat) 1
    have hscaled : num * 2 ^ (-((l : Int) - 52)).toNat < 2 ^ 53 := by
      calc num * 2 ^ (-((l : Int) - 52)).toNat
          < 2 ^ (l + 1) * 2 ^ (-((l : Int) - 52)).toNat :=
            Nat.mul_lt_mul_of_pos_right h (Nat.two_pow_pos _)
        _ = 2 ^ 53 := by rw [← Nat.pow_add]; congr 1; omega
    omega
  · next hl =>
    have hround := roundDiv_le num (2 ^ ((l : Int) - 52).toNat)
    have hquotient : num / 2 ^ ((l : Int) - 52).toNat < 2 ^ 53 := by
      rw [Nat.div_lt_iff_lt_mul (Nat.two_pow_pos _)]
      calc num < 2 ^ (l + 1) := h
        _ = 2 ^ 53 * 2 ^ ((l : Int) - 52).toNat := by rw [← Nat.pow_add]; congr 1; omega
    omega

theorem isFinite_ofRatio_one (negative : Bool) {num : Nat} (h : num < Nat.pow 2 64) :
    (ofRatio negative num 1).isFinite = true := by
  unfold ofRatio
  by_cases hzero : num = 0
  · rw [if_pos hzero]
    exact isFinite_ofParts negative (by decide)
  · have hlog : Nat.log2 num < 64 := (Nat.log2_lt hzero).2 h
    have hunit : max ((Nat.log2 num : Int) - 52) (-1074) = (Nat.log2 num : Int) - 52 := by omega
    have hsignificand := significand_le (Nat.lt_log2_self (n := num))
    rw [if_neg hzero, binaryExponent_one hzero, hunit]
    refine isFinite_ofParts negative (Nat.lt_of_le_of_lt (Nat.min_le_left _ _) ?_)
    have hexponent : ((Nat.log2 num : Int) - 52 + 1074).toNat ≤ 1085 := by omega
    calc ((Nat.log2 num : Int) - 52 + 1074).toNat * Nat.pow 2 52 + _
        ≤ 1085 * 2 ^ 52 + 2 ^ 53 := by
          rw [Nat.pow_eq]
          exact Nat.add_le_add (Nat.mul_le_mul_right _ hexponent) hsignificand
      _ < infinityBits := by decide

/-- Integers of 64 bits, signed or not, are finite as doubles. -/
theorem isFinite_ofInt {n : Int} (h : n.natAbs < Nat.pow 2 64) : (ofInt n).isFinite = true :=
  isFinite_ofRatio_one _ h

end Binary64
end ApiContract

import Dashboard.Number.Binary
import Mathlib.Algebra.Ring.Parity
import Mathlib.Data.Nat.Notation
import Mathlib.Tactic.Ring

/-!
# Integers that have a double

The doubles end below `2 ^ 1024`, and the largest is `2 ^ 1024 - 2 ^ 971`. An integer has a nearest
double unless it lies half a unit of the last place, which is `2 ^ 970`, or more above that one.

* `Binary.le_roundHalfEven_iff`: an even integer is reached by rounding exactly from half a unit
  below it on, ties included.
* `Binary.nearestBits_one` gives the bits of the double nearest to a natural number by the power of
  two at or below it, `Binary.mantissa_bounds` the range of the mantissa before it is carried over.
* `Binary.nearestInt?_eq_none`: an integer has no double exactly if it is too large in this sense.
-/

namespace Dashboard
namespace Binary

/-! ### Rounding -/

theorem div_le_roundHalfEven (num den : ℕ) : num / den ≤ roundHalfEven num den := by
  unfold roundHalfEven
  dsimp only
  split
  · exact le_rfl
  · split
    · exact Nat.le_succ _
    · exact Nat.le_add_right _ _

theorem roundHalfEven_le (num den : ℕ) : roundHalfEven num den ≤ num / den + 1 := by
  unfold roundHalfEven
  dsimp only
  split
  · exact Nat.le_succ _
  · split
    · exact le_rfl
    · have := Nat.mod_lt (num / den) two_pos
      omega

/-- Rounding reaches an even integer from half a unit below it on: at the half itself the even
neighbour is taken. -/
theorem le_roundHalfEven_iff {num den k : ℕ} (hk : Even k) (hden : 0 < den) :
    k ≤ roundHalfEven num den ↔ 2 * k * den ≤ 2 * num + den := by
  have hnum : den * (num / den) + num % den = num := Nat.div_add_mod num den
  have hrest : num % den < den := Nat.mod_lt num hden
  rcases Nat.lt_trichotomy k (num / den + 1) with hlt | rfl | hgt
  · -- the quotient reaches `k` already
    have hle : k ≤ num / den := Nat.le_of_lt_succ hlt
    have hmul : den * k ≤ den * (num / den) := Nat.mul_le_mul_left den hle
    refine iff_of_true (hle.trans (div_le_roundHalfEven num den)) ?_
    rw [mul_assoc, mul_comm k]
    omega
  · -- here the remainder decides, and the quotient is odd
    have hodd : num / den % 2 = 1 := by
      obtain ⟨j, hj⟩ := hk
      omega
    have hmul : 2 * (num / den + 1) * den = 2 * (den * (num / den)) + 2 * den := by ring
    rw [hmul]
    unfold roundHalfEven
    dsimp only
    split
    · omega
    · split
      · omega
      · omega
  · have hmul : den * (num / den + 2) ≤ den * k := Nat.mul_le_mul_left den hgt
    have hround := roundHalfEven_le num den
    refine iff_of_false (by omega) ?_
    rw [mul_add] at hmul
    rw [mul_assoc, mul_comm k]
    omega

/-! ### Natural numbers -/

variable {n : ℕ}

theorem floorLog_one (h : n ≠ 0) : floorLog n 1 = n.log2 := by
  have hpow : 2 ^ n.log2 ≤ n := Nat.log2_self_le h
  have hone : Nat.log2 1 = 0 := by decide
  simp [floorLog, hone, hpow]

/-- The mantissa of the double nearest to a natural number, before a carry. -/
def mantissa (n : ℕ) : ℕ := roundHalfEven (n * 2 ^ (52 - n.log2)) (2 ^ (n.log2 - 52))

theorem nearestBits_one (h : n ≠ 0) :
    nearestBits n 1 = min ((n.log2 + 1022) * 2 ^ 52 + mantissa n) overflowBits := by
  -- the unit of the last place is no fraction below `2 ^ -52`
  have hunit : max ((n.log2 : ℤ) - 52) (-1074) = n.log2 - 52 := by omega
  have hdown : (-((n.log2 : ℤ) - 52)).toNat = 52 - n.log2 := by omega
  have hup : ((n.log2 : ℤ) - 52).toNat = n.log2 - 52 := by omega
  have hexponent : ((n.log2 : ℤ) - 52 + 1074).toNat = n.log2 + 1022 := by omega
  unfold nearestBits mantissa
  rw [if_neg h, floorLog_one h]
  simp only [hunit, hdown, hup, hexponent, Nat.pow_eq, one_mul]

/-- The mantissa has 53 bits, unless it was rounded up to the next power of two. -/
theorem mantissa_bounds (h : n ≠ 0) : 2 ^ 52 ≤ mantissa n ∧ mantissa n ≤ 2 ^ 53 := by
  have hlow : 2 ^ n.log2 ≤ n := Nat.log2_self_le h
  have hhigh : n < 2 ^ (n.log2 + 1) := Nat.lt_log2_self
  have hden : 0 < 2 ^ (n.log2 - 52) := Nat.two_pow_pos _
  have hbounds : 2 ^ 52 ≤ n * 2 ^ (52 - n.log2) / 2 ^ (n.log2 - 52) ∧
      n * 2 ^ (52 - n.log2) / 2 ^ (n.log2 - 52) < 2 ^ 53 := by
    rw [Nat.le_div_iff_mul_le hden, Nat.div_lt_iff_lt_mul hden]
    constructor
    · calc 2 ^ 52 * 2 ^ (n.log2 - 52) = 2 ^ n.log2 * 2 ^ (52 - n.log2) := by
            rw [← pow_add, ← pow_add]
            congr 1
            omega
        _ ≤ n * 2 ^ (52 - n.log2) := Nat.mul_le_mul_right _ hlow
    · calc n * 2 ^ (52 - n.log2) < 2 ^ (n.log2 + 1) * 2 ^ (52 - n.log2) :=
            Nat.mul_lt_mul_of_pos_right hhigh (Nat.two_pow_pos _)
        _ = 2 ^ 53 * 2 ^ (n.log2 - 52) := by
            rw [← pow_add, ← pow_add]
            congr 1
            omega
  have hround := roundHalfEven_le (n * 2 ^ (52 - n.log2)) (2 ^ (n.log2 - 52))
  exact ⟨hbounds.1.trans (div_le_roundHalfEven _ _), hround.trans hbounds.2⟩

/-- The least number that is too large for a double. -/
def leastTooLarge : ℕ := 2 ^ 1024 - 2 ^ 970

theorem leastTooLarge_eq : leastTooLarge = (2 ^ 54 - 1) * 2 ^ 970 := by
  have htop : 1024 = 54 + 970 := rfl
  rw [leastTooLarge, htop, pow_add, Nat.sub_mul, one_mul]

/-- The bits of the nearest double are those of the infinity exactly if the number lies half a unit
of the last place or more above the largest double. -/
theorem overflowBits_le_iff (h : n ≠ 0) :
    overflowBits ≤ (n.log2 + 1022) * 2 ^ 52 + mantissa n ↔ leastTooLarge ≤ n := by
  obtain ⟨hlow, hhigh⟩ := mantissa_bounds h
  have hbits : overflowBits = 2047 * 2 ^ 52 := rfl
  rw [hbits, leastTooLarge_eq]
  rcases Nat.lt_trichotomy n.log2 (53 + 970) with hlt | heq | hgt
  · have hn : n < 2 ^ 53 * 2 ^ 970 := by rwa [← pow_add, ← Nat.log2_lt h]
    generalize 2 ^ 970 = half at hn ⊢
    omega
  · -- below the last power of two the mantissa decides, and `2 ^ 970` is half its unit
    have hmantissa : mantissa n = roundHalfEven n (2 * 2 ^ 970) := by
      have hunit : n.log2 - 52 = 1 + 970 := by omega
      have hscale : 52 - n.log2 = 0 := by omega
      rw [mantissa, hunit, hscale, pow_zero, mul_one, pow_add, pow_one]
    have hround : 2 ^ 53 ≤ mantissa n ↔ 2 * 2 ^ 53 * (2 * 2 ^ 970) ≤ 2 * n + 2 * 2 ^ 970 := by
      rw [hmantissa]
      exact le_roundHalfEven_iff ⟨2 ^ 52, rfl⟩ (Nat.mul_pos two_pos (pow_pos two_pos 970))
    generalize 2 ^ 970 = half at hround ⊢
    omega
  · have hn : 2 ^ 54 * 2 ^ 970 ≤ n := by rwa [← pow_add, ← Nat.le_log2 h]
    generalize 2 ^ 970 = half at hn ⊢
    omega

/-- An integer has no double exactly if it is too large. -/
theorem nearestInt?_eq_none {n : ℤ} : nearestInt? n = none ↔ leastTooLarge ≤ n.natAbs := by
  have hnone : nearestInt? n = none ↔ nearestBits n.natAbs 1 = overflowBits := by
    simp [nearestInt?]
  rw [hnone]
  rcases eq_or_ne n.natAbs 0 with hzero | hne
  · have hpos : 0 < leastTooLarge := by
      rw [leastTooLarge_eq]
      exact Nat.mul_pos (by decide) (pow_pos two_pos 970)
    rw [hzero]
    exact iff_of_false (by decide) (Nat.not_le.2 hpos)
  · rw [nearestBits_one hne, min_eq_right_iff, overflowBits_le_iff hne]

end Binary
end Dashboard

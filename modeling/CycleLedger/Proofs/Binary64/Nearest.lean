import Mathlib.Algebra.Group.Nat.Defs
import Mathlib.Tactic.SplitIfs
import CycleLedger.Binary64

/-! # Nearest doubles

The magnitude nearest to a quotient depends on the quotient alone. A quotient that is a double gives
that double, one that is large gives infinity or more, and one that is tiny gives zero.
-/

namespace CycleLedger

theorem roundQuotient_mul (tie : Tie) {k : Nat} (hk : 0 < k) (num den : Nat) :
    roundQuotient tie (k * num) (k * den) = roundQuotient tie num den := by
  have remainder : 2 * (k * (num % den)) = k * (2 * (num % den)) := by
    rw [← Nat.mul_assoc, ← Nat.mul_assoc, Nat.mul_comm 2 k]
  simp only [roundQuotient, Nat.mul_div_mul_left _ _ hk, Nat.mul_mod_mul_left, remainder,
    Nat.mul_lt_mul_left hk]

/-- A quotient is rounded to one of its two neighbours. -/
theorem roundQuotient_cases (tie : Tie) (num den : Nat) :
    roundQuotient tie num den = num / den ∨ roundQuotient tie num den = num / den + 1 := by
  simp only [roundQuotient]
  split_ifs
  · exact .inl rfl
  · exact .inr rfl
  · generalize num / den = whole
    cases tie
    · simp only
      omega
    · exact .inr rfl

/-- A quotient without remainder is rounded to itself. -/
theorem roundQuotient_exact (tie : Tie) (n : Nat) {den : Nat} (hden : 0 < den) :
    roundQuotient tie (n * den) den = n := by
  simp [roundQuotient, hden]

theorem roundQuotient_eq_zero {tie : Tie} {num den : Nat} (h : 2 * num < den) :
    roundQuotient tie num den = 0 := by
  have small : num < den := by omega
  simp [roundQuotient, Nat.div_eq_of_lt small, Nat.mod_eq_of_lt small, h]

namespace Binary64

theorem infiniteMagnitude_eq : infiniteMagnitude = 2047 * 2 ^ 52 := by
  rw [infiniteMagnitude, Nat.shiftLeft_eq]

theorem tenTo_eq (n : Nat) : tenTo n = 10 ^ n := rfl

theorem tenTo_pos (n : Nat) : 0 < tenTo n := Nat.pow_pos (by decide)

/-- One is 2^1074 steps; a power so large is never to be evaluated. -/
@[irreducible] def depth : Nat := 1074

theorem depth_eq : depth = 1074 := by rw [depth]

/-- The bits below the leading 53 of a quotient in steps. -/
def scaleOf (num den : Nat) : Nat := (num * 2 ^ depth / den).log2 - 52

theorem nearestMagnitude_eq (num den : Nat) :
    nearestMagnitude num den = scaleOf num den * 2 ^ 52 +
      roundQuotient .toEven (num * 2 ^ depth) (den * 2 ^ scaleOf num den) := by
  simp only [nearestMagnitude, scaleOf, depth_eq, Nat.shiftLeft_eq]

theorem nearestMagnitude_mul {k : Nat} (hk : 0 < k) (num den : Nat) :
    nearestMagnitude (k * num) (k * den) = nearestMagnitude num den := by
  have scale : scaleOf (k * num) (k * den) = scaleOf num den := by
    rw [scaleOf, scaleOf, Nat.mul_assoc, Nat.mul_div_mul_left _ _ hk]
  rw [nearestMagnitude_eq, nearestMagnitude_eq, scale, Nat.mul_assoc, Nat.mul_assoc,
    roundQuotient_mul _ hk]

/-- Equal quotients have the same nearest magnitude. -/
theorem nearestMagnitude_congr {num den num' den' : Nat} (hden : 0 < den) (hden' : 0 < den')
    (h : num * den' = num' * den) : nearestMagnitude num den = nearestMagnitude num' den' := by
  calc nearestMagnitude num den
      = nearestMagnitude (den' * num) (den' * den) := (nearestMagnitude_mul hden' _ _).symm
    _ = nearestMagnitude (den * num') (den * den') := by
      rw [Nat.mul_comm den' num, h, Nat.mul_comm num' den, Nat.mul_comm den' den]
    _ = nearestMagnitude num' den' := nearestMagnitude_mul hden _ _

theorem nearestMagnitude_eq_zero {num den : Nat} (h : num * 2 ^ (depth + 1) < den) :
    nearestMagnitude num den = 0 := by
  have half : 2 * (num * 2 ^ depth) < den := by
    rw [Nat.pow_succ, ← Nat.mul_assoc] at h
    omega
  have scale : scaleOf num den = 0 := by
    rw [scaleOf, Nat.div_eq_of_lt (by omega)]
    rfl
  rw [nearestMagnitude_eq, scale, roundQuotient_eq_zero (by simpa using half), Nat.zero_mul]

/-- A quotient below `2 ^ k` is nearest to a magnitude up to that of `2 ^ k`. -/
theorem nearestMagnitude_le {num den k : Nat} (h : num < den * 2 ^ k) :
    nearestMagnitude num den ≤ (k + 1023) * 2 ^ 52 := by
  have hden : 0 < den := by
    rcases Nat.eq_zero_or_pos den with rfl | hden
    · simp at h
    · exact hden
  have hdepth := depth_eq
  have hsize : num * 2 ^ depth / den < 2 ^ (k + depth) := by
    rw [Nat.div_lt_iff_lt_mul hden, Nat.mul_comm _ den, Nat.pow_add, ← Nat.mul_assoc]
    exact Nat.mul_lt_mul_of_pos_right h (Nat.two_pow_pos depth)
  rw [nearestMagnitude_eq]
  have hround := roundQuotient_cases .toEven (num * 2 ^ depth) (den * 2 ^ scaleOf num den)
  rw [← Nat.div_div_eq_div_mul] at hround
  have scale : scaleOf num den = (num * 2 ^ depth / den).log2 - 52 := rfl
  by_cases hz : num * 2 ^ depth / den = 0
  · rw [hz, Nat.zero_div] at hround
    rw [hz, Nat.log2_zero] at scale
    omega
  · have hlog := (Nat.log2_lt hz).mpr hsize
    have leading : num * 2 ^ depth / den / 2 ^ scaleOf num den < 2 ^ 53 := by
      rw [Nat.div_lt_iff_lt_mul (Nat.two_pow_pos _), ← Nat.pow_add]
      exact Nat.lt_of_lt_of_le Nat.lt_log2_self (Nat.pow_le_pow_right (by decide) (by omega))
    omega

/-- A quotient from `2 ^ k` on is nearest to a magnitude from that of `2 ^ k` on. -/
theorem le_nearestMagnitude {num den k : Nat} (hden : 0 < den) (h : den * 2 ^ k ≤ num) :
    (k + 1023) * 2 ^ 52 ≤ nearestMagnitude num den := by
  have hdepth := depth_eq
  have hsize : 2 ^ (k + depth) ≤ num * 2 ^ depth / den := by
    rw [Nat.le_div_iff_mul_le hden, Nat.mul_comm _ den, Nat.pow_add, ← Nat.mul_assoc]
    exact Nat.mul_le_mul_right _ h
  have hz : num * 2 ^ depth / den ≠ 0 := by
    have := Nat.two_pow_pos (k + depth)
    omega
  have hlog := (Nat.le_log2 hz).mpr hsize
  have scale : k + 1022 ≤ scaleOf num den := by
    rw [scaleOf]
    omega
  have leading : 2 ^ 52 ≤ num * 2 ^ depth / den / 2 ^ scaleOf num den := by
    rw [Nat.le_div_iff_mul_le (Nat.two_pow_pos _), ← Nat.pow_add]
    exact Nat.le_trans (Nat.pow_le_pow_right (by decide) (by rw [scaleOf]; omega))
      (Nat.log2_self_le hz)
  have rounded : num * 2 ^ depth / den / 2 ^ scaleOf num den ≤
      roundQuotient .toEven (num * 2 ^ depth) (den * 2 ^ scaleOf num den) := by
    rw [Nat.div_div_eq_div_mul]
    have := roundQuotient_cases .toEven (num * 2 ^ depth) (den * 2 ^ scaleOf num den)
    omega
  calc (k + 1023) * 2 ^ 52
      = (k + 1022) * 2 ^ 52 + 2 ^ 52 := Nat.succ_mul _ _
    _ ≤ scaleOf num den * 2 ^ 52 +
        roundQuotient .toEven (num * 2 ^ depth) (den * 2 ^ scaleOf num den) :=
      Nat.add_le_add (Nat.mul_le_mul_right _ scale) (Nat.le_trans leading rounded)
    _ = nearestMagnitude num den := (nearestMagnitude_eq num den).symm

/-- A quotient below 2^1023 is nearest to a finite magnitude. -/
theorem nearestMagnitude_lt {num den k : Nat} (hk : k ≤ 1023) (h : num < den * 2 ^ k) :
    nearestMagnitude num den < infiniteMagnitude := by
  have top : (k + 1023) * 2 ^ 52 < infiniteMagnitude := by
    have := infiniteMagnitude_eq
    omega
  exact Nat.lt_of_le_of_lt (nearestMagnitude_le h) top

/-- A quotient from 2^1024 on is beyond the finite magnitudes. -/
theorem infiniteMagnitude_le {num den k : Nat} (hden : 0 < den) (hk : 1024 ≤ k)
    (h : den * 2 ^ k ≤ num) : infiniteMagnitude ≤ nearestMagnitude num den :=
  calc infiniteMagnitude
      = 2047 * 2 ^ 52 := infiniteMagnitude_eq
    _ ≤ (k + 1023) * 2 ^ 52 := by omega
    _ ≤ nearestMagnitude num den := le_nearestMagnitude hden h

theorem stepsOf_eq (m : Nat) : stepsOf m =
    if m / 2 ^ 52 = 0 then m % 2 ^ 52 else (2 ^ 52 + m % 2 ^ 52) * 2 ^ (m / 2 ^ 52 - 1) := by
  simp only [stepsOf, Nat.shiftRight_eq_div_pow, Nat.shiftLeft_eq, Nat.one_mul]

theorem log2_two_pow_mul {k : Nat} {a : Nat} (ha : a < 2 ^ k) (e : Nat) :
    ((2 ^ k + a) * 2 ^ e).log2 = k + e := by
  have hne : (2 ^ k + a) * 2 ^ e ≠ 0 := by
    have := Nat.mul_pos (Nat.add_pos_left (Nat.two_pow_pos k) a) (Nat.two_pow_pos e)
    omega
  rw [Nat.log2_eq_iff hne]
  constructor
  · rw [Nat.pow_add]
    exact Nat.mul_le_mul_right _ (Nat.le_add_right _ _)
  · rw [show k + e + 1 = (k + 1) + e by omega, Nat.pow_add _ (k + 1)]
    exact Nat.mul_lt_mul_of_pos_right (by rw [Nat.pow_succ]; omega) (Nat.two_pow_pos e)

/-- A magnitude is nearest to its own number of steps. -/
theorem nearestMagnitude_stepsOf (m : Nat) : nearestMagnitude (stepsOf m) (2 ^ depth) = m := by
  have hpos := Nat.two_pow_pos depth
  have hfraction := Nat.mod_lt m (Nat.two_pow_pos 52)
  have hparts := Nat.div_add_mod m (2 ^ 52)
  have scale : scaleOf (stepsOf m) (2 ^ depth) = (stepsOf m).log2 - 52 := by
    rw [scaleOf, Nat.mul_div_cancel _ hpos]
  rw [nearestMagnitude_eq, scale, stepsOf_eq]
  split_ifs with he
  · have small : (m % 2 ^ 52).log2 - 52 = 0 := by
      by_cases hz : m % 2 ^ 52 = 0
      · rw [hz]
        rfl
      · have := (Nat.log2_lt hz).mpr hfraction
        omega
    rw [he, Nat.mul_zero, Nat.zero_add] at hparts
    rw [small, Nat.pow_zero, Nat.mul_one, roundQuotient_exact _ _ hpos, hparts, Nat.zero_mul,
      Nat.zero_add]
  · rw [log2_two_pow_mul hfraction, Nat.add_sub_cancel_left, Nat.mul_assoc,
      Nat.mul_comm (2 ^ (m / 2 ^ 52 - 1)),
      roundQuotient_exact _ _ (Nat.mul_pos hpos (Nat.two_pow_pos _))]
    omega

end Binary64

end CycleLedger

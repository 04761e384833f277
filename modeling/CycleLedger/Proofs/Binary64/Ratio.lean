import CycleLedger.Metric
import CycleLedger.Proofs.Binary64.Nearest

/-! # Ratios of counts

A count that is not zero becomes a double from one on, and a count below 2^64 one that is not much
larger, so the quotient of two counts is always a finite double.
-/

namespace CycleLedger

namespace Binary64

theorem stepsOf_lt (m : Nat) : stepsOf m < 2 ^ (m / 2 ^ 52 + 52) := by
  have fraction := Nat.mod_lt m (Nat.two_pow_pos 52)
  rw [stepsOf_eq]
  split_ifs with he
  · rw [he]
    exact fraction
  · obtain ⟨e, hexponent⟩ : ∃ e, m / 2 ^ 52 = e + 1 := ⟨m / 2 ^ 52 - 1, by omega⟩
    rw [hexponent, Nat.add_sub_cancel, show e + 1 + 52 = 53 + e by omega, Nat.pow_add]
    exact Nat.mul_lt_mul_of_pos_right (by omega) (Nat.two_pow_pos e)

/-- A magnitude from that of a power of two on has at least the steps of the power. -/
theorem le_stepsOf {m e d : Nat} (h : (e + 1) * 2 ^ 52 ≤ m) (hd : d ≤ e + 52) :
    2 ^ d ≤ stepsOf m := by
  have hexponent : e + 1 ≤ m / 2 ^ 52 := (Nat.le_div_iff_mul_le (Nat.two_pow_pos 52)).mpr h
  rw [stepsOf_eq, if_neg (by omega)]
  calc 2 ^ d
      ≤ 2 ^ (52 + (m / 2 ^ 52 - 1)) := Nat.pow_le_pow_right (by decide) (by omega)
    _ = 2 ^ 52 * 2 ^ (m / 2 ^ 52 - 1) := Nat.pow_add ..
    _ ≤ (2 ^ 52 + m % 2 ^ 52) * 2 ^ (m / 2 ^ 52 - 1) :=
      Nat.mul_le_mul_right _ (Nat.le_add_right _ _)

theorem magnitude_ofMagnitude {m : Nat} (h : m < infiniteMagnitude) :
    (ofMagnitude false m).magnitude = m := by
  have bound := infiniteMagnitude_eq
  simp only [magnitude, ofMagnitude, Bool.false_eq_true, if_false, UInt64.toNat_ofNat',
    Nat.shiftLeft_eq]
  omega

section

variable (n : UInt64)

theorem nearest_count_le : nearestMagnitude n.toNat 1 ≤ (64 + 1023) * 2 ^ 52 :=
  nearestMagnitude_le (by simpa using n.toNat_lt)

theorem magnitude_ofNat_count : (ofNat n.toNat).magnitude = nearestMagnitude n.toNat 1 := by
  refine magnitude_ofMagnitude ?_
  have := nearest_count_le n
  have := infiniteMagnitude_eq
  omega

theorem steps_count_lt : (ofNat n.toNat).steps < 2 ^ (depth + 65) := by
  have exponent : nearestMagnitude n.toNat 1 / 2 ^ 52 ≤ 1087 := by
    have := nearest_count_le n
    omega
  have hdepth := depth_eq
  rw [steps, magnitude_ofNat_count]
  exact Nat.lt_of_lt_of_le (stepsOf_lt _) (Nat.pow_le_pow_right (by decide) (by omega))

/-- A count that is not zero is at least the steps of one. -/
theorem le_steps_count {n : UInt64} (h : n ≠ 0) : 2 ^ depth ≤ (ofNat n.toNat).steps := by
  have positive : 1 ≤ n.toNat := Nat.pos_of_ne_zero fun zero => h (UInt64.toNat_inj.mp zero)
  have one : (1022 + 1) * 2 ^ 52 ≤ nearestMagnitude n.toNat 1 :=
    le_nearestMagnitude (k := 0) (by decide) (by simpa using positive)
  rw [steps, magnitude_ofNat_count]
  exact le_stepsOf one (Nat.le_of_eq depth_eq)

end

theorem isFinite_div_counts (num : UInt64) {den : UInt64} (h : den ≠ 0) :
    ((ofNat num.toNat).div (ofNat den.toNat)).isFinite = true := by
  have quotient : (ofNat num.toNat).steps < (ofNat den.toNat).steps * 2 ^ 65 :=
    calc (ofNat num.toNat).steps
        < 2 ^ (depth + 65) := steps_count_lt num
      _ = 2 ^ depth * 2 ^ 65 := Nat.pow_add ..
      _ ≤ (ofNat den.toNat).steps * 2 ^ 65 := Nat.mul_le_mul_right _ (le_steps_count h)
  have finite := nearestMagnitude_lt (by decide) quotient
  rw [div, ofQuotient, isFinite, magnitude_ofMagnitude finite]
  exact decide_eq_true finite

end Binary64

namespace Metric

/-- A metric is finite unless its value is infinite or no number. -/
def IsFinite (m : Metric) : Prop := ∀ x, m = value x → x.isFinite = true

theorem isFinite_ratio (num den : UInt64) : (ratio num den).IsFinite := by
  intro x hx
  rw [ratio] at hx
  split_ifs at hx with h
  rw [← Metric.value.inj hx]
  exact Binary64.isFinite_div_counts num h

end Metric

end CycleLedger

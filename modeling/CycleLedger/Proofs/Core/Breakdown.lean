import Mathlib.Algebra.Group.Nat.Defs
import Mathlib.Tactic.SplitIfs
import CycleLedger.Ledger

/-! # Breakdowns over the naturals

A difference of counters is exact or exceeds the true one by 2^64. No such excess makes up for
another, so the rows of a core sum to its cycles exactly if none of the four differences of its
breakdown has wrapped, and modulo 2^64 they always do.
-/

namespace CycleLedger

/-- Whether a difference of counters wraps, as a number. -/
def borrow (a b : UInt64) : Nat := if b ≤ a then 0 else 1

theorem borrow_eq_zero_iff {a b : UInt64} : borrow a b = 0 ↔ b.toNat ≤ a.toNat := by
  rw [← UInt64.le_iff_toNat_le, borrow]
  split_ifs with h <;> simp [h]

theorem toNat_add_toNat_sub (a b : UInt64) :
    b.toNat + (a - b).toNat = a.toNat + 2 ^ 64 * borrow a b := by
  have ha := a.toNat_lt
  have hb := b.toNat_lt
  rw [UInt64.toNat_sub, borrow]
  split_ifs with h
  · rw [UInt64.le_iff_toNat_le] at h
    omega
  · rw [UInt64.le_iff_toNat_le] at h
    omega

/-- A difference is exact if what is taken away is there. -/
theorem toNat_add_toNat_sub_eq_iff (a b : UInt64) :
    b.toNat + (a - b).toNat = a.toNat ↔ b.toNat ≤ a.toNat := by
  rw [toNat_add_toNat_sub, ← borrow_eq_zero_iff]
  omega

namespace CoreCounters

variable (c : CoreCounters)

/-- How many differences of the breakdown have wrapped. -/
def wraps : Nat :=
  borrow c.cycles c.stalls + borrow c.frontend c.frontendCache +
    borrow c.backend c.backendCache + borrow c.retired c.simd

/-- The stall flags of all cycles, those on one cycle each for itself. -/
def stallFlags : Nat := c.badSpeculation.toNat + c.frontend.toNat + c.backend.toNat

/-- The cycles of all rows together, over the naturals. -/
def rowSum : Nat := c.rows.result.foldl (fun sum row => sum + row.cycles.toNat) 0

theorem stalls_toNat : c.stalls.toNat = c.stallFlags % 2 ^ 64 := by
  simp only [stalls, stallFlags, UInt64.toNat_add]
  omega

theorem retired_eq : c.retired = c.cycles - c.stalls := by rw [retired, stalls]

/-- The predictor is handed the retired instructions that the breakdown shows. -/
theorem finalize_retired : c.finalize.result.retired = c.retired := by
  rw [retired_eq]
  rfl

theorem isConsistent_iff_wraps : c.breakdown.isConsistent = true ↔ c.wraps = 0 := by
  simp only [wraps, Nat.add_eq_zero_iff, borrow_eq_zero_iff, ← UInt64.le_iff_toNat_le]
  simp only [Breakdown.isConsistent, Bool.and_eq_true, decide_eq_true_eq]
  rfl

theorem notices_eq_nil_iff : c.finalize.notices = [] ↔ c.finalize.result.isConsistent = true := by
  show c.breakdown.notices = [] ↔ c.breakdown.isConsistent = true
  rw [Breakdown.notices]
  split_ifs with h <;> simp [h]

/-- Each wrapped difference adds 2^64 to the rows, and so does each turn of the stalls. -/
theorem rowSum_eq :
    c.rowSum = c.cycles.toNat + 2 ^ 64 * (c.wraps + c.stallFlags / 2 ^ 64) := by
  have rows : c.rowSum = 0 + c.badSpeculation.toNat + c.frontendCache.toNat +
      (c.frontend - c.frontendCache).toNat + c.backendCache.toNat +
      (c.backend - c.backendCache).toNat + (c.retired - c.simd).toNat + c.simd.toNat := rfl
  have stalled := toNat_add_toNat_sub c.cycles c.stalls
  have frontend := toNat_add_toNat_sub c.frontend c.frontendCache
  have backend := toNat_add_toNat_sub c.backend c.backendCache
  have retiring := toNat_add_toNat_sub c.retired c.simd
  have turns := Nat.div_add_mod c.stallFlags (2 ^ 64)
  rw [← stalls_toNat] at turns
  rw [← retired_eq] at stalled
  rw [rows, wraps]
  simp only [stallFlags] at turns ⊢
  omega

theorem rowSum_mod : c.rowSum % 2 ^ 64 = c.cycles.toNat := by
  rw [rowSum_eq, Nat.add_mul_mod_self_left, Nat.mod_eq_of_lt c.cycles.toNat_lt]

theorem rowSum_eq_cycles_iff (few : c.stallFlags < 2 ^ 64) :
    c.rowSum = c.cycles.toNat ↔ c.breakdown.isConsistent = true := by
  rw [isConsistent_iff_wraps, rowSum_eq, Nat.div_eq_of_lt few]
  omega

theorem stalls_eq_stallFlags (few : c.stallFlags < 2 ^ 64) : c.stalls.toNat = c.stallFlags := by
  rw [stalls_toNat, Nat.mod_eq_of_lt few]

theorem stallFlags_add_retired (h : c.stallFlags ≤ c.cycles.toNat) :
    c.stallFlags + c.retired.toNat = c.cycles.toNat := by
  have stalls := c.stalls_eq_stallFlags (Nat.lt_of_le_of_lt h c.cycles.toNat_lt)
  rw [← stalls] at h ⊢
  rw [retired_eq]
  exact (toNat_add_toNat_sub_eq_iff c.cycles c.stalls).2 h

/-- The four comparisons of a consistent breakdown over the naturals. -/
theorem isConsistent_iff (few : c.stallFlags < 2 ^ 64) :
    c.breakdown.isConsistent = true ↔ c.stallFlags ≤ c.cycles.toNat ∧
      c.frontendCache.toNat ≤ c.frontend.toNat ∧ c.backendCache.toNat ≤ c.backend.toNat ∧
        c.simd.toNat ≤ c.cycles.toNat - c.stallFlags := by
  simp only [isConsistent_iff_wraps, wraps, Nat.add_eq_zero_iff, borrow_eq_zero_iff]
  rw [c.stalls_eq_stallFlags few]
  by_cases enough : c.stallFlags ≤ c.cycles.toNat
  · have retired := c.stallFlags_add_retired enough
    omega
  · simp [enough]

end CoreCounters

/-- The rows of a report sum to the cycles of the core modulo 2^64. -/
theorem Ledger.coreCycles_report (l : Ledger) :
    l.report.result.1.coreCycles = l.core.cycles := by
  have rows : l.report.result.1.coreCycles = 0 + l.core.badSpeculation + l.core.frontendCache +
      (l.core.frontend - l.core.frontendCache) + l.core.backendCache +
      (l.core.backend - l.core.backendCache) +
      (l.core.cycles - (l.core.badSpeculation + l.core.frontend + l.core.backend) - l.core.simd) +
      l.core.simd := rfl
  rw [rows]
  grind

end CycleLedger
